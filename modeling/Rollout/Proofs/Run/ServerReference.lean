import Rollout.Proofs.Run.Stages
import Rollout.Upfile.Parser

/-!
A reference to the server. In a line of a guard it is the host, whatever else is called so
(`hostLine_server`). A line of the body is expanded before it comes to a host, and there a command
or a variable takes the reference if its name is `server` or starts it: then the line is the same
for all hosts (`bodyLines_server_captured`). Only if there is none the reference is kept for the
host (`bodyLines_server`).
-/

namespace Rollout

theorem Text.inkedLines_of_notMem {t : Text} (h : '\n' ∉ t) (hb : Text.isBlankText t = false) :
    Text.inkedLines t = [t] := by
  simp [Text.inkedLines, Text.split_of_notMem h, hb]

namespace Deployment

variable {d : Deployment} {a b host line : Text}

/-- A line without dollar signs is the same on all hosts. -/
theorem hostLine_of_notMem (h : '$' ∉ line) : d.hostLine host line = .ok line := by
  rw [hostLine, substitute_eq_ok_iff]
  exact ⟨0, Nat.zero_le 9, rfl, keyFree_of_notMem h⟩

/-- On the host the reference is to the host, if no longer name fits. -/
theorem hostLine_server (ha : '$' ∉ a) (hb : '$' ∉ b) (hh : '$' ∉ host)
    (hlong : ∀ name ∈ d.table.keys, "server".toList <+: name → name <+: "server".toList ++ b →
      name = "server".toList) :
    d.hostLine host (a ++ key "server" ++ b) = .ok (a ++ host ++ b) := by
  have hlongest : LongestAt (d.table.insert "server" host) "server" ("server".toList ++ b) := by
    refine ⟨List.prefix_append .., fun name hn hp => ?_⟩
    rcases Dict.mem_keys_insert.mp hn with rfl | hn
    · exact le_rfl
    · by_contra hlt
      have hserver : "server".toList <+: name :=
        List.prefix_of_prefix_length_le (List.prefix_append ..) hp (by omega)
      exact hlt (hlong name hn hserver hp ▸ le_rfl)
  have hpass : pass (d.table.insert "server" host) (a ++ key "server" ++ b) = a ++ host ++ b := by
    rw [List.append_assoc, pass_append_of_notMem ha,
      pass_of_longestAt (Dict.get?_insert_self ..) hlongest, (keyFree_of_notMem hb).pass_eq_self,
      List.append_assoc]
  have hfree : '$' ∉ a ++ host ++ b := by simp [ha, hb, hh]
  rw [← hpass]
  exact hostLine_eq_pass (hpass.symm ▸ keyFree_of_notMem hfree)

/-- A line of the body with a reference that no name takes comes to the hosts as it is. -/
theorem bodyLines_server (ha : '$' ∉ a) (hb : '$' ∉ b) (hnl : '\n' ∉ a ++ b)
    (hno : NoKeyAt d.table (key "server" ++ b)) :
    d.bodyLines (a ++ key "server" ++ b) = .ok [a ++ key "server" ++ b] := by
  obtain ⟨hna, hnb⟩ := not_or.mp (List.mem_append.not.mp hnl)
  have hserver : '$' ∉ "server".toList ++ b :=
    List.mem_append.not.mpr (not_or.mpr ⟨by decide, hb⟩)
  have hfree : KeyFree d.table (a ++ key "server" ++ b) := by
    rw [List.append_assoc, keyFree_append_of_notMem ha]
    exact keyFree_cons.mpr ⟨hno, keyFree_of_notMem hserver⟩
  have hline : '\n' ∉ a ++ key "server" ++ b := by
    simp only [List.mem_append, not_or]
    exact ⟨⟨hna, by decide⟩, hnb⟩
  have hinked : Text.isBlankText (a ++ key "server" ++ b) = false :=
    List.all_eq_false.mpr ⟨'$', by simp [key], by decide⟩
  rw [bodyLines_eq_ok (substitute_eq_ok_iff.mpr ⟨0, Nat.zero_le 9, rfl, hfree⟩)]
  exact congrArg _ (Text.inkedLines_of_notMem hline hinked)

/-- A name that starts what follows the dollar sign takes the reference: the line is the same for
all hosts. -/
theorem bodyLines_server_captured {name value rest : Text} (ha : '$' ∉ a) (hb : '$' ∉ b)
    (hv : d.table.get? name = some value) (hd : '$' ∉ value)
    (hl : LongestAt d.table name ("server".toList ++ b))
    (hrest : "server".toList ++ b = name ++ rest) :
    d.bodyLines (a ++ key "server" ++ b) = .ok (Text.inkedLines (a ++ value ++ rest)) ∧
      ∀ line ∈ Text.inkedLines (a ++ value ++ rest), ∀ host, d.hostLine host line = .ok line := by
  have hserver : '$' ∉ "server".toList ++ b :=
    List.mem_append.not.mpr (not_or.mpr ⟨by decide, hb⟩)
  have hr : '$' ∉ rest := fun h => hserver (hrest ▸ List.mem_append_right name h)
  have hkey : key "server" ++ b = key name ++ rest := congrArg ('$' :: ·) hrest
  have hpass : pass d.table (a ++ key "server" ++ b) = a ++ value ++ rest := by
    rw [List.append_assoc, pass_append_of_notMem ha, hkey, pass_of_longestAt hv (hrest ▸ hl),
      (keyFree_of_notMem hr).pass_eq_self, List.append_assoc]
  have hfree : '$' ∉ a ++ value ++ rest := by
    simp only [List.mem_append, not_or]
    exact ⟨⟨ha, hd⟩, hr⟩
  refine ⟨bodyLines_eq_ok ?_, fun line hline host => hostLine_of_notMem ?_⟩
  · exact substitute_eq_ok_iff.mpr ⟨1, by decide, hpass, keyFree_of_notMem hfree⟩
  · -- a line of the text has no dollar sign that the text has not
    refine Text.forall_mem_split (P := fun t => '$' ∉ t) (fun t u h => ?_) hfree line
      (List.mem_filter.mp hline).1
    simp only [List.mem_append, List.mem_cons, not_or] at h
    exact ⟨h.1, h.2.2⟩

/-- On a host, as in a guard, a reference to the server is to the host. In the body it is so if no
visible name starts it; otherwise the longest such name takes it, and the line is the same for all
hosts. -/
theorem server_reference (ha : '$' ∉ a) (hb : '$' ∉ b) (hnl : '\n' ∉ a ++ b) (hh : '$' ∉ host)
    (hlong : ∀ name ∈ d.table.keys, "server".toList <+: name → name <+: "server".toList ++ b →
      name = "server".toList) :
    d.hostLine host (a ++ key "server" ++ b) = .ok (a ++ host ++ b) ∧
    (NoKeyAt d.table (key "server" ++ b) →
      d.bodyLines (a ++ key "server" ++ b) = .ok [a ++ key "server" ++ b]) ∧
    ∀ name value rest, d.table.get? name = some value →
      LongestAt d.table name ("server".toList ++ b) → "server".toList ++ b = name ++ rest →
      '$' ∉ value →
      d.bodyLines (a ++ key "server" ++ b) = .ok (Text.inkedLines (a ++ value ++ rest)) ∧
        ∀ line ∈ Text.inkedLines (a ++ value ++ rest), ∀ host, d.hostLine host line = .ok line :=
  ⟨hostLine_server ha hb hh hlong, fun hno => bodyLines_server ha hb hnl hno,
    fun _ _ _ hv hl hrest hd => bodyLines_server_captured ha hb hv hd hl hrest⟩

/-! ### A variable named like the server -/

/-- Ping a server that a probe does not find, where a variable is named like the server. -/
def pinging : Deployment :=
  ⟨⟨.ofList [("deploy", ⟨["check"], ["ping $server"]⟩), ("check", ⟨[], ["probe $server"]⟩)],
      "deploy"⟩,
    ⟨["check"], ["ping $server"]⟩, .ofList [("server", "elsewhere")], []⟩

/-- The probe fails, and everything else succeeds. -/
def pingingAgents : Agents Unit :=
  ⟨fun _ line s => (.ok ⟨if "probe".toList <+: line then 1 else 0, [], []⟩, s), none, .inOrder⟩

/-- On the host the reference is to the host, and in the body it is to the variable. -/
theorem server_reference_pinging :
    '$' ∉ ("ping " : Text) ∧ '\n' ∉ ("ping " : Text) ++ [] ∧ '$' ∉ ("10.0.0.1" : Text) ∧
      (∀ name ∈ pinging.table.keys, "server".toList <+: name → name <+: "server".toList ++ [] →
        name = "server".toList) ∧
      pinging.hostLine "10.0.0.1" "ping $server" = .ok "ping 10.0.0.1" ∧
      pinging.bodyLines "ping $server" = .ok ["ping elsewhere"] := by
  have ha : '$' ∉ ("ping " : Text) := by decide
  have hnl : '\n' ∉ ("ping " : Text) ++ [] := by decide
  have hh : '$' ∉ ("10.0.0.1" : Text) := by decide
  have hlong : ∀ name ∈ pinging.table.keys, "server".toList <+: name →
      name <+: "server".toList ++ [] → name = "server".toList := by decide +kernel
  obtain ⟨hhost, -, hcaptured⟩ := server_reference (d := pinging) ha List.not_mem_nil hnl hh hlong
  obtain ⟨hbody, -⟩ := hcaptured "server" "elsewhere" [] (by decide +kernel)
    ⟨List.prefix_append .., by decide +kernel⟩ rfl (by decide)
  exact ⟨ha, hnl, hh, hlong, hhost, hbody⟩

/-- The host is probed by a guard, but it is another server that the body pings. -/
theorem server_reference_not_host :
    Upfile.parse "deploy check\n\tping $server\n\ncheck\n\tprobe $server\n" =
        .ok pinging.upfile ∧
      (∀ name ∈ pinging.table.keys, "server".toList <+: name → name <+: "server".toList →
        name = "server".toList) ∧
      Event.handedTo "10.0.0.1"
          (pinging.run pingingAgents (.ofList [("web", [["10.0.0.1"]])]) ⟨(), []⟩).2.events =
        ["probe 10.0.0.1", "ping elsewhere"] := by
  refine ⟨?_, ?_, ?_⟩ <;> decide +kernel

end Deployment

end Rollout
