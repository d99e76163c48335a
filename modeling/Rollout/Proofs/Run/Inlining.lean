import Rollout.Proofs.Run.Stages
import Rollout.Proofs.Substitution.Separation
import Rollout.Proofs.Substitution.Visibility
import Rollout.Proofs.Upfile.WellFormed

/-!
A line of the body that refers to a command, and to nothing else, stands for the lines of this
command. Where the reference expands, the lines of the command expand one by one, and they are cut
into the same lines as the reference is; so a group takes the same steps, from the same states of
the agents, as if the lines were written in its place (`runGroup_inline`).
-/

namespace Rollout

variable {σ α β γ : Type}

theorem Task.bind_assoc (x : Task σ α) (f : α → Task σ β) (g : β → Task σ γ) :
    x >>= f >>= g = x >>= fun a => f a >>= g := by
  funext p
  cases h : x p with
  | mk r p' => cases r with
    | error e => rw [bind_apply_error h, bind_apply_error (bind_apply_error h f)]
    | ok a => rw [bind_apply_ok h, bind_apply, bind_apply_ok h, bind_apply]

/-! ### The value of a command -/

/-- The lines of a command that can be written, but for blanks at its start, are joined to its value
as they are. -/
theorem Upfile.WellFormed.value_eq_join {u : Upfile} {name : Text} {c : Command} (h : u.WellFormed)
    (hc : u.get? name = some c)
    (hstart : ∀ line ∈ c.lines.head?, ∀ x ∈ line.head?, Text.isBlank x = false) :
    c.value = Text.join ['\n'] c.lines := by
  have hlines := h.isLine name c hc
  have hlast : ∀ x ∈ (Text.join ['\n'] c.lines).getLast?, Text.isBlank x = false :=
    Text.forall_getLast?_join fun line hl =>
      ⟨(hlines line hl).ne_nil, (hlines line hl).getLast_not_blank⟩
  rw [Command.value, Text.trim, Text.trimStart_eq_self, Text.trimEnd_eq_self hlast]
  obtain ⟨line, lines, hcl⟩ := List.exists_cons_of_ne_nil (h.lines_ne_nil name c hc)
  rw [hcl] at hlines hstart ⊢
  rw [Text.head?_join (hlines line (List.mem_cons_self ..)).ne_nil]
  exact hstart line rfl

/-- The key of a name expands to what its value expands to. -/
theorem substitute_key {vars : Dict Text} {s : Scope} {name value r : Text}
    (hv : (s.visible vars).get? name = some value) (h : substitute vars s (key name) = .ok r) :
    substitute vars s value = .ok r := by
  have hpass : pass (s.visible vars) (key name) = value := by
    have hlongest : LongestAt (s.visible vars) name (name ++ []) :=
      ⟨List.prefix_append .., fun n _ hn => (List.append_nil name ▸ hn).length_le⟩
    have hkey := pass_of_longestAt hv hlongest
    rwa [List.append_nil, show pass (s.visible vars) [] = [] from rfl, List.append_nil] at hkey
  obtain ⟨k, hk, hr, hf⟩ := substitute_eq_ok_iff.mp h
  cases k with
  | zero =>
    -- the key itself is not free of keys
    exact absurd List.infix_rfl (hr ▸ hf name (Dict.mem_keys_iff.mpr ⟨value, hv⟩))
  | succ k =>
    rw [Function.iterate_succ_apply, hpass] at hr
    exact substitute_eq_ok_iff.mpr ⟨k, (Nat.le_succ k).trans hk, hr, hf⟩

namespace Deployment

variable {d : Deployment} {a : Agents σ} {hosts : List Text}

/-! ### One list of lines after another -/

theorem runLines_append (d : Deployment) (a : Agents σ) (hosts ms : List Text) : ∀ ls : List Text,
    d.runLines a hosts (ls ++ ms) = d.runLines a hosts ls >>= fun _ => d.runLines a hosts ms
  | [] => rfl
  | l :: ls => by
    rw [List.cons_append, runLines, runLines, Task.bind_assoc]
    exact congrArg _ (funext fun _ => runLines_append d a hosts ms ls)

theorem runBody_append (d : Deployment) (a : Agents σ) (hosts ms : List Text) : ∀ ls : List Text,
    d.runBody a hosts (ls ++ ms) = d.runBody a hosts ls >>= fun _ => d.runBody a hosts ms
  | [] => rfl
  | l :: ls => by
    rw [List.cons_append, runBody, runBody]
    cases d.bodyLines l with
    | error cause => rfl
    | ok expanded =>
      dsimp only
      rw [Task.bind_assoc]
      exact congrArg _ (funext fun _ => runBody_append d a hosts ms ls)

/-- Lines that all expand are run as all the lines that they stand for. -/
theorem runBody_of_forall₂ {ls : List Text} {expanded : List (List Text)}
    (h : List.Forall₂ (fun l ms => d.bodyLines l = .ok ms) ls expanded) :
    d.runBody a hosts ls = d.runLines a hosts expanded.flatten := by
  induction h with
  | nil => rfl
  | cons hl _ ih =>
    rw [runBody, hl, List.flatten_cons, runLines_append, ← ih]

/-! ### What a reference to a command comes to -/

/-- The values of the first stage by look-up. -/
theorem get?_table (d : Deployment) (name : Text) : d.table.get? name =
    if name = "checksum".toList then some d.checksum
    else (d.upfile.value? name).or (d.vars.get? name) := by
  rw [table, Scope.get?_visible, scope, Scope.injection?_withValue]
  split <;> rfl

/-- No name that a line of the body may refer to holds a newline. -/
theorem separates_newline (hu : d.upfile.WellFormed) (hvars : ∀ name ∈ d.vars.keys, '\n' ∉ name) :
    Separates d.table '\n' := by
  refine ⟨by decide, fun name hn => ?_⟩
  obtain ⟨v, hv⟩ := Dict.mem_keys_iff.mp hn
  rw [get?_table] at hv
  split at hv
  · next he => rw [he]; decide
  · rcases Option.or_eq_some_iff.mp hv with hv | ⟨-, hv⟩
    · obtain ⟨c, hc, -⟩ := Option.bind_eq_some_iff.mp hv
      exact fun hm => ((hu.isName name c hc).chars _ hm).2.2.2.1 rfl
    · exact hvars name (Dict.mem_keys_iff.mpr ⟨v, hv⟩)

/-- Where a reference to a command expands, the lines of the command expand too, and the reference
stands for all the lines that they stand for. -/
theorem bodyLines_key {n r : Text} {c : Command} (hu : d.upfile.WellFormed)
    (hvars : ∀ name ∈ d.vars.keys, '\n' ∉ name) (hc : d.upfile.get? n = some c)
    (hg : c.guards = []) (hn : n ≠ "checksum".toList)
    (hstart : ∀ line ∈ c.lines.head?, ∀ x ∈ line.head?, Text.isBlank x = false)
    (h : substitute d.vars d.scope (key n) = .ok r) :
    ∃ expanded, List.Forall₂ (fun l ms => d.bodyLines l = .ok ms) c.lines expanded ∧
      d.bodyLines (key n) = .ok expanded.flatten := by
  have hvalue : d.table.get? n = some c.value := by
    rw [get?_table, if_neg hn, Upfile.value?, hc, Option.bind_some, if_pos hg]
    rfl
  have hlines := substitute_key hvalue h
  rw [hu.value_eq_join hc hstart] at hlines
  obtain ⟨rs, hrs, rfl⟩ :=
    (substitute_join (separates_newline hu hvars) (hu.lines_ne_nil n c hc)).mp hlines
  refine ⟨rs.map Text.inkedLines, ?_, ?_⟩
  · exact List.forall₂_map_right_iff.mpr (hrs.imp fun _ _ hl => bodyLines_eq_ok hl)
  · have hne : rs ≠ [] := by
      rintro rfl
      exact hu.lines_ne_nil n c hc (List.forall₂_nil_right_iff.mp hrs)
    rw [bodyLines_eq_ok h, Text.inkedLines, Text.split_join_eq_flatMap hne, List.filter_flatMap]
    rfl

/-! ### The whole group -/

/-- The deployment with another command to run. -/
def withCommand (d : Deployment) (guards lines : List Text) : Deployment :=
  { d with command := ⟨guards, lines⟩ }

section

variable (d : Deployment) (a : Agents σ) (hosts guards lines : List Text)

theorem runChecks_withCommand : ∀ ls : List Text,
    (d.withCommand guards lines).runChecks a hosts ls = d.runChecks a hosts ls
  | [] => rfl
  | l :: ls => by
    rw [runChecks, runChecks, runChecks_withCommand ls]
    rfl

theorem runGuards_withCommand : ∀ gs : List Text,
    (d.withCommand guards lines).runGuards a hosts gs = d.runGuards a hosts gs
  | [] => rfl
  | g :: gs => by
    rw [runGuards, runGuards, runGuards_withCommand gs,
      show (d.withCommand guards lines).upfile = d.upfile from rfl]
    cases d.upfile.get? g with
    | none => rfl
    | some c => exact congrArg (· >>= _) (runChecks_withCommand d a hosts guards lines c.lines)

theorem runLines_withCommand : ∀ ls : List Text,
    (d.withCommand guards lines).runLines a hosts ls = d.runLines a hosts ls
  | [] => rfl
  | l :: ls => by
    rw [runLines, runLines, runLines_withCommand ls]
    rfl

theorem runBody_withCommand : ∀ ls : List Text,
    (d.withCommand guards lines).runBody a hosts ls = d.runBody a hosts ls
  | [] => rfl
  | l :: ls => by
    rw [runBody, runBody, runBody_withCommand ls,
      show (d.withCommand guards lines).bodyLines l = d.bodyLines l from rfl]
    cases d.bodyLines l with
    | error cause => rfl
    | ok expanded => exact congrArg (· >>= _) (runLines_withCommand d a hosts guards lines expanded)

/-- What a group comes to depends on its command by the guards, and by the body that is run. -/
theorem runGroup_withCommand_congr {lines' : List Text}
    (h : d.runBody a hosts lines = d.runBody a hosts lines') :
    (d.withCommand guards lines).runGroup a hosts =
      (d.withCommand guards lines').runGroup a hosts := by
  have hbody : (d.withCommand guards lines).runBody a hosts lines =
      (d.withCommand guards lines').runBody a hosts lines' := by
    rw [runBody_withCommand, runBody_withCommand]
    exact h
  simp only [runGroup, runGuards_withCommand]
  rw [show (d.withCommand guards lines).command = ⟨guards, lines⟩ from rfl,
    show (d.withCommand guards lines').command = ⟨guards, lines'⟩ from rfl, hbody]

end

/-- A line of the body that is a reference to a command without guards, and nothing else, stands for
the lines of this command: with these in its place the group comes to the same result, has the same
calls made in the same order, and leaves the agents in the same state, from whatever progress it
starts. -/
theorem runGroup_inline {text n r : Text} {c : Command} (hu : Upfile.parse text = .ok d.upfile)
    (hvars : ∀ name ∈ d.vars.keys, '\n' ∉ name) (hc : d.upfile.get? n = some c)
    (hg : c.guards = []) (hn : n ≠ "checksum".toList)
    (hstart : ∀ line ∈ c.lines.head?, ∀ x ∈ line.head?, Text.isBlank x = false)
    (h : substitute d.vars d.scope (key n) = .ok r) (a : Agents σ)
    (hosts guards before after : List Text) :
    (d.withCommand guards (before ++ [key n] ++ after)).runGroup a hosts =
      (d.withCommand guards (before ++ c.lines ++ after)).runGroup a hosts := by
  obtain ⟨expanded, hlines, hkey⟩ :=
    bodyLines_key (Upfile.wellFormed_of_parse hu) hvars hc hg hn hstart h
  have hone : d.runBody a hosts [key n] = d.runBody a hosts c.lines := by
    have hkeys : List.Forall₂ (fun l ms => d.bodyLines l = .ok ms) [key n] [expanded.flatten] :=
      .cons hkey .nil
    rw [runBody_of_forall₂ hlines, runBody_of_forall₂ hkeys, List.flatten_singleton]
  have hbody : d.runBody a hosts (before ++ [key n] ++ after) =
      d.runBody a hosts (before ++ c.lines ++ after) := by
    rw [runBody_append, runBody_append, runBody_append, runBody_append, hone]
  exact runGroup_withCommand_congr d a hosts guards _ hbody

/-! ### Steps under one name -/

/-- A command whose steps, and some of these again, have a name of their own. -/
def unpackingSource : Text :=
  "deploy fresh\n\tstop\n\t$steps\n\tstart\nfresh\n\tprobe $server\n" ++
    "steps\n\tfetch $artifact\n\t$ship\n\t  clean\nship\n\tpush $server\n\tlog\n"

/-- The steps. -/
def unpackingSteps : List Text := ["fetch $artifact", "$ship", "  clean"]

/-- Fetch an artifact and push it to a server, unless the server is fresh. -/
def unpacking : Deployment :=
  ⟨⟨.ofList [("deploy", ⟨["fresh"], ["stop", "$steps", "start"]⟩),
      ("fresh", ⟨[], ["probe $server"]⟩), ("steps", ⟨[], unpackingSteps⟩),
      ("ship", ⟨[], ["push $server", "log"]⟩)], "deploy"⟩,
    ⟨["fresh"], ["stop", "$steps", "start"]⟩, .ofList [("artifact", "app.tar")], "c0ffee"⟩

/-- The same with these lines in the place of the steps. -/
def unpackingBy (steps : List Text) : Deployment :=
  unpacking.withCommand ["fresh"] (["stop".toList] ++ steps ++ ["start".toList])

/-- The calls for two servers, of which the second one cannot be pushed to. -/
def unpackingCalls : List (Text × Text) :=
  [("b", "probe b"), ("c", "probe c"), ("b", "stop"), ("c", "stop"), ("b", "fetch app.tar"),
    ("c", "fetch app.tar"), ("b", "push b"), ("c", "push c")]

/-- A group that fails in the middle of the steps fails in the same way, after the same calls, with
the steps written out. -/
theorem runGroup_inline_unpacking :
    Upfile.parse unpackingSource = .ok unpacking.upfile ∧
      (∀ name ∈ unpacking.vars.keys, '\n' ∉ name) ∧
      unpacking.upfile.get? "steps" = some ⟨[], unpackingSteps⟩ ∧
      ("steps".toList ≠ "checksum".toList) ∧
      (∀ line ∈ unpackingSteps.head?, ∀ x ∈ line.head?, Text.isBlank x = false) ∧
      substitute unpacking.vars unpacking.scope (key "steps") =
        .ok "fetch app.tar\npush $server\nlog\n  clean" ∧
      ∀ steps ∈ [[key "steps"], unpackingSteps],
        let group := (unpackingBy steps).runGroup shippingAgents ["b", "c"] ⟨(), []⟩
        group.1 = .error (.exit "c" "push c" 3) ∧ Event.handed group.2.events = unpackingCalls := by
  have hu : Upfile.parse unpackingSource = .ok unpacking.upfile := by decide +kernel
  have hvars : ∀ name ∈ unpacking.vars.keys, '\n' ∉ name := by decide +kernel
  have hc : unpacking.upfile.get? "steps" = some ⟨[], unpackingSteps⟩ := by decide +kernel
  have hn : "steps".toList ≠ "checksum".toList := by decide
  have hstart : ∀ line ∈ unpackingSteps.head?, ∀ x ∈ line.head?, Text.isBlank x = false := by
    rintro _ ⟨⟩ _ ⟨⟩
    rfl
  have h : substitute unpacking.vars unpacking.scope (key "steps") =
      .ok "fetch app.tar\npush $server\nlog\n  clean" := by
    decide +kernel
  have hnamed : let group := (unpackingBy [key "steps"]).runGroup shippingAgents ["b", "c"] ⟨(), []⟩
      group.1 = .error (.exit "c" "push c" 3) ∧ Event.handed group.2.events = unpackingCalls := by
    decide +kernel
  have hinline : (unpackingBy [key "steps"]).runGroup shippingAgents ["b", "c"] =
      (unpackingBy unpackingSteps).runGroup shippingAgents ["b", "c"] :=
    runGroup_inline hu hvars hc rfl hn hstart h ..
  refine ⟨hu, hvars, hc, hn, hstart, h, fun steps hs => ?_⟩
  rcases List.mem_cons.mp hs with rfl | hs
  · exact hnamed
  · obtain rfl := List.mem_singleton.mp hs
    rw [← hinline]
    exact hnamed

end Deployment

end Rollout
