import Rollout.Proofs.Run.Handed
import Rollout.Proofs.Run.Outcome
import Rollout.Proofs.Substitution.Stages

/-!
The two stages of a line of the body. It is expanded without the host, the text is cut into lines,
and each of them is expanded for the host. Where the line and all values are tidy, the host is
handed just the lines that the whole line would come to if it were expanded for the host at once
(`body_stages_refine`).
-/

namespace Rollout

namespace Deployment

/-- The values of all names that a line of the body may refer to before it comes to a host. -/
def table (d : Deployment) : Dict Text := d.scope.visible d.vars

/-- On a host there is one name more. -/
theorem visible_hostScope (d : Deployment) (host : Text) :
    (d.hostScope host).visible d.vars = d.table.insert "server" host := rfl

theorem bodyLines_eq_ok {d : Deployment} {line t : Text}
    (h : substitute d.vars d.scope line = .ok t) : d.bodyLines line = .ok (Text.inkedLines t) := by
  rw [bodyLines_eq, h]
  rfl

/-- A text that one pass rids of its keys is expanded on the host by this pass. -/
theorem hostLine_eq_pass {d : Deployment} {host t : Text}
    (h : KeyFree (d.table.insert "server" host) (pass (d.table.insert "server" host) t)) :
    d.hostLine host t = .ok (pass (d.table.insert "server" host) t) := by
  rw [hostLine, substitute_eq_ok_iff, visible_hostScope]
  exact ⟨1, by decide, rfl, h⟩

variable {σ : Type} {d : Deployment} {W : Char → Bool} {host line r t : Text}

/-- What a line of the body hands to a host, whatever the shell answers: the lines that it stands
for, as far as they are run. -/
theorem runBody_handedTo {lines : List Text} {expanded : Text → Text}
    (hb : d.bodyLines line = .ok lines)
    (hl : ∀ l ∈ lines, d.hostLine host l = .ok (expanded l)) (a : Agents σ) (hosts : List Text)
    (p : Progress σ) :
    ∃ events, (d.runBody a hosts [line] p).2.events = p.events ++ events ∧
      Event.handedTo host events <+:
        (lines.map expanded).flatMap (List.replicate (hosts.count host)) ∧
      ((d.runBody a hosts [line] p).1 = .ok () → Event.handedTo host events =
        (lines.map expanded).flatMap (List.replicate (hosts.count host))) := by
  obtain ⟨result, s, events, done, hx, hpre, hall, hh⟩ :=
    runLines_handsAlong (d := d) a hosts lines p
  have hbody : d.runBody a hosts [line] p = (result, ⟨s, p.events ++ events⟩) := by
    rw [runBody, hb]
    cases result with
    | error e => exact Task.bind_apply_error hx _
    | ok u => exact Task.bind_apply_ok hx _
  have hto := hh.handedTo_eq fun l hm => hl l (hpre.subset hm)
  rw [hbody, List.flatMap_map]
  refine ⟨events, rfl, ?_, fun h => ?_⟩
  · obtain ⟨rest, rfl⟩ := hpre
    rw [hto, List.flatMap_append]
    exact List.prefix_append ..
  · rw [hto, hall ⟨(), h⟩]

/-- If a line expands for the host at once, its first stage succeeds, and what it would come to at
once is what one more pass makes of the text of the first stage. -/
theorem exists_first_stage (hlate : Late W d.table "server" host)
    (hline : Tidy W (d.table.insert "server" host) line) (h : d.hostLine host line = .ok r) :
    ∃ t, substitute d.vars d.scope line = .ok t ∧ KeyFree d.table t ∧
      Tidy W (d.table.insert "server" host) t ∧ r = pass (d.table.insert "server" host) t := by
  have hT := hlate.tidyTable_table
  have hline' := hlate.tidy_table hline
  have hchains : ∀ chain, ReferenceChain W d.table line chain → chain.length < 10 := fun chain hc =>
    (exists_substitute_iff hlate.tidyTable hline).mp ⟨r, h⟩ chain (hlate.chain hc)
  obtain ⟨t, ht⟩ := (exists_substitute_iff hT hline').mpr hchains
  obtain ⟨k, -, hk, hf⟩ := substitute_eq_ok_iff.mp ht
  refine ⟨t, ht, hf, hk ▸ hlate.tidy_iterate hline k, ?_⟩
  have hdirect := expansion_of_substitute hlate.tidyTable hline h
  exact hdirect.unique (hlate.expansion (expansion_of_substitute hT hline' ht) hline)

/-- The lines that the two stages come to are those that the line comes to at once. -/
theorem inkedLines_pass (hlate : Late W d.table "server" host) (hnl : W '\n' = false)
    (hhost : Text.isBlankText host = false) (hcut : '\n' ∉ host)
    (ht : Tidy W (d.table.insert "server" host) t) (hf : KeyFree d.table t) :
    Text.inkedLines (pass (d.table.insert "server" host) t) =
      (Text.inkedLines t).map (pass (d.table.insert "server" host)) := by
  have hc : W '\n' = false ∧ '\n' ≠ '$' := ⟨hnl, by decide⟩
  rw [Text.inkedLines, hlate.split_pass hc hcut ht hf, List.filter_map, Text.inkedLines]
  refine congrArg _ (List.filter_congr fun piece hp => ?_)
  rw [Function.comp_apply, hlate.isBlankText_pass hhost (ht.of_mem_split hc piece hp)
    (hf.of_mem_split piece hp)]

/-- If a line of the body expands for the host at once, then its two stages succeed, and they hand
to the shell of the host the lines of this expansion that are not blank, in order: each once for
each place of the host in its group, and all of them unless one fails. -/
theorem body_stages_refine (hlate : Late W d.table "server" host) (hnl : W '\n' = false)
    (hhost : Text.isBlankText host = false) (hcut : '\n' ∉ host)
    (hline : Tidy W (d.table.insert "server" host) line) (h : d.hostLine host line = .ok r) :
    (∃ lines, d.bodyLines line = .ok lines ∧
      lines.map (d.hostLine host) = (Text.inkedLines r).map .ok) ∧
    ∀ {σ : Type} (a : Agents σ) (hosts : List Text) (p : Progress σ),
      ∃ events, (d.runBody a hosts [line] p).2.events = p.events ++ events ∧
        Event.handedTo host events <+:
          (Text.inkedLines r).flatMap (List.replicate (hosts.count host)) ∧
        ((d.runBody a hosts [line] p).1 = .ok () → Event.handedTo host events =
          (Text.inkedLines r).flatMap (List.replicate (hosts.count host))) := by
  obtain ⟨t, ht, hf, htidy, rfl⟩ := exists_first_stage hlate hline h
  have hb : d.bodyLines line = .ok (Text.inkedLines t) := bodyLines_eq_ok ht
  have hl : ∀ l ∈ Text.inkedLines t,
      d.hostLine host l = .ok (pass (d.table.insert "server" host) l) := fun l hm => by
    have hpiece := (List.mem_filter.mp hm).1
    exact hostLine_eq_pass (hlate.keyFree_pass
      (htidy.of_mem_split ⟨hnl, by decide⟩ l hpiece) (hf.of_mem_split l hpiece))
  rw [inkedLines_pass hlate hnl hhost hcut htidy hf]
  refine ⟨⟨_, hb, ?_⟩, fun a hosts p => runBody_handedTo hb hl a hosts p⟩
  rw [List.map_map]
  exact List.map_congr_left hl

/-! ### A restart in two lines -/

/-- Restart a service on a server, which the body and two values refer to. -/
def restarting : Deployment :=
  ⟨⟨.ofList [("deploy", ⟨[], ["$restart && ssh $remote true"]⟩),
      ("restart", ⟨[], ["stop $server", "start $server"]⟩), ("remote", ⟨[], ["$USER@$server"]⟩)],
      "deploy"⟩,
    ⟨[], ["$restart && ssh $remote true"]⟩, .ofList [("USER", "ops")], "c0ffee"⟩

/-- A line of the body that comes to two lines is handed to each of the two places of the host. -/
theorem body_stages_restarting :
    Late isNameChar restarting.table "server" "web1" ∧ isNameChar '\n' = false ∧
      Text.isBlankText "web1" = false ∧ '\n' ∉ ("web1" : Text) ∧
      Tidy isNameChar (restarting.table.insert "server" "web1") "$restart && ssh $remote true" ∧
      restarting.hostLine "web1" "$restart && ssh $remote true" =
        .ok "stop web1\nstart web1 && ssh ops@web1 true" ∧
      (∃ lines, restarting.bodyLines "$restart && ssh $remote true" = .ok lines ∧
        lines.map (restarting.hostLine "web1") =
          [.ok "stop web1", .ok "start web1 && ssh ops@web1 true"]) ∧
      Event.handedTo "web1" (restarting.runBody shippingAgents ["web1", "b", "web1"]
          ["$restart && ssh $remote true"] ⟨(), []⟩).2.events =
        ["stop web1", "stop web1", "start web1 && ssh ops@web1 true",
          "start web1 && ssh ops@web1 true"] := by
  have hlate : Late isNameChar restarting.table "server" "web1" := by decide +kernel
  have hnl : isNameChar '\n' = false := by decide
  have hhost : Text.isBlankText "web1" = false := by decide
  have hcut : '\n' ∉ ("web1" : Text) := by decide
  have hline : Tidy isNameChar (restarting.table.insert "server" "web1")
      "$restart && ssh $remote true" := by decide +kernel
  have h : restarting.hostLine "web1" "$restart && ssh $remote true" =
      .ok "stop web1\nstart web1 && ssh ops@web1 true" := by decide +kernel
  have hok : (restarting.runBody shippingAgents ["web1", "b", "web1"]
      ["$restart && ssh $remote true"] ⟨(), []⟩).1 = .ok () := by decide +kernel
  obtain ⟨hstages, hrun⟩ := body_stages_refine hlate hnl hhost hcut hline h
  obtain ⟨events, he, -, hall⟩ := hrun shippingAgents ["web1", "b", "web1"] ⟨(), []⟩
  rw [List.nil_append] at he
  exact ⟨hlate, hnl, hhost, hcut, hline, h, hstages, he ▸ hall hok⟩

end Deployment

end Rollout
