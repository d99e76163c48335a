import Rollout.Proofs.Run.Recorded
import Rollout.Proofs.Run.Stages
import Rollout.Upfile.Parser

/-!
Lines are cut before they come to the hosts, and not on the hosts. A line of the body is cut into
the lines that it expands to, and each of these is a call of its own; on a host it holds a newline
again only if the name of the host completes a reference in it. A line of a guard comes to the hosts
as it stands, and however many lines it expands to there, they are one call
(`run_handed_lines`).
-/

namespace Rollout

namespace Deployment

/-- The lines that lines of the body are cut into, up to the first one that does not expand. -/
def cutLines (d : Deployment) : List Text → List Text
  | [] => []
  | line :: lines => match substitute d.vars d.scope line with
    | .error _ => []
    | .ok t => Text.inkedLines t ++ cutLines d lines

/-- With the host in the place of its references, the line holds a reference again. -/
def Completes (d : Deployment) (host line : Text) : Prop :=
  ∃ name ∈ (d.table.insert "server" host).keys,
    key name <:+: pass (d.table.insert "server" host) line

/-- Where a line comes from that is handed to the shell for a host. -/
inductive ComesFrom (d : Deployment) (host text : Text) : Prop
  /-- It is what a line of a guard expands to on the host, with all its newlines. -/
  | check {line : Text} (hl : line ∈ d.guardLines) (he : d.hostLine host line = .ok text)
  /-- It is what one of the lines that the body is cut into expands to on the host. -/
  | work {line : Text} (hl : line ∈ d.cutLines d.command.lines) (hn : '\n' ∉ line)
    (he : d.hostLine host line = .ok text) (hc : '\n' ∈ text → d.Completes host line)

variable {d : Deployment} {host line text : Text}

/-! ### Newlines -/

theorem of_mem_inkedLines {t : Text} (hs : substitute d.vars d.scope line = .ok t)
    (hm : text ∈ Text.inkedLines t) : '\n' ∉ text ∧ KeyFree d.table text := by
  obtain ⟨-, -, -, hf⟩ := substitute_eq_ok_iff.mp hs
  have hpiece := (List.mem_filter.mp hm).1
  exact ⟨Text.not_mem_of_mem_split hpiece, hf.of_mem_split text hpiece⟩

/-- The lines that the body is cut into hold no newlines and, but for the server, no references. -/
theorem of_mem_cutLines : ∀ {lines : List Text}, line ∈ d.cutLines lines →
    '\n' ∉ line ∧ KeyFree d.table line
  | exec :: lines, h => by
    rw [cutLines] at h
    cases hs : substitute d.vars d.scope exec with
    | error e => simp [hs] at h
    | ok t =>
      rw [hs] at h
      rcases List.mem_append.mp h with h | h
      · exact of_mem_inkedLines hs h
      · exact of_mem_cutLines h

/-- The first pass on a host brings in nothing but the host. -/
theorem newline_notMem_pass (hf : KeyFree d.table line) (hn : '\n' ∉ line) (hh : '\n' ∉ host) :
    '\n' ∉ pass (d.table.insert "server" host) line := fun hm => by
  rcases mem_pass_cases hm with hm | ⟨name, value, hv, hkey, hm⟩
  · exact hn hm
  · rw [Dict.get?_insert] at hv
    split at hv
    · cases hv
      exact hh hm
    · exact hf name (Dict.mem_keys_iff.mpr ⟨value, hv⟩) hkey

/-- A line that the body was cut into holds a newline on a host only if a second pass is made. -/
theorem completes_of_newline (hf : KeyFree d.table line) (hn : '\n' ∉ line) (hh : '\n' ∉ host)
    (he : d.hostLine host line = .ok text) (hm : '\n' ∈ text) : d.Completes host line := by
  by_contra hno
  have hfree : KeyFree (d.table.insert "server" host) (pass (d.table.insert "server" host) line) :=
    fun name hname hkey => hno ⟨name, hname, hkey⟩
  rw [hostLine_eq_pass hfree] at he
  cases he
  exact newline_notMem_pass hf hn hh hm

/-! ### What a group hands out -/

variable {σ : Type} {hosts : List Text}

/-- All lines of a guard are handed out, each as it stands. -/
theorem runChecks_handsAlong (a : Agents σ) : ∀ lines : List Text,
    d.HandsAlong hosts (d.runChecks a hosts lines) lines
  | [] => handsAlong_pure true
  | line :: lines => by
    have h := handsAlong_bind (dispatch_handsAlong (d := d) a .check hosts line) fun passed =>
      handsAlong_bind (runChecks_handsAlong a lines) fun rest => handsAlong_pure (passed && rest)
    rwa [List.append_nil] at h

theorem runGuards_handsAlong (a : Agents σ) : ∀ guards : List Text,
    d.HandsAlong hosts (d.runGuards a hosts guards) (guards.flatMap d.linesOf)
  | [] => handsAlong_pure true
  | guard :: guards => by
    rw [runGuards, List.flatMap_cons, linesOf]
    cases d.upfile.get? guard with
    | none => exact handsAlong_fail _ _
    | some c =>
      have hchecks : d.HandsAlong hosts (d.runChecks a hosts c.lines) c.lines :=
        runChecks_handsAlong a c.lines
      have h := handsAlong_bind hchecks fun passed =>
        handsAlong_bind (runGuards_handsAlong a guards) fun rest => handsAlong_pure (passed && rest)
      rwa [List.append_nil] at h

/-- The body is handed out in the lines that it is cut into. -/
theorem runBody_handsAlong (a : Agents σ) : ∀ lines : List Text,
    d.HandsAlong hosts (d.runBody a hosts lines) (d.cutLines lines)
  | [] => handsAlong_pure ()
  | line :: lines => by
    rw [runBody, bodyLines_eq, cutLines]
    cases substitute d.vars d.scope line with
    | error cause => exact handsAlong_fail _ _
    | ok t =>
      exact handsAlong_bind (runLines_handsAlong a hosts (Text.inkedLines t)) fun _ =>
        runBody_handsAlong a lines

/-- The lines that a group with an outcome is handed. -/
def handedLines (d : Deployment) : Outcome → List Text
  | .satisfied => d.guardLines
  | .deployed => d.guardLines ++ d.cutLines d.command.lines

/-- A group is handed the lines of the guards and then those that the body is cut into, as far as it
comes, and each of them is one call for each place of a host. -/
theorem runGroup_handsOut (a : Agents σ) (hosts : List Text) (p : Progress σ) :
    ∃ events done, (d.runGroup a hosts p).2.events = p.events ++ events ∧
      done <+: d.handedLines .deployed ∧ d.HandsOut hosts done events ∧
      ∀ results, (d.runGroup a hosts p).1 = .ok results →
        ∃ outcome, results = hosts.map (⟨·, outcome⟩) ∧ done = d.handedLines outcome := by
  have hguards : d.HandsAlong hosts (d.runGuards a hosts d.command.guards) d.guardLines :=
    runGuards_handsAlong a d.command.guards
  obtain ⟨result, s, events, done, hr, hpre, hall, hh⟩ := hguards p
  rw [runGroup]
  cases result with
  | error e =>
    rw [Task.bind_apply_error hr]
    exact ⟨events, done, rfl, hpre.trans (List.prefix_append ..), hh, nofun⟩
  | ok passed =>
    rw [Task.bind_apply_ok hr]
    obtain rfl := hall ⟨passed, rfl⟩
    split
    · have hnone : d.HandsOut hosts [] [.upToDate hosts] := ⟨[], rfl, .nil⟩
      have hout := hh.append hnone
      rw [List.append_nil] at hout
      refine ⟨events ++ [.upToDate hosts], d.guardLines, ?_, List.prefix_append .., hout,
        fun results h => ⟨.satisfied, by cases h; rfl, rfl⟩⟩
      rw [← List.append_assoc]
      rfl
    · have hbody : d.HandsAlong hosts (d.runBody a hosts d.command.lines)
          (d.cutLines d.command.lines) := runBody_handsAlong a d.command.lines
      obtain ⟨result, s', events', done', hr', hpre', hall', hh'⟩ := hbody ⟨s, p.events ++ events⟩
      refine ⟨events ++ events', d.guardLines ++ done', ?_,
        (List.prefix_append_right_inj d.guardLines).mpr hpre',
        hh.append hh', fun results h => ?_⟩
      · rw [← List.append_assoc]
        cases result with
        | error e => rw [Task.bind_apply_error hr']
        | ok u => rw [Task.bind_apply_ok hr', Task.pure_apply]
      · cases result with
        | error e => rw [Task.bind_apply_error hr'] at h; cases h
        | ok u =>
          rw [Task.bind_apply_ok hr'] at h
          cases h
          exact ⟨.deployed, rfl, congrArg _ (hall' ⟨u, rfl⟩)⟩

/-! ### What a run hands out -/

theorem exists_line_of_handsOut {lines : List Text} {events : List Event}
    (h : d.HandsOut hosts lines events) (hm : (host, text) ∈ Event.handed events) :
    host ∈ hosts ∧ ∃ line ∈ lines, d.hostLine host line = .ok text := by
  obtain ⟨rounds, he, hr⟩ := h
  rw [he] at hm
  clear he
  induction hr with
  | nil => cases hm
  | @cons line round lines rounds hround _ ih =>
    rcases List.mem_append.mp hm with hm | hm
    · obtain ⟨host', hh, ht⟩ := List.mem_filterMap.mp (hround.mem_iff.mp hm)
      cases hl : d.hostLine host' line with
      | error e => simp [hostHanded, hl, Except.toOption] at ht
      | ok t =>
        simp only [hostHanded, hl, Except.toOption, Option.map_some, Option.some.injEq,
          Prod.mk.injEq] at ht
        obtain ⟨rfl, rfl⟩ := ht
        exact ⟨hh, line, List.mem_cons_self .., hl⟩
    · obtain ⟨hhost, l, hl, ht⟩ := ih hm
      exact ⟨hhost, l, List.mem_cons_of_mem _ hl, ht⟩

/-- The calls of a group come from lines of the guards and from lines that the body is cut into. -/
theorem comesFrom_of_handsOut {done : List Text} {events : List Event}
    (hh : ∀ host ∈ hosts, '\n' ∉ host) (h : d.HandsOut hosts done events)
    (hd : done <+: d.handedLines .deployed) (hm : (host, text) ∈ Event.handed events) :
    d.ComesFrom host text := by
  obtain ⟨hhost, line, hl, he⟩ := exists_line_of_handsOut h hm
  rcases List.mem_append.mp (hd.subset hl) with hl | hl
  · exact .check hl he
  · obtain ⟨hn, hf⟩ := of_mem_cutLines hl
    exact .work hl hn he (completes_of_newline hf hn (hh host hhost) he)

/-- A group is handed the lines of the guards as they stand and the lines that the body is cut into,
and each of them is one call for each place of a host. So in a whole run over hosts without newlines
a call of the body holds no newline, unless the host completes a reference; but a call of a guard
holds all lines that a line of the guard expands to. -/
theorem run_handed_lines (d : Deployment) (a : Agents σ) :
    (∀ hosts p, ∃ events done, (d.runGroup a hosts p).2.events = p.events ++ events ∧
      done <+: d.handedLines .deployed ∧ d.HandsOut hosts done events ∧
      ∀ results, (d.runGroup a hosts p).1 = .ok results →
        ∃ outcome, results = hosts.map (⟨·, outcome⟩) ∧ done = d.handedLines outcome) ∧
    ∀ (batches : Batches) (p : Progress σ),
      (∀ entry ∈ batches.entries, ∀ hosts ∈ entry.2, ∀ host ∈ hosts, '\n' ∉ host) →
      ∃ events, (d.run a batches p).2.events = p.events ++ events ∧
        ∀ handed ∈ Event.handed events, d.ComesFrom handed.1 handed.2 := by
  refine ⟨fun hosts p => runGroup_handsOut a hosts p, fun batches p hb => ?_⟩
  obtain ⟨started, hpre, hrun⟩ := exists_started d a batches p
  have hrecords : ∀ entry ∈ started, ∀ hosts ∈ entry.2,
      Task.Records (fun e => ∀ c, e.call? = some c → d.ComesFrom c.host c.line)
        (d.runGroup a hosts) := fun entry hentry hosts hhosts p => by
    obtain ⟨events, done, he, hd, hh, -⟩ := runGroup_handsOut (d := d) a hosts p
    refine ⟨events, he, fun e hm c hc => ?_⟩
    have hnl := hb entry (hpre.subset hentry) hosts hhosts
    refine comesFrom_of_handsOut hnl hh hd (List.mem_map.mpr ⟨c, ?_, rfl⟩)
    exact List.mem_filterMap.mpr ⟨e, hm, hc⟩
  obtain ⟨events, he, hall⟩ := runTags_records d a (fun e h c hc => by rw [h] at hc; cases hc)
    started p hrecords
  refine ⟨events, hrun ▸ he, fun handed hm => ?_⟩
  obtain ⟨c, hc, rfl⟩ := List.mem_map.mp hm
  obtain ⟨e, hem, hec⟩ := List.mem_filterMap.mp hc
  exact hall e hem c hec

/-! ### Two probes under one name -/

/-- Ship to a server in two steps, unless two probes pass; the steps and the probes have one name
each. -/
def probing : Deployment :=
  ⟨⟨.ofList [("deploy", ⟨["check"], ["$steps"]⟩), ("check", ⟨[], ["$probes"]⟩),
      ("probes", ⟨[], ["probe app", "probe env"]⟩),
      ("steps", ⟨[], ["push", "restart"]⟩)], "deploy"⟩,
    ⟨["check"], ["$steps"]⟩, .empty, []⟩

/-- A shell in which the lines fail that the test picks out, and nobody who is asked. -/
def failingAgents (fails : Text → Bool) : Agents Unit :=
  ⟨fun _ line s => (.ok ⟨if fails line then 1 else 0, [], []⟩, s), none, .inOrder⟩

/-- One server. -/
def oneServer : Batches := .ofList [("web", [["10.0.0.1"]])]

/-- What the server is called with if the probes fail. -/
def probingCalls : List (Text × Text) :=
  [("10.0.0.1", "probe app\nprobe env"), ("10.0.0.1", "push"), ("10.0.0.1", "restart")]

/-- The probes are one call with a newline, the steps are two calls without. -/
theorem run_handed_lines_probing :
    (∀ entry ∈ oneServer.entries, ∀ hosts ∈ entry.2, ∀ host ∈ hosts, '\n' ∉ host) ∧
      Event.handed (probing.run (failingAgents fun l => "probe".toList.isPrefixOf l) oneServer
        ⟨(), []⟩).2.events = probingCalls ∧
      ∀ handed ∈ probingCalls, probing.ComesFrom handed.1 handed.2 := by
  have hb : ∀ entry ∈ oneServer.entries, ∀ hosts ∈ entry.2, ∀ host ∈ hosts, '\n' ∉ host := by
    decide +kernel
  have hh : Event.handed (probing.run (failingAgents fun l => "probe".toList.isPrefixOf l) oneServer
      ⟨(), []⟩).2.events = probingCalls := by decide +kernel
  obtain ⟨events, he, hall⟩ := (run_handed_lines probing
    (failingAgents fun l => "probe".toList.isPrefixOf l)).2 oneServer ⟨(), []⟩ hb
  rw [List.nil_append] at he
  rw [← he, hh] at hall
  exact ⟨hb, hh, hall⟩

/-- The first of the two probes fails, but it is not seen to: both are one call, and the group is
satisfied. -/
theorem run_handed_lines_uncut :
    Upfile.parse
        "deploy check\n\t$steps\ncheck\n\t$probes\nprobes\n\tprobe app\n\tprobe env\nsteps\n\tpush\n\trestart\n" =
        .ok probing.upfile ∧
      '\n' ∉ ("10.0.0.1" : Text) ∧ '$' ∉ ("10.0.0.1" : Text) ∧
      Event.handedTo "10.0.0.1" (probing.run (failingAgents (· = "probe app".toList)) oneServer
        ⟨(), []⟩).2.events = ["probe app\nprobe env"] ∧
      (probing.run (failingAgents (· = "probe app".toList)) oneServer ⟨(), []⟩).1 =
        .ok (.ofList [("web", ⟨[[⟨"10.0.0.1", .satisfied⟩]], false⟩)]) := by
  refine ⟨?_, ?_, ?_, ?_, ?_⟩ <;> decide +kernel

/-- A host that completes a reference to a name of two lines. -/
example :
    let d : Deployment := ⟨⟨.empty, []⟩, ⟨[], ["echo $$server"]⟩, .ofList [("web", "a\nb")], []⟩
    d.cutLines d.command.lines = ["echo $$server"] ∧
      d.hostLine "web" "echo $$server" = .ok "echo a\nb" := by
  decide +kernel

end Deployment

end Rollout
