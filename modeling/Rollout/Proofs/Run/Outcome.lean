import Rollout.Proofs.Dict
import Rollout.Proofs.Run.Rolling
import Rollout.Proofs.Run.Rounds

/-!
Outcomes are sound and complete. A group is satisfied exactly if the command has guards and all of
their lines, run on all of its hosts, exited with zero; then its body is not run. Otherwise the
group is deployed: after all lines of all guards, all lines of the expanded body were run on all of
its hosts, one line after another, and exited with zero (`runGroup_completed`). A run that succeeds
consists of such groups (`run_completed`).
-/

namespace Rollout

/-- What a group came to, with the calls of each line that was dispatched to it. -/
structure GroupRun where
  /-- The hosts of the group. -/
  hosts : List Text
  /-- What came of all of them. -/
  outcome : Outcome
  /-- The calls of each line of the guards. -/
  guardRounds : List (List Call)
  /-- The calls of each line of the body. -/
  bodyRounds : List (List Call)

namespace GroupRun

/-- The results of the hosts: all have the same outcome. -/
def results (g : GroupRun) : List HostResult := g.hosts.map (⟨·, g.outcome⟩)

/-- The calls in order, those of the guards before those of the body. -/
def calls (g : GroupRun) : List Call := g.guardRounds.flatten ++ g.bodyRounds.flatten

end GroupRun

namespace Deployment

/-- The line was run on the host in one of the calls and exited with zero. -/
def PassedIn (d : Deployment) (line host : Text) (calls : List Call) : Prop :=
  ∃ text r, d.hostLine host line = .ok text ∧ ⟨host, text, .ok r⟩ ∈ calls ∧ r.exitCode = 0

/-- A group that ran as it should. -/
structure Completed (d : Deployment) (answer : Answering) (g : GroupRun) : Prop where
  /-- Every guard is a command of the Upfile. -/
  guards_defined : ∀ guard ∈ d.command.guards, ∃ c, d.upfile.get? guard = some c
  /-- Each line of each guard was run on every host, one line after another in declared order. -/
  guards_run : List.Forall₂ (d.FullRound answer g.hosts) d.guardLines g.guardRounds
  /-- The group is satisfied exactly if there is a guard and all lines of all guards exited with
  zero everywhere. -/
  satisfied_iff : g.outcome = .satisfied ↔
    d.command.guards ≠ [] ∧
      ∀ line ∈ d.guardLines, ∀ host ∈ g.hosts, d.PassedIn line host g.guardRounds.flatten
  /-- No line of the body is run on a satisfied group. -/
  body_skipped : g.outcome = .satisfied → g.bodyRounds = []
  /-- Each line of the expanded body was run on every host of a deployed group, one line after
  another, and exited with zero. -/
  body_run : g.outcome = .deployed → ∃ lines, d.expandBody d.command.lines = .ok lines ∧
    List.Forall₂ (d.FullRound answer g.hosts) lines g.bodyRounds ∧
      ∀ c ∈ g.bodyRounds.flatten, c.Passed

variable {d : Deployment} {answer : Answering} {hosts : List Text}

/-! ### Rounds of lines that succeed -/

/-- Where a line passes on all hosts, its calls exited with zero. -/
theorem FullRound.passed {line : Text} {calls : List Call} (h : d.FullRound answer hosts line calls)
    (hp : ∀ host ∈ hosts, d.PassesOn answer line host) : ∀ c ∈ calls, c.Passed := by
  obtain ⟨expanded, he, hc⟩ := h
  simp only [hc.mem_iff, List.forall_mem_map]
  intro host hh
  obtain ⟨text, r, ht, hs, hr⟩ := hp host hh
  have hx : expanded host = text := Except.ok.inj ((he host hh).symm.trans ht)
  exact ⟨r, hx ▸ hs, hr⟩

theorem FullRound.reply_eq {line : Text} {calls : List Call}
    (h : d.FullRound answer hosts line calls) : ∀ c ∈ calls, c.reply = answer c.host c.line := by
  obtain ⟨expanded, -, hc⟩ := h
  simp [hc.mem_iff]

/-- Where a line passes on a host, the call that passes is in its round. -/
theorem FullRound.passedIn {line host : Text} {calls : List Call}
    (h : d.FullRound answer hosts line calls) (hh : host ∈ hosts)
    (hp : d.PassesOn answer line host) : d.PassedIn line host calls := by
  obtain ⟨expanded, he, hc⟩ := h
  obtain ⟨text, r, ht, hs, hr⟩ := hp
  have hx : expanded host = text := Except.ok.inj ((he host hh).symm.trans ht)
  exact ⟨text, r, ht, hc.mem_iff.mpr (List.mem_map.mpr ⟨host, hh, by rw [hx, hs]⟩), hr⟩

/-- A line that passed among some calls passed among more. -/
theorem PassedIn.mono {line host : Text} {calls calls' : List Call} (h : d.PassedIn line host calls)
    (hc : ∀ c ∈ calls, c ∈ calls') : d.PassedIn line host calls' := by
  obtain ⟨text, r, ht, hm, hr⟩ := h
  exact ⟨text, r, ht, hc _ hm, hr⟩

theorem passed_of_rounds {lines : List Text} {rounds : List (List Call)}
    (h : List.Forall₂ (d.FullRound answer hosts) lines rounds)
    (hp : ∀ line ∈ lines, ∀ host ∈ hosts, d.PassesOn answer line host) :
    ∀ c ∈ rounds.flatten, c.Passed := by
  induction h with
  | nil => nofun
  | cons hr _ ih =>
    obtain ⟨hp₁, hp₂⟩ := List.forall_mem_cons.mp hp
    rw [List.flatten_cons]
    exact List.forall_mem_append.mpr ⟨hr.passed hp₁, ih hp₂⟩

theorem reply_eq_of_rounds {lines : List Text} {rounds : List (List Call)}
    (h : List.Forall₂ (d.FullRound answer hosts) lines rounds) :
    ∀ c ∈ rounds.flatten, c.reply = answer c.host c.line := by
  induction h with
  | nil => nofun
  | cons hr _ ih =>
    rw [List.flatten_cons]
    exact List.forall_mem_append.mpr ⟨hr.reply_eq, ih⟩

theorem passedIn_of_rounds {lines : List Text} {rounds : List (List Call)}
    (h : List.Forall₂ (d.FullRound answer hosts) lines rounds)
    (hp : ∀ line ∈ lines, ∀ host ∈ hosts, d.PassesOn answer line host) :
    ∀ line ∈ lines, ∀ host ∈ hosts, d.PassedIn line host rounds.flatten := by
  induction h with
  | nil => nofun
  | cons hr _ ih =>
    obtain ⟨hp₁, hp₂⟩ := List.forall_mem_cons.mp hp
    rw [List.flatten_cons]
    refine List.forall_mem_cons.mpr ⟨fun host hh => ?_, fun line hl host hh => ?_⟩
    · exact (hr.passedIn hh (hp₁ host hh)).mono fun _ => List.mem_append_left _
    · exact (ih hp₂ line hl host hh).mono fun _ => List.mem_append_right _

/-- Lines pass in their rounds exactly if the shell lets them pass. -/
theorem passedIn_rounds_iff {lines : List Text} {rounds : List (List Call)}
    (h : List.Forall₂ (d.FullRound answer hosts) lines rounds) :
    (∀ line ∈ lines, ∀ host ∈ hosts, d.PassedIn line host rounds.flatten) ↔
      ∀ line ∈ lines, ∀ host ∈ hosts, d.PassesOn answer line host := by
  refine ⟨fun hp line hl host hh => ?_, passedIn_of_rounds h⟩
  obtain ⟨text, r, ht, hc, hr⟩ := hp line hl host hh
  exact ⟨text, r, ht, (reply_eq_of_rounds h _ hc).symm, hr⟩

/-- The rounds of lines in two parts. -/
theorem Carries.split {lines lines' : List Text} {events : List Event}
    (h : d.Carries answer hosts (lines ++ lines') events) :
    ∃ rounds rounds', Event.calls events = rounds.flatten ++ rounds'.flatten ∧
      List.Forall₂ (fun line round => round.Perm (d.roundCalls answer hosts line)) lines rounds ∧
      List.Forall₂ (fun line round => round.Perm (d.roundCalls answer hosts line))
        lines' rounds' := by
  obtain ⟨⟨rounds, hc, hr⟩, -, -⟩ := h
  have h₁ := List.forall₂_take lines.length hr
  have h₂ := List.forall₂_drop lines.length hr
  rw [List.take_left] at h₁
  rw [List.drop_left] at h₂
  refine ⟨rounds.take lines.length, rounds.drop lines.length, ?_, h₁, h₂⟩
  rw [hc, ← List.flatten_append, List.take_append_drop]

/-- The rounds of lines that came to a result are full. -/
theorem fullRounds_of_perm {lines : List Text} {rounds : List (List Call)}
    (hl : ∀ line ∈ lines, ∃ purpose b, d.roundResult answer purpose hosts line = .ok b)
    (h : List.Forall₂ (fun line round => round.Perm (d.roundCalls answer hosts line))
      lines rounds) :
    List.Forall₂ (d.FullRound answer hosts) lines rounds := by
  refine ((List.forall₂_and_left _ _).mpr ⟨hl, h⟩).imp fun line round hlr => ?_
  obtain ⟨⟨purpose, b, hb⟩, hp⟩ := hlr
  exact fullRound_of_perm (roundResult_eq_ok hb).1 hp

/-! ### Groups -/

variable {σ : Type} {a : Agents σ}

/-- A group that does not fail is completed, and its calls are those of its rounds, in order. -/
theorem runGroup_completed (ha : a.AnswersBy answer) {p : Progress σ} {results : List HostResult}
    (h : (d.runGroup a hosts p).1 = .ok results) :
    ∃ (g : GroupRun) (events : List Event),
      g.hosts = hosts ∧ results = g.results ∧ d.Completed answer g ∧
      (d.runGroup a hosts p).2.events = p.events ++ events ∧
      Event.calls events = g.calls ∧ Event.questions events = [] ∧ Event.starts events = [] := by
  obtain ⟨s, events, hx, hcarry⟩ := runGroup_follows (d := d) ha hosts p
  rw [hx] at h ⊢
  obtain ⟨outcome, ho, rfl⟩ := Course.map_result_eq_ok h
  obtain ⟨lines, hd, hl, hguards, hsat, hskip, hrun⟩ := groupCourse_eq_ok ho
  have hlines : ∀ line ∈ lines, d.roundResult answer .work hosts line = .ok true := by
    cases outcome with
    | satisfied => rw [hskip rfl]; nofun
    | deployed => exact (hrun rfl).2
  change d.Carries answer hosts (d.groupCourse answer hosts).lines events at hcarry
  rw [hl] at hcarry
  obtain ⟨rounds, rounds', hc, hr, hr'⟩ := hcarry.split
  have hf := fullRounds_of_perm (fun line hm => ⟨.check, hguards line hm⟩) hr
  have hf' := fullRounds_of_perm (fun line hm => ⟨.work, true, hlines line hm⟩) hr'
  refine ⟨⟨hosts, outcome, rounds, rounds'⟩, events, rfl, rfl,
    ⟨hd, hf, ?_, fun ho => ?_, fun ho => ?_⟩, rfl, hc, hcarry.2.1, hcarry.2.2⟩
  · rw [hsat, ← passedIn_rounds_iff hf]
  · obtain rfl := hskip ho
    exact List.forall₂_nil_left_iff.mp hr'
  · refine ⟨lines, (hrun ho).1, hf', passed_of_rounds hf' fun line hm => ?_⟩
    exact (roundResult_eq_ok (hlines line hm)).2.1.mp rfl

/-! ### Tags -/

/-- The ways in which a tag takes a step: the operator cannot be asked or does not want to go on,
the group fails, or it is completed and the tag goes on with the rest. -/
inductive RollingStep (d : Deployment) (answer : Answering) (a : Agents σ) (tag : Text)
    (total group : Nat) (hosts : List Text) (rest : List (List Text)) (p : Progress σ) : Prop
  | unasked (f : Failure)
    (h : (d.runGroups a tag total group (hosts :: rest) p).1 = .error (.confirmation f))
  | refused (events : List Event)
    (h : (d.runGroups a tag total group (hosts :: rest) p).1 = .ok ⟨[], true⟩)
    (he : (d.runGroups a tag total group (hosts :: rest) p).2.events = p.events ++ events)
    (hc : Event.calls events = [])
  | failed (e : TaskError) (before last : List Event)
    (h : (d.runGroups a tag total group (hosts :: rest) p).1 = .error e)
    (he : (d.runGroups a tag total group (hosts :: rest) p).2.events = p.events ++ (before ++ last))
    (hc : Event.calls before = []) (hq : Event.questions before = questionBefore a tag group)
    (hs : Event.starts before = [(tag, group)])
    (hr : (d.groupCourse answer hosts).result = .error e)
    (hl : d.Carries answer hosts (d.groupCourse answer hosts).lines last)
  | completed (g : GroupRun) (events : List Event) (p' : Progress σ) (hg : g.hosts = hosts)
    (hd : d.Completed answer g) (he : p'.events = p.events ++ events)
    (hc : Event.calls events = g.calls) (hq : Event.questions events = questionBefore a tag group)
    (hs : Event.starts events = [(tag, group)])
    (h : d.runGroups a tag total group (hosts :: rest) p =
      ((d.runGroups a tag total (group + 1) rest p').1.map fun report =>
        { report with groups := g.results :: report.groups },
        (d.runGroups a tag total (group + 1) rest p').2))

/-- A tag with a group left takes one of these steps. -/
theorem rollingStep (ha : a.AnswersBy answer) (tag : Text) (total group : Nat) (hosts : List Text)
    (rest : List (List Text)) (p : Progress σ) :
    d.RollingStep answer a tag total group hosts rest p := by
  obtain ⟨qs, hqe, hqc, hqs, hqq⟩ := mayGoOn_events a tag group p
  rcases hq : mayGoOn a tag group p with ⟨e | goOn, p'⟩
  · obtain ⟨f, rfl⟩ := mayGoOn_eq_error (congrArg Prod.fst hq)
    exact .unasked f (by rw [runGroups_cons_of_unasked hq])
  rw [hq] at hqe
  change p'.events = p.events ++ qs at hqe
  cases goOn with
  | false =>
    refine .refused (qs ++ [.stopped tag group total]) ?_ ?_ ?_
    · rw [runGroups_cons_of_refused hq]
    · rw [runGroups_cons_of_refused hq, ← List.append_assoc, ← hqe]
    · rw [Event.calls_append, hqc]
      rfl
  | true =>
    have hc : Event.calls (qs ++ [.groupStarted tag group total hosts]) = [] := by
      rw [Event.calls_append, hqc]
      rfl
    have hqq' : Event.questions (qs ++ [.groupStarted tag group total hosts]) =
        questionBefore a tag group := by
      rw [Event.questions_append, hqq]
      exact List.append_nil _
    have hs : Event.starts (qs ++ [.groupStarted tag group total hosts]) = [(tag, group)] := by
      rw [Event.starts_append, hqs]
      rfl
    rcases hg : d.runGroup a hosts
        { p' with events := p'.events ++ [.groupStarted tag group total hosts] } with
      ⟨e | results, p''⟩
    · obtain ⟨s, es, hx, hcarry⟩ := runGroup_follows (d := d) ha hosts
        { p' with events := p'.events ++ [.groupStarted tag group total hosts] }
      rw [hg] at hx
      obtain ⟨hr, rfl⟩ := Prod.mk.inj hx
      refine .failed e (qs ++ [.groupStarted tag group total hosts]) es ?_ ?_ hc hqq' hs
        (Course.map_result_eq_error hr.symm) hcarry
      · rw [runGroups_cons_of_failed hq hg]
      · rw [runGroups_cons_of_failed hq hg, hqe]
        simp
    · obtain ⟨g, es, rfl, rfl, hcg, hes, hcs, hqs', hss⟩ :=
        runGroup_completed ha (congrArg Prod.fst hg)
      rw [hg] at hes
      change p''.events = p'.events ++ [.groupStarted tag group total g.hosts] ++ es at hes
      refine .completed g (qs ++ [.groupStarted tag group total g.hosts] ++ es) p'' rfl hcg
        ?_ ?_ ?_ ?_ (runGroups_cons_of_ok hq hg)
      · rw [hes, hqe]
        simp
      · rw [Event.calls_append, hc, hcs, List.nil_append]
      · rw [Event.questions_append, hqq', hqs', List.append_nil]
      · rw [Event.starts_append, hs, hss, List.append_nil]

/-- The groups of a tag that ran, from the first one on, are completed and make up its report. -/
def TagCompleted (d : Deployment) (answer : Answering) (groups : List (List Text))
    (runs : List GroupRun) (report : TagReport) : Prop :=
  runs.map (·.hosts) <+: groups ∧ report.groups = runs.map (·.results) ∧
    ∀ g ∈ runs, d.Completed answer g

/-- The groups of a tag that does not fail are completed, as far as the operator let it go. -/
theorem runGroups_completed (ha : a.AnswersBy answer) {tag : Text} {total : Nat} :
    ∀ (groups : List (List Text)) {group : Nat} {p : Progress σ} {report : TagReport},
      (d.runGroups a tag total group groups p).1 = .ok report →
      ∃ (runs : List GroupRun) (events : List Event), d.TagCompleted answer groups runs report ∧
        (d.runGroups a tag total group groups p).2.events = p.events ++ events ∧
        Event.calls events = runs.flatMap (·.calls)
  | [], group, p, report, h => by
    cases h
    exact ⟨[], [], ⟨List.nil_prefix, rfl, nofun⟩, (List.append_nil _).symm, rfl⟩
  | hosts :: rest, group, p, report, h => by
    rcases rollingStep (d := d) ha tag total group hosts rest p with
      ⟨f, hf⟩ | ⟨events, hr, he, hc⟩ | ⟨e, _, _, hf⟩ | ⟨g, events, p', rfl, hd, he, hc, -, -, hx⟩
    · rw [hf] at h
      cases h
    · rw [hr] at h
      cases h
      exact ⟨[], events, ⟨List.nil_prefix, rfl, nofun⟩, he, hc⟩
    · rw [hf] at h
      cases h
    · rw [hx] at h ⊢
      cases hr : (d.runGroups a tag total (group + 1) rest p').1 with
      | error e => rw [hr] at h; cases h
      | ok report' =>
        rw [hr] at h
        cases h
        obtain ⟨runs, events', ⟨hpre, hrep, hall⟩, he', hc'⟩ := runGroups_completed ha rest hr
        refine ⟨g :: runs, events ++ events',
          ⟨List.cons_prefix_cons.mpr ⟨rfl, hpre⟩, congrArg _ hrep,
            List.forall_mem_cons.mpr ⟨hd, hall⟩⟩, ?_, ?_⟩
        · rw [he', he, List.append_assoc]
        · rw [Event.calls_append, hc, hc', List.flatMap_cons]

/-- Tags that all succeed are completed, each with its own report. -/
theorem runTags_completed (ha : a.AnswersBy answer) :
    ∀ (entries : List (Text × List (List Text))) {p : Progress σ}
      {reports : List (Text × TagReport)},
      (d.runTags a entries p).1 = reports.map (fun r => (r.1, .ok r.2)) →
      reports.map (·.1) = entries.map (·.1) ∧
      ∃ runs : List (Text × List GroupRun), runs.map (·.1) = entries.map (·.1) ∧
        Event.calls (d.runTags a entries p).2.events =
          Event.calls p.events ++ runs.flatMap (fun r => r.2.flatMap (·.calls)) ∧
        ∀ run ∈ runs, ∃ groups report, (run.1, groups) ∈ entries ∧ (run.1, report) ∈ reports ∧
          d.TagCompleted answer groups run.2 report
  | [], p, reports, h => by
    obtain rfl := List.map_eq_nil_iff.mp h.symm
    exact ⟨rfl, [], rfl, (List.append_nil _).symm, nofun⟩
  | (tag, groups) :: entries, p, reports, h => by
    have hx : d.runTags a ((tag, groups) :: entries) p =
        ((tag, (d.runTag a tag groups p).1) :: (d.runTags a entries (d.runTag a tag groups p).2).1,
          (d.runTags a entries (d.runTag a tag groups p).2).2) := rfl
    rw [hx] at h ⊢
    obtain ⟨⟨tag', report⟩, reports, rfl, hr, hrest⟩ := List.map_eq_cons_iff.mp h.symm
    obtain ⟨rfl, hr⟩ := Prod.mk.inj hr
    obtain ⟨runs, events, htag, he, hc⟩ := runGroups_completed ha groups hr.symm
    obtain ⟨hkeys, runs', hkeys', hc', hall⟩ := runTags_completed ha entries hrest.symm
    refine ⟨congrArg _ hkeys, (tag', runs) :: runs', congrArg _ hkeys', ?_, ?_⟩
    · rw [hc', runTag, he, Event.calls_append, hc, List.append_assoc, List.flatMap_cons]
    · refine List.forall_mem_cons.mpr ⟨⟨groups, report, by simp, by simp, htag⟩, fun run hrun => ?_⟩
      obtain ⟨groups', report', hg', hr', ht'⟩ := hall run hrun
      exact ⟨groups', report', List.mem_cons_of_mem _ hg', List.mem_cons_of_mem _ hr', ht'⟩

/-- The summary reports completed groups: those of each tag, in their order, as far as the operator
let it go. The calls are those of all these groups. -/
def RunCompleted (d : Deployment) (answer : Answering) (batches : Batches) (summary : Summary)
    (calls : List Call) : Prop :=
  summary.keys = batches.keys ∧
    ∃ runs : List (Text × List GroupRun), runs.map (·.1) = batches.keys ∧
      calls = runs.flatMap (fun r => r.2.flatMap (·.calls)) ∧
      ∀ tag groupRuns, (tag, groupRuns) ∈ runs → ∃ groups report, batches.get? tag = some groups ∧
        summary.get? tag = some report ∧ d.TagCompleted answer groups groupRuns report

/-- A run that succeeds reports completed groups, and makes the calls of these groups and no
others. -/
theorem run_completed (ha : a.AnswersBy answer) {batches : Batches} {p : Progress σ}
    {summary : Summary}
    (h : (d.run a batches p).1 = .ok summary) :
    ∃ calls, Event.calls (d.run a batches p).2.events = Event.calls p.events ++ calls ∧
      d.RunCompleted answer batches summary calls := by
  have hstart : batches.Startable := startable_of_run_eq_ok h
  rw [run_of_startable hstart] at h ⊢
  obtain ⟨reports, hres, rfl⟩ := collectInto_eq_ok h
  obtain ⟨hkeys, runs, hruns, hc, hall⟩ := runTags_completed ha batches.entries hres
  have hsorted : reports.Pairwise fun a b => a.1 < b.1 := by
    have hs : (batches.entries.map (·.1)).Pairwise (· < ·) := List.pairwise_map.mpr batches.sorted
    rw [← hkeys] at hs
    exact List.pairwise_map.mp hs
  have hsummary : Dict.empty.insertAll reports = ⟨reports, hsorted⟩ :=
    Dict.ofList_entries ⟨reports, hsorted⟩
  refine ⟨_, hc, by rw [hsummary]; exact hkeys, runs, hruns, rfl, fun tag groupRuns hm => ?_⟩
  obtain ⟨groups, report, hg, hr, ht⟩ := hall _ hm
  refine ⟨groups, report, Dict.get?_eq_some_iff.mpr hg, ?_, ht⟩
  rw [hsummary]
  exact Dict.get?_eq_some_iff.mpr hr

/-! ### A run in which one host is out of date -/

/-- Ship to a server, unless a probe of it passes. -/
def shipping : Deployment :=
  ⟨⟨.ofList [("ship", ⟨["fresh"], ["push $server"]⟩), ("fresh", ⟨[], ["probe $server"]⟩)], "ship"⟩,
    ⟨["fresh"], ["push $server"]⟩, .empty, "c0ffee"⟩

/-- The probes of two servers do not pass, and one of them cannot be shipped to. -/
def shippingAnswer : Answering := fun _ line =>
  .ok ⟨if line ∈ ["probe b".toList, "probe c".toList] then 1
    else if line = "push c".toList then 3 else 0, [], []⟩

/-- A shell that answers so, and nobody who is asked. -/
def shippingAgents : Agents Unit :=
  ⟨fun host line s => (shippingAnswer host line, s), none, .inOrder⟩

/-- Two groups under one tag. -/
def shippingBatches : Batches := .ofList [("web", [["a", "b"], ["a"]])]

/-- The first of them is deployed, and the second is satisfied. -/
def shippingSummary : Summary :=
  .ofList [("web", ⟨[[⟨"a", .deployed⟩, ⟨"b", .deployed⟩], [⟨"a", .satisfied⟩]], false⟩)]

/-- Both servers of the first group are probed and then shipped to; the second is only probed. -/
def shippingCalls : List Call :=
  [⟨"a", "probe a", .ok ⟨0, [], []⟩⟩, ⟨"b", "probe b", .ok ⟨1, [], []⟩⟩,
    ⟨"a", "push a", .ok ⟨0, [], []⟩⟩, ⟨"b", "push b", .ok ⟨0, [], []⟩⟩,
    ⟨"a", "probe a", .ok ⟨0, [], []⟩⟩]

/-- One host that is out of date makes its whole group be deployed. -/
theorem run_completed_shipping :
    (shipping.run shippingAgents shippingBatches ⟨(), []⟩).1 = .ok shippingSummary ∧
      Event.calls (shipping.run shippingAgents shippingBatches ⟨(), []⟩).2.events =
        shippingCalls ∧
      shipping.RunCompleted shippingAnswer shippingBatches shippingSummary shippingCalls := by
  have ha : shippingAgents.AnswersBy shippingAnswer := fun _ _ _ => rfl
  have h : (shipping.run shippingAgents shippingBatches ⟨(), []⟩).1 = .ok shippingSummary := by
    decide +kernel
  have hcalls : Event.calls (shipping.run shippingAgents shippingBatches ⟨(), []⟩).2.events =
      shippingCalls := by
    decide +kernel
  obtain ⟨calls, he, hc⟩ := run_completed ha h
  rw [hcalls, Event.calls, List.filterMap_nil, List.nil_append] at he
  exact ⟨h, hcalls, he ▸ hc⟩

end Deployment

end Rollout
