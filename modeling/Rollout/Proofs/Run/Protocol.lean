import Rollout.Proofs.Run.Recorded
import Rollout.Proofs.Run.Rolling

/-!
The protocol by which a tag rolls over its groups, whatever the shell does and the operator says.
Groups follow one another, and between two of them the operator, if there is one, is asked once
whether to go on (`runTag_protocol`).
-/

namespace Rollout

/-! ### Groups of a tag -/

/-- A group of a tag that was started. -/
structure StartedGroup (σ : Type) where
  /-- What the operator said, if they were asked about it. -/
  answer : Option Answer
  /-- The hosts of the group. -/
  hosts : List Text
  /-- The run when the group was started. -/
  start : Progress σ
  /-- What happened while it ran. -/
  events : List Event
  /-- What came of it. -/
  result : Except TaskError (List HostResult)

namespace StartedGroup

variable {σ : Type}

/-- The events before the group runs: the question about it, and its start. -/
def opening (tag : Text) (total i : Nat) (g : StartedGroup σ) : List Event :=
  g.answer.toList.map (.asked tag i) ++ [.groupStarted tag i total g.hosts]

/-- All events of groups, of which the first is counted as `i`: each is opened and then runs. -/
def trace (tag : Text) (total : Nat) : Nat → List (StartedGroup σ) → List Event
  | _, [] => []
  | i, g :: gs => g.opening tag total i ++ g.events ++ trace tag total (i + 1) gs

/-- The group is what the run makes of its hosts. -/
def Ran (d : Deployment) (a : Agents σ) (g : StartedGroup σ) : Prop :=
  ∃ s, d.runGroup a g.hosts g.start = (g.result, ⟨s, g.start.events ++ g.events⟩)

theorem Ran.ofGroup {d : Deployment} {a : Agents σ} {g : StartedGroup σ} (h : g.Ran d a) :
    ∀ e ∈ g.events, e.OfGroup g.hosts := by
  obtain ⟨s, hs⟩ := h
  obtain ⟨events, he, hP⟩ := Deployment.runGroup_records d a g.hosts g.start
  rw [hs] at he
  exact List.append_cancel_left he ▸ hP

/-- Each of the groups is opened. -/
theorem mem_trace_of_opening {tag : Text} {total : Nat} {e : Event} :
    ∀ {i j : Nat} {gs : List (StartedGroup σ)} {g : StartedGroup σ}, gs[j]? = some g →
      e ∈ g.opening tag total (i + j) → e ∈ trace tag total i gs
  | i, 0, _ :: gs, _, rfl, he => by
    rw [trace]
    exact List.mem_append_left _ (List.mem_append_left _ he)
  | i, j + 1, _ :: gs, g, hj, he => by
    have hshift : i + (j + 1) = i + 1 + j := by omega
    rw [hshift] at he
    rw [trace]
    exact List.mem_append_right _ (mem_trace_of_opening (List.getElem?_cons_succ ▸ hj) he)

/-- The calls are those of the groups, and the groups follow one another. -/
theorem calls_trace (tag : Text) (total : Nat) : ∀ (i : Nat) (gs : List (StartedGroup σ)),
    Event.calls (trace tag total i gs) = gs.flatMap fun g => Event.calls g.events
  | _, [] => rfl
  | i, g :: gs => by
    have hopening : Event.calls (g.opening tag total i) = [] := by
      unfold opening
      cases g.answer <;> rfl
    rw [trace, Event.calls_append, Event.calls_append, hopening, calls_trace tag total (i + 1) gs]
    rfl

/-- The groups are started in order. -/
theorem starts_trace {d : Deployment} {a : Agents σ} (tag : Text) (total : Nat) :
    ∀ (i : Nat) {gs : List (StartedGroup σ)}, (∀ g ∈ gs, g.Ran d a) →
      Event.starts (trace tag total i gs) = (List.range' i gs.length).map (tag, ·)
  | _, [], _ => rfl
  | i, g :: gs, h => by
    obtain ⟨hg, hgs⟩ := List.forall_mem_cons.mp h
    have hopening : Event.starts (g.opening tag total i) = [(tag, i)] := by
      unfold opening
      cases g.answer <;> rfl
    rw [trace, Event.starts_append, Event.starts_append, hopening, Event.starts_eq_nil hg.ofGroup,
      starts_trace tag total (i + 1) hgs]
    rfl

/-- The `i`-th of the groups completed successfully. -/
def Completes (gs : List (StartedGroup σ)) (i : Nat) : Prop :=
  ∃ g results, gs[i]? = some g ∧ g.result = .ok results

end StartedGroup

/-- Why a tag starts no group after those that it has started. -/
inductive TagEnding
  /-- There is none. -/
  | finished
  /-- The operator does not want to go on. -/
  | declined (shown : Text)
  /-- The operator could not be asked. -/
  | unasked (failure : Failure) (shown : Text)
  /-- The last group failed. -/
  | failed (e : TaskError)

namespace TagEnding

/-- What happens before the group that is not started. -/
def events (tag : Text) (total i : Nat) : TagEnding → List Event
  | .finished | .failed _ => []
  | .declined shown => [.asked tag i ⟨.ok false, shown⟩, .stopped tag i total]
  | .unasked f shown => [.asked tag i ⟨.error f, shown⟩]

/-- What comes of the tag, given the reports of the groups that completed. -/
def result (reports : List (List HostResult)) : TagEnding → Except TaskError TagReport
  | .finished => .ok ⟨reports, false⟩
  | .declined _ => .ok ⟨reports, true⟩
  | .unasked f _ => .error (.confirmation f)
  | .failed e => .error e

/-- The failure of the last group, if it failed. -/
def failure : TagEnding → Option TaskError
  | .failed e => some e
  | .finished | .declined _ | .unasked .. => none

/-- How many groups the operator was asked about, and which were not started. -/
def held : TagEnding → Nat
  | .declined _ | .unasked .. => 1
  | .finished | .failed _ => 0

/-- With one more report in front. -/
theorem result_cons (results : List HostResult) (reports : List (List HostResult)) (e : TagEnding) :
    e.result (results :: reports) = (e.result reports).map fun report =>
      { report with groups := results :: report.groups } := by
  cases e <;> rfl

theorem calls_events (tag : Text) (total i : Nat) (e : TagEnding) :
    Event.calls (e.events tag total i) = [] := by
  cases e <;> rfl

theorem starts_events (tag : Text) (total i : Nat) (e : TagEnding) :
    Event.starts (e.events tag total i) = [] := by
  cases e <;> rfl

variable {tag : Text} {total i j : Nat} {e : TagEnding}

theorem group_of_asked_mem {answer : Answer} (h : .asked tag j answer ∈ e.events tag total i) :
    j = i := by
  cases e <;> simp_all [events]

/-- A yes does not end a tag. -/
theorem not_yes_mem {shown : Text} : .asked tag j ⟨.ok true, shown⟩ ∉ e.events tag total i := by
  cases e <;> simp [events]

theorem eq_declined {shown : Text} (h : .asked tag j ⟨.ok false, shown⟩ ∈ e.events tag total i) :
    e = .declined shown := by
  cases e <;> simp_all [events]

theorem eq_unasked {f : Failure} {shown : Text}
    (h : .asked tag j ⟨.error f, shown⟩ ∈ e.events tag total i) : e = .unasked f shown := by
  cases e <;> simp_all [events]

variable {reports rs : List (List HostResult)} {report : TagReport}

theorem eq_finished (h : e.result reports = .ok ⟨rs, false⟩) : e = .finished ∧ rs = reports := by
  cases e <;> cases h
  exact ⟨rfl, rfl⟩

theorem of_result_eq_ok (h : e.result reports = .ok report) :
    report.groups = reports ∧ e.failure = none := by
  cases e <;> cases h <;> exact ⟨rfl, rfl⟩

end TagEnding

namespace Deployment

variable {σ : Type} {d : Deployment} {a : Agents σ} {tag : Text} {total : Nat}

/-- A group is opened as it should be: the operator, if asked about it, has said yes, and nothing
else has happened since `history`. -/
structure Opened (a : Agents σ) (tag : Text) (total i : Nat) (history : List Event)
    (g : StartedGroup σ) : Prop where
  asked : AsksBefore a i → ∃ shown, g.answer = some ⟨.ok true, shown⟩
  unasked : ¬ AsksBefore a i → g.answer = none
  start : g.start.events = history ++ g.opening tag total i

/-- Groups of a tag, of which the first is counted as `i`, come to be started one after another, and
the tag comes to its end. -/
inductive Rolls (d : Deployment) (a : Agents σ) (tag : Text) (total : Nat) :
    Nat → List (List Text) → List Event → List (StartedGroup σ) → TagEnding → Prop
  | finished {i : Nat} {history : List Event} : Rolls d a tag total i [] history [] .finished
  | declined {i : Nat} {hosts : List Text} {rest : List (List Text)} {history : List Event}
    {shown : Text} (h : AsksBefore a i) :
    Rolls d a tag total i (hosts :: rest) history [] (.declined shown)
  | unasked {i : Nat} {hosts : List Text} {rest : List (List Text)} {history : List Event}
    {f : Failure} {shown : Text} (h : AsksBefore a i) :
    Rolls d a tag total i (hosts :: rest) history [] (.unasked f shown)
  | failed {i : Nat} {rest : List (List Text)} {history : List Event} {g : StartedGroup σ}
    {e : TaskError} (ho : Opened a tag total i history g) (hr : g.Ran d a)
    (he : g.result = .error e) :
    Rolls d a tag total i (g.hosts :: rest) history [g] (.failed e)
  | completed {i : Nat} {rest : List (List Text)} {history : List Event} {g : StartedGroup σ}
    {results : List HostResult} {gs : List (StartedGroup σ)} {ending : TagEnding}
    (ho : Opened a tag total i history g) (hr : g.Ran d a) (he : g.result = .ok results)
    (h : Rolls d a tag total (i + 1) rest (g.start.events ++ g.events) gs ending) :
    Rolls d a tag total i (g.hosts :: rest) history (g :: gs) ending

/-- What the groups that completed report. -/
def reports (gs : List (StartedGroup σ)) : List (List HostResult) :=
  gs.filterMap fun g => g.result.toOption

/-- Once it may go on, a tag opens its next group and runs it, and goes on with the rest if the group
does not fail. -/
theorem runGroups_cons_of_opened (d : Deployment) (total : Nat) {i : Nat} (hosts : List Text)
    (rest : List (List Text)) {answer : Option Answer} {p q : Progress σ}
    (hasked : AsksBefore a i → ∃ shown, answer = some ⟨.ok true, shown⟩)
    (hunasked : ¬ AsksBefore a i → answer = none)
    (hq : q.events = p.events ++ answer.toList.map (.asked tag i))
    (hm : mayGoOn a tag i p = (.ok true, q)) :
    ∃ (g : StartedGroup σ) (p' : Progress σ), g.hosts = hosts ∧ Opened a tag total i p.events g ∧
      d.runGroup a g.hosts g.start = (g.result, p') ∧ p'.events = g.start.events ++ g.events ∧
      d.runGroups a tag total i (hosts :: rest) p = match g.result with
        | .error e => (.error e, p')
        | .ok results => ((d.runGroups a tag total (i + 1) rest p').1.map fun report =>
            { report with groups := results :: report.groups },
            (d.runGroups a tag total (i + 1) rest p').2) := by
  obtain ⟨events, he, -⟩ := runGroup_records d a hosts
    { q with events := q.events ++ [.groupStarted tag i total hosts] }
  rcases hg : d.runGroup a hosts
      { q with events := q.events ++ [.groupStarted tag i total hosts] } with ⟨result, p'⟩
  rw [hg] at he
  refine ⟨⟨answer, hosts, _, events, result⟩, p', rfl, ⟨hasked, hunasked, ?_⟩, hg, he, ?_⟩
  · simp [StartedGroup.opening, hq]
  · cases result with
    | error e => exact runGroups_cons_of_failed hm hg
    | ok results => exact runGroups_cons_of_ok hm hg

/-- The run of the groups is one of groups that roll: this tells which are started, what happens and
what comes of them. -/
def Rolled (d : Deployment) (a : Agents σ) (tag : Text) (total i : Nat) (groups : List (List Text))
    (p : Progress σ) : Prop :=
  ∃ gs ending, Rolls d a tag total i groups p.events gs ending ∧
    (d.runGroups a tag total i groups p).1 = ending.result (reports gs) ∧
    (d.runGroups a tag total i groups p).2.events =
      p.events ++ (StartedGroup.trace tag total i gs ++ ending.events tag total (i + gs.length))

/-- If groups roll from wherever they start, so do they after a group that is opened. -/
theorem rolled_cons_of_opened {i : Nat} {hosts : List Text} {rest : List (List Text)}
    (hrest : ∀ p', d.Rolled a tag total (i + 1) rest p') {answer : Option Answer} {p q : Progress σ}
    (hasked : AsksBefore a i → ∃ shown, answer = some ⟨.ok true, shown⟩)
    (hunasked : ¬ AsksBefore a i → answer = none)
    (hq : q.events = p.events ++ answer.toList.map (.asked tag i))
    (hm : mayGoOn a tag i p = (.ok true, q)) : d.Rolled a tag total i (hosts :: rest) p := by
  obtain ⟨g, p', rfl, ho, hg, he, hx⟩ :=
    runGroups_cons_of_opened d total hosts rest hasked hunasked hq hm
  have hran : g.Ran d a := ⟨p'.agents, by rw [hg, ← he]⟩
  unfold Rolled
  rw [hx]
  cases hr : g.result with
  | error e =>
    refine ⟨[g], .failed e, .failed ho hran hr, rfl, ?_⟩
    simp [he, ho.start, StartedGroup.trace, TagEnding.events]
  | ok results =>
    obtain ⟨gs, ending, hrolls, hres, hevents⟩ := hrest p'
    refine ⟨g :: gs, ending, .completed ho hran hr (he ▸ hrolls), ?_, ?_⟩
    · have hreports : reports (g :: gs) = results :: reports gs := by
        simp [reports, hr, Except.toOption]
      rw [hreports, TagEnding.result_cons, ← hres]
    · have hlen : i + (g :: gs).length = i + 1 + gs.length := by
        rw [List.length_cons]
        omega
      rw [hlen, hevents, he, ho.start]
      simp [StartedGroup.trace]

/-- Groups of a tag always roll. -/
theorem runGroups_rolled (d : Deployment) (a : Agents σ) (tag : Text) (total : Nat) :
    ∀ (groups : List (List Text)) (i : Nat) (p : Progress σ), d.Rolled a tag total i groups p
  | [], i, p => ⟨[], .finished, .finished, rfl, (List.append_nil _).symm⟩
  | hosts :: rest, i, p => by
    have hrest := runGroups_rolled d a tag total rest (i + 1)
    rcases mayGoOn_cases a tag i p with ⟨hn, hm⟩ | ⟨ha, ⟨⟨f⟩ | ⟨_ | _⟩, shown⟩, s, hm⟩
    · exact rolled_cons_of_opened hrest (fun h => absurd h hn) (fun _ => rfl)
        (List.append_nil _).symm hm
    · refine ⟨[], .unasked f shown, .unasked ha, ?_, ?_⟩ <;> rw [runGroups_cons_of_unasked hm] <;> rfl
    · refine ⟨[], .declined shown, .declined ha, ?_, ?_⟩ <;> rw [runGroups_cons_of_refused hm]
      · rfl
      · simp [StartedGroup.trace, TagEnding.events]
    · exact rolled_cons_of_opened hrest (fun _ => ⟨shown, rfl⟩) (fun h => absurd ha h) rfl hm

/-! ### What holds of groups that roll -/

namespace Opened

variable {i j : Nat} {history : List Event} {g : StartedGroup σ}

/-- The operator is asked about no other group, and has said yes. -/
theorem of_asked_mem (h : Opened a tag total i history g) (hr : g.Ran d a) {answer : Answer}
    (hm : .asked tag j answer ∈ g.opening tag total i ++ g.events) :
    answer.verdict = .ok true ∧ j = i := by
  rcases List.mem_append.mp hm with hm | hm
  · by_cases ha : AsksBefore a i
    · obtain ⟨shown, hs⟩ := h.asked ha
      simp only [StartedGroup.opening, hs, Option.toList_some, List.map_cons, List.map_nil,
        List.singleton_append, List.mem_cons, Event.asked.injEq, reduceCtorEq, List.not_mem_nil,
        or_false] at hm
      obtain ⟨-, rfl, rfl⟩ := hm
      exact ⟨rfl, rfl⟩
    · simp [StartedGroup.opening, h.unasked ha] at hm
  · exact (hr.ofGroup _ hm).elim

theorem asked_mem (h : Opened a tag total i history g) (ha : AsksBefore a i) :
    ∃ shown, .asked tag i ⟨.ok true, shown⟩ ∈ g.opening tag total i := by
  obtain ⟨shown, hs⟩ := h.asked ha
  exact ⟨shown, by simp [StartedGroup.opening, hs]⟩

/-- The group is asked about once, if at all. -/
theorem questions_eq (h : Opened a tag total i history g) (hr : g.Ran d a) :
    Event.questions (g.opening tag total i ++ g.events) = questionBefore a tag i := by
  rw [Event.questions_append, Event.questions_eq_nil hr.ofGroup, List.append_nil]
  unfold questionBefore
  split
  next ha =>
    obtain ⟨shown, hs⟩ := h.asked ha
    rw [StartedGroup.opening, hs]
    rfl
  next ha =>
    rw [StartedGroup.opening, h.unasked ha]
    rfl

end Opened

namespace Rolls

variable {i j : Nat} {groups : List (List Text)} {history : List Event}
  {gs : List (StartedGroup σ)} {ending : TagEnding}

/-- The groups are taken in their order. -/
theorem inOrder (h : Rolls d a tag total i groups history gs ending) :
    gs.map (·.hosts) <+: groups := by
  induction h with
  | finished | declined | unasked => exact List.nil_prefix
  | failed => exact List.cons_prefix_cons.mpr ⟨rfl, List.nil_prefix⟩
  | completed ho hr he h ih => exact List.cons_prefix_cons.mpr ⟨rfl, ih⟩

theorem ran (h : Rolls d a tag total i groups history gs ending) : ∀ g ∈ gs, g.Ran d a := by
  induction h with
  | finished | declined | unasked => exact nofun
  | failed ho hr => exact List.forall_mem_singleton.mpr hr
  | completed ho hr he h ih => exact List.forall_mem_cons.mpr ⟨hr, ih⟩

/-- Each group is opened when those before it have run. -/
theorem opened (h : Rolls d a tag total i groups history gs ending) :
    ∀ {j : Nat} {g : StartedGroup σ}, gs[j]? = some g →
      Opened a tag total (i + j) (history ++ StartedGroup.trace tag total i (gs.take j)) g := by
  induction h with
  | finished | declined | unasked => exact nofun
  | failed ho hr he =>
    intro j g hj
    cases j with
    | zero => cases hj; simpa [StartedGroup.trace] using ho
    | succ j => cases hj
  | @completed i rest history g' results gs ending ho hr he h ih =>
    intro j g hj
    cases j with
    | zero => cases hj; simpa [StartedGroup.trace] using ho
    | succ j =>
      have hg := ih hj
      rw [ho.start] at hg
      have hshift : i + 1 + j = i + (j + 1) := by omega
      simpa [StartedGroup.trace, hshift] using hg

/-- All groups that were started completed, but for the last one if it failed. -/
theorem results_eq (h : Rolls d a tag total i groups history gs ending) :
    gs.map (·.result) = (reports gs).map .ok ++ ending.failure.toList.map .error := by
  induction h with
  | finished | declined | unasked => rfl
  | failed ho hr he => simp [reports, he, Except.toOption, TagEnding.failure]
  | completed ho hr he h ih =>
    rw [List.map_cons, ih, he]
    simp [reports, he, Except.toOption]

/-- A tag that has rolled over all groups that it started has either come to the last one, or the
operator has been asked about the next one. -/
theorem length_eq (h : Rolls d a tag total i groups history gs ending) :
    match ending with
    | .finished => gs.length = groups.length
    | .declined _ | .unasked .. => gs.length < groups.length ∧ AsksBefore a (i + gs.length)
    | .failed _ => gs.length ≤ groups.length := by
  induction h with
  | finished => rfl
  | declined h | unasked h => exact ⟨Nat.zero_lt_succ _, h⟩
  | failed => exact Nat.succ_le_succ (Nat.zero_le _)
  | @completed i rest history g results gs ending ho hr he h ih =>
    have hshift : i + (gs.length + 1) = i + 1 + gs.length := by omega
    cases ending <;> simp_all

/-- The operator was asked about no group but those that were started, and has said yes to them. -/
theorem of_asked_mem (h : Rolls d a tag total i groups history gs ending) {answer : Answer}
    (hm : .asked tag j answer ∈ StartedGroup.trace tag total i gs) :
    answer.verdict = .ok true ∧ j < i + gs.length := by
  induction h with
  | finished | declined | unasked => cases hm
  | failed ho hr =>
    rw [StartedGroup.trace, StartedGroup.trace, List.append_nil] at hm
    obtain ⟨hv, rfl⟩ := ho.of_asked_mem hr hm
    exact ⟨hv, Nat.lt_succ_self _⟩
  | completed ho hr he h ih =>
    rw [StartedGroup.trace] at hm
    rw [List.length_cons]
    rcases List.mem_append.mp hm with hm | hm
    · obtain ⟨hv, rfl⟩ := ho.of_asked_mem hr hm
      exact ⟨hv, by omega⟩
    · obtain ⟨hv, hj⟩ := ih hm
      exact ⟨hv, by omega⟩

/-- The operator has said yes to every group that was started, if asked about it. -/
theorem asked_mem (h : Rolls d a tag total i groups history gs ending) (hi : i ≤ j)
    (hj : j < i + gs.length) (ha : AsksBefore a j) :
    ∃ shown, .asked tag j ⟨.ok true, shown⟩ ∈ StartedGroup.trace tag total i gs := by
  obtain ⟨k, rfl⟩ := Nat.exists_eq_add_of_le hi
  have hk : gs[k]? = some gs[k] := List.getElem?_eq_getElem (by omega)
  obtain ⟨shown, hs⟩ := (h.opened hk).asked_mem ha
  exact ⟨shown, StartedGroup.mem_trace_of_opening hk hs⟩

/-- One question is asked before each group that was started, if questions are asked at all. -/
theorem questions_eq (h : Rolls d a tag total i groups history gs ending) :
    Event.questions (StartedGroup.trace tag total i gs ++ ending.events tag total (i + gs.length)) =
      (List.range' i (gs.length + ending.held)).flatMap (questionBefore a tag) := by
  induction h with
  | finished => rfl
  | @declined i _ _ _ _ ha | @unasked i _ _ _ _ _ ha =>
    have hq : questionBefore a tag i = [(tag, i)] := if_pos ha
    simp [StartedGroup.trace, TagEnding.events, TagEnding.held, Event.questions, Event.question?, hq]
  | failed ho hr =>
    have hq := ho.questions_eq hr
    simpa [StartedGroup.trace, TagEnding.events, TagEnding.held] using hq
  | @completed i rest history g results gs ending ho hr he h ih =>
    have hi : i + (gs.length + 1) = i + 1 + gs.length := by omega
    have hrange : List.range' i (gs.length + 1 + ending.held) =
        i :: List.range' (i + 1) (gs.length + ending.held) := by
      rw [Nat.add_right_comm, List.range'_succ]
    rw [List.length_cons, hi, hrange, List.flatMap_cons, ← ih, ← ho.questions_eq hr,
      StartedGroup.trace, List.append_assoc, Event.questions_append]

/-- The groups that completed are those before the one that failed. -/
theorem completes_iff (h : Rolls d a tag total i groups history gs ending) :
    StartedGroup.Completes gs j ↔ j < (reports gs).length := by
  have hres : (gs.map (·.result))[j]? =
      ((reports gs).map .ok ++ ending.failure.toList.map .error)[j]? := by rw [h.results_eq]
  constructor
  · rintro ⟨g, results, hg, hr⟩
    by_contra hj
    rw [List.getElem?_map, hg, List.getElem?_append_right (by simpa using hj)] at hres
    obtain ⟨e, -, he⟩ := List.mem_map.mp (List.mem_of_getElem? hres.symm)
    cases he.trans hr
  · intro hj
    rw [List.getElem?_append_left (by simpa using hj), List.getElem?_map, List.getElem?_map,
      List.getElem?_eq_getElem hj] at hres
    obtain ⟨g, hg, hr⟩ := Option.map_eq_some_iff.mp hres
    exact ⟨g, _, hg, hr⟩

theorem length_reports (h : Rolls d a tag total i groups history gs ending) :
    gs.length = (reports gs).length + ending.failure.toList.length := by
  simpa using congrArg List.length h.results_eq

/-- No further group is asked about than there are groups. -/
theorem length_add_held_le (h : Rolls d a tag total i groups history gs ending) :
    gs.length + ending.held ≤ groups.length := by
  have hl := h.length_eq
  cases ending with
  | finished => exact Nat.le_of_eq hl
  | declined | unasked => exact hl.1
  | failed => exact hl

/-- The tag is at the question about the next group, or beyond it, when the group before it has
completed. -/
theorem succ_lt_length_add_held_iff (h : Rolls d a tag total i groups history gs ending) :
    j + 1 < gs.length + ending.held ↔ StartedGroup.Completes gs j ∧ j + 1 < groups.length := by
  have hl := h.length_eq
  have hr := h.length_reports
  rw [h.completes_iff]
  cases ending <;> simp_all [TagEnding.held, TagEnding.failure] <;> omega

/-- A group that completed reports its hosts. -/
theorem hosts_of_results {rs : List (List HostResult)} : ∀ {gs : List (StartedGroup σ)},
    (∀ g ∈ gs, g.Ran d a) → gs.map (·.result) = rs.map .ok →
    rs.map (·.map (·.host)) = gs.map (·.hosts) := by
  induction rs with
  | nil => intro gs _ hrs; rw [List.map_eq_nil_iff.mp hrs]; rfl
  | cons results rs ih =>
    intro gs h hrs
    obtain ⟨g, gs, rfl, hg, hgs⟩ := List.map_eq_cons_iff.mp hrs
    obtain ⟨⟨s, hran⟩, hrest⟩ := List.forall_mem_cons.mp h
    obtain ⟨outcome, rfl⟩ := runGroup_eq_ok (hran.trans (by rw [hg]))
    have hhosts : (g.hosts.map (HostResult.mk · outcome)).map (·.host) = g.hosts := by
      rw [List.map_map]
      exact List.map_id _
    rw [List.map_cons, List.map_cons, ih hrest hgs, hhosts]

end Rolls

/-- The questions that are asked before the first groups have the indices 1, 2 and so on. -/
theorem flatMap_questionBefore (a : Agents σ) (tag : Text) (n : Nat) :
    (List.range' 0 n).flatMap (questionBefore a tag) =
      if a.operator.isSome then (List.range' 1 (n - 1)).map (tag, ·) else [] := by
  cases n with
  | zero => simp
  | succ n =>
    have hfirst : questionBefore a tag 0 = [] := if_neg (by simp)
    rw [List.range'_succ, List.flatMap_cons, hfirst, List.nil_append, Nat.add_sub_cancel,
      Nat.zero_add]
    split
    next ho =>
      rw [List.map_eq_flatMap]
      refine List.flatMap_congr fun i hi => if_pos ⟨ho, ?_⟩
      have := List.left_le_of_mem_range' hi
      omega
    next ho => exact List.flatMap_eq_nil_iff.mpr fun i _ => if_neg fun h => ho h.1

/-- The protocol of a tag: what is started, what happens and what comes of it. Groups are counted
from 0. -/
structure Protocol (d : Deployment) (a : Agents σ) (tag : Text) (groups : List (List Text))
    (history events : List Event) (started : List (StartedGroup σ))
    (result : Except TaskError TagReport) : Prop where
  /-- Groups are started in their order. -/
  inOrder : started.map (·.hosts) <+: groups
  /-- They are run, each on its own hosts. -/
  ran : ∀ g ∈ started, g.Ran d a ∧ ∀ e ∈ g.events, e.OfGroup g.hosts
  /-- A group is opened when all groups before it have run, and then runs. -/
  sequence : ∀ i g, started[i]? = some g → g.start.events =
    history ++ StartedGroup.trace tag groups.length 0 (started.take i) ++
      g.opening tag groups.length i
  /-- There are no calls but those of these groups, one group after another. -/
  calls : Event.calls events = started.flatMap fun g => Event.calls g.events
  starts : Event.starts events = (List.range' 0 started.length).map (tag, ·)
  /-- The operator is asked about the groups after the first one, without gap or repetition. -/
  questions : ∃ m, (m = 0 ∨ m < groups.length) ∧
    Event.questions events = (List.range' 1 m).map (tag, ·)
  first : groups ≠ [] → started ≠ []
  started_iff : ∀ i, i + 1 < groups.length → (i + 1 < started.length ↔
    StartedGroup.Completes started i ∧
      (a.operator.isSome = true → ∃ shown, .asked tag (i + 1) ⟨.ok true, shown⟩ ∈ events))
  asked_iff : ∀ i, (tag, i + 1) ∈ Event.questions events ↔ a.operator.isSome = true ∧
    StartedGroup.Completes started i ∧ i + 1 < groups.length
  /-- The operator who says no ends the tag, with the reports of the groups before. -/
  declined : ∀ i shown, .asked tag i ⟨.ok false, shown⟩ ∈ events → ∃ reports,
    result = .ok ⟨reports, true⟩ ∧ reports.length = i ∧
      started.map (·.result) = reports.map .ok
  /-- The operator who cannot be asked fails the tag, and the group is not started. -/
  unasked : ∀ i f shown, .asked tag i ⟨.error f, shown⟩ ∈ events →
    result = .error (.confirmation f) ∧ started.length = i
  /-- Unless the operator has stopped the tag, all groups are reported. -/
  finished : ∀ reports, result = .ok ⟨reports, false⟩ → reports.length = groups.length
  /-- The groups that are reported are the groups that were started. -/
  reported : ∀ report, result = .ok report →
    started.map (·.result) = report.groups.map .ok ∧
      report.groups.map (·.map (·.host)) <+: groups

namespace Rolls

variable {i j : Nat} {groups : List (List Text)} {history : List Event}
  {gs : List (StartedGroup σ)} {ending : TagEnding}

/-- Every question was about a group that was started, with a yes, or is where the tag ends. -/
theorem of_asked_mem_events (h : Rolls d a tag total i groups history gs ending) {answer : Answer}
    (hm : .asked tag j answer ∈
      StartedGroup.trace tag total i gs ++ ending.events tag total (i + gs.length)) :
    (answer.verdict = .ok true ∧ j < i + gs.length) ∨
      (j = i + gs.length ∧ .asked tag j answer ∈ ending.events tag total j) := by
  rcases List.mem_append.mp hm with hm | hm
  · exact .inl (h.of_asked_mem hm)
  · obtain rfl := TagEnding.group_of_asked_mem hm
    exact .inr ⟨rfl, hm⟩

/-- A group after the first one is started when the one before it has completed and the operator, if
there is one, has said yes. -/
theorem succ_lt_length_iff (h : Rolls d a tag total 0 groups history gs ending)
    (hj : j + 1 < groups.length) :
    j + 1 < gs.length ↔ StartedGroup.Completes gs j ∧ (a.operator.isSome = true → ∃ shown,
      .asked tag (j + 1) ⟨.ok true, shown⟩ ∈
        StartedGroup.trace tag total 0 gs ++ ending.events tag total (0 + gs.length)) := by
  have hnext := h.succ_lt_length_add_held_iff (j := j)
  constructor
  · intro hlt
    refine ⟨(hnext.mp (by omega)).1, fun ho => ?_⟩
    obtain ⟨shown, hs⟩ := h.asked_mem (Nat.zero_le _) (by omega) ⟨ho, Nat.succ_ne_zero j⟩
    exact ⟨shown, List.mem_append_left _ hs⟩
  · rintro ⟨hc, hyes⟩
    -- otherwise the tag ends at this group, with an operator who did not say yes
    by_contra hlt
    have hasked := hnext.mpr ⟨hc, hj⟩
    have ho : a.operator.isSome = true := by
      have hl := h.length_eq
      cases ending with
      | finished | failed => exact (hlt hasked).elim
      | declined | unasked => exact hl.2.1
    obtain ⟨shown, hs⟩ := hyes ho
    rcases h.of_asked_mem_events hs with ⟨-, hlt'⟩ | ⟨-, he⟩
    · omega
    · exact TagEnding.not_yes_mem he

end Rolls

/-- Groups that roll keep to the protocol. -/
theorem Rolls.protocol {groups : List (List Text)} {history : List Event}
    {gs : List (StartedGroup σ)} {ending : TagEnding}
    (h : Rolls d a tag groups.length 0 groups history gs ending) :
    Protocol d a tag groups history
      (StartedGroup.trace tag groups.length 0 gs ++ ending.events tag groups.length (0 + gs.length))
      gs (ending.result (reports gs)) where
  inOrder := h.inOrder
  ran g hg := ⟨h.ran g hg, (h.ran g hg).ofGroup⟩
  sequence i g hi := by simpa using (h.opened hi).start
  calls := by
    rw [Event.calls_append, StartedGroup.calls_trace, TagEnding.calls_events, List.append_nil]
  starts := by
    rw [Event.starts_append, StartedGroup.starts_trace _ _ _ h.ran, TagEnding.starts_events,
      List.append_nil]
  questions := by
    have hle := h.length_add_held_le
    rw [h.questions_eq, flatMap_questionBefore]
    split
    · exact ⟨gs.length + ending.held - 1, by omega, rfl⟩
    · exact ⟨0, .inl rfl, rfl⟩
  first hne hnil := by
    subst hnil
    cases h with
    | finished => exact hne rfl
    | declined h | unasked h => exact h.2 rfl
  started_iff i hi := h.succ_lt_length_iff hi
  asked_iff i := by
    rw [h.questions_eq, flatMap_questionBefore, ← h.succ_lt_length_add_held_iff]
    split
    next ho =>
      simp only [ho, true_and, List.mem_map, List.mem_range'_1, Prod.mk.injEq]
      constructor
      · rintro ⟨k, hk, rfl⟩
        omega
      · intro hi
        exact ⟨i + 1, by omega, rfl⟩
    next ho => simp [ho]
  declined i shown hm := by
    rcases h.of_asked_mem_events hm with ⟨hv, -⟩ | ⟨rfl, he⟩
    · cases hv
    · obtain rfl := TagEnding.eq_declined he
      refine ⟨reports gs, rfl, ?_, ?_⟩
      · simpa [TagEnding.failure] using h.length_reports.symm
      · simpa [TagEnding.failure] using h.results_eq
  unasked i f shown hm := by
    rcases h.of_asked_mem_events hm with ⟨hv, -⟩ | ⟨rfl, he⟩
    · cases hv
    · obtain rfl := TagEnding.eq_unasked he
      exact ⟨rfl, (Nat.zero_add _).symm⟩
  finished rs hr := by
    obtain ⟨rfl, rfl⟩ := TagEnding.eq_finished hr
    simpa [TagEnding.failure, h.length_eq] using h.length_reports.symm
  reported report hr := by
    obtain ⟨hgroups, hfailure⟩ := TagEnding.of_result_eq_ok hr
    have hres : gs.map (·.result) = report.groups.map .ok := by
      rw [h.results_eq, hfailure, hgroups]
      exact List.append_nil _
    exact ⟨hres, hosts_of_results h.ran hres ▸ h.inOrder⟩

/-- Whatever the shell does and the operator says, the groups of a tag roll by the protocol. -/
theorem runTag_protocol (d : Deployment) (a : Agents σ) (tag : Text) (groups : List (List Text))
    (p : Progress σ) : ∃ events started,
      (d.runTag a tag groups p).2.events = p.events ++ events ∧
      Protocol d a tag groups p.events events started (d.runTag a tag groups p).1 := by
  obtain ⟨gs, ending, h, hresult, hevents⟩ := runGroups_rolled d a tag groups.length groups 0 p
  refine ⟨_, gs, hevents, ?_⟩
  rw [runTag, hresult]
  exact h.protocol

end Deployment

end Rollout
