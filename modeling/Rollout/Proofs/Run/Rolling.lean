import Mathlib.Data.List.TakeWhile
import Rollout.Proofs.Run.Course

/-!
The steps of a rolling tag. Before a group the operator may be asked; then the group is started and
run, and the tag goes on if it did not fail. Each way that a step can end has one equation, and so
has each way that the tags of a run can start.
-/

namespace Rollout

theorem Task.record_apply {σ : Type} (e : Event) (p : Progress σ) :
    Task.record e p = (.ok (), { p with events := p.events ++ [e] }) := rfl

namespace Deployment

variable {σ : Type} {d : Deployment} {a : Agents σ} {tag : Text} {total group : Nat}
  {hosts : List Text} {rest : List (List Text)} {p p' p'' : Progress σ}

/-! ### Asking -/

/-- The operator is asked about a group: there is one, and it is not the first group. -/
def AsksBefore {σ : Type} (a : Agents σ) (group : Nat) : Prop :=
  a.operator.isSome = true ∧ group ≠ 0

/-- Asking before a group: nobody is asked, or the operator has answered. -/
theorem mayGoOn_cases (a : Agents σ) (tag : Text) (group : Nat) (p : Progress σ) :
    (¬ AsksBefore a group ∧ mayGoOn a tag group p = (.ok true, p)) ∨
      (AsksBefore a group ∧ ∃ answer s, mayGoOn a tag group p =
        (match answer.verdict with
          | .ok b => .ok b
          | .error f => .error (.confirmation f), ⟨s, p.events ++ [.asked tag group answer]⟩)) := by
  unfold mayGoOn AsksBefore
  cases ho : a.operator with
  | none => exact .inl ⟨by simp, rfl⟩
  | some ask =>
    by_cases hg : group = 0
    · exact .inl ⟨by simp [hg], by simp [hg, Task.pure_apply]⟩
    · refine .inr ⟨⟨rfl, hg⟩, (ask tag group p.agents).1, (ask tag group p.agents).2, ?_⟩
      simp only [hg, ↓reduceIte, Task.bind_apply, Task.consult]
      cases (ask tag group p.agents).1.verdict <;> rfl

/-- The question that is asked before a group: one if there is an operator, and none before the
first group. -/
def questionBefore {σ : Type} (a : Agents σ) (tag : Text) (group : Nat) : List (Text × Nat) :=
  if a.operator.isSome ∧ group ≠ 0 then [(tag, group)] else []

/-- Nothing is run or started before the operator has answered. -/
theorem mayGoOn_events (a : Agents σ) (tag : Text) (group : Nat) (p : Progress σ) :
    ∃ events, (mayGoOn a tag group p).2.events = p.events ++ events ∧ Event.calls events = [] ∧
      Event.starts events = [] ∧ Event.questions events = questionBefore a tag group := by
  rcases mayGoOn_cases a tag group p with ⟨hn, hm⟩ | ⟨ha, answer, s, hm⟩ <;> rw [hm]
  · exact ⟨[], (List.append_nil _).symm, rfl, rfl, (if_neg hn).symm⟩
  · exact ⟨[.asked tag group answer], rfl, rfl, rfl, (if_pos ha).symm⟩

/-- Only an operator who cannot be asked keeps a tag from going on or stopping. -/
theorem mayGoOn_eq_error {e : TaskError} (h : (mayGoOn a tag group p).1 = .error e) :
    ∃ f, e = .confirmation f := by
  rcases mayGoOn_cases a tag group p with ⟨-, hm⟩ | ⟨-, ⟨f | b, shown⟩, s, hm⟩ <;> rw [hm] at h <;>
    cases h
  exact ⟨f, rfl⟩

/-! ### One group after another -/

theorem runGroups_cons_of_unasked {e : TaskError} (h : mayGoOn a tag group p = (.error e, p')) :
    d.runGroups a tag total group (hosts :: rest) p = (.error e, p') := by
  rw [runGroups, Task.bind_apply_error h]

theorem runGroups_cons_of_refused (h : mayGoOn a tag group p = (.ok false, p')) :
    d.runGroups a tag total group (hosts :: rest) p =
      (.ok ⟨[], true⟩, { p' with events := p'.events ++ [.stopped tag group total] }) := by
  rw [runGroups, Task.bind_apply_ok h]
  rfl

theorem runGroups_cons_of_failed {e : TaskError} (h : mayGoOn a tag group p = (.ok true, p'))
    (hg : d.runGroup a hosts
      { p' with events := p'.events ++ [.groupStarted tag group total hosts] } = (.error e, p'')) :
    d.runGroups a tag total group (hosts :: rest) p = (.error e, p'') := by
  rw [runGroups, Task.bind_apply_ok h, if_pos rfl, Task.bind_apply_ok (Task.record_apply ..),
    Task.bind_apply_error hg]

/-- A group that is completed leaves the tag to the groups after it. -/
theorem runGroups_cons_of_ok {results : List HostResult}
    (h : mayGoOn a tag group p = (.ok true, p'))
    (hg : d.runGroup a hosts
      { p' with events := p'.events ++ [.groupStarted tag group total hosts] } =
        (.ok results, p'')) :
    d.runGroups a tag total group (hosts :: rest) p =
      ((d.runGroups a tag total (group + 1) rest p'').1.map fun report =>
        { report with groups := results :: report.groups },
        (d.runGroups a tag total (group + 1) rest p'').2) := by
  rw [runGroups, Task.bind_apply_ok h, if_pos rfl, Task.bind_apply_ok (Task.record_apply ..),
    Task.bind_apply_ok hg, Task.bind_apply]
  rcases d.runGroups a tag total (group + 1) rest p'' with ⟨_ | _, _⟩ <;> rfl

end Deployment

/-! ### Collecting the reports -/

/-- A summary is made only if no pipeline fails, and then of all reports. -/
theorem collectInto_eq_ok :
    ∀ {results : List (Text × Except TaskError TagReport)} {s summary : Summary},
      collectInto s results = .ok summary →
      ∃ reports : List (Text × TagReport),
        results = reports.map (fun r => (r.1, .ok r.2)) ∧ summary = s.insertAll reports
  | [], s, summary, h => by
    cases h
    exact ⟨[], rfl, rfl⟩
  | (tag, .ok report) :: results, s, summary, h => by
    have hrest : collectInto (s.insert tag report) results = .ok summary := h
    obtain ⟨reports, rfl, rfl⟩ := collectInto_eq_ok hrest
    exact ⟨(tag, report) :: reports, rfl, rfl⟩
  | (tag, .error e) :: results, s, summary, h => by cases h

/-! ### Starting the pipelines -/

/-- There can be a thread for each of the tags: none of them holds a NUL. -/
def Batches.Startable (b : Batches) : Prop := ∀ tag ∈ b.keys, '\x00' ∉ tag

theorem isStartable_iff {tag : Text} : isStartable tag = true ↔ '\x00' ∉ tag := by
  simp [isStartable, threadName]

theorem Batches.unstartable?_eq_none_iff {b : Batches} : b.unstartable? = none ↔ b.Startable := by
  simp [unstartable?, Startable, isStartable_iff]

namespace Deployment

variable {σ : Type} {d : Deployment} {a : Agents σ} {batches : Batches} {p : Progress σ}

/-- With a thread for each tag, the results of all pipelines are collected. -/
theorem run_of_startable (h : batches.Startable) :
    d.run a batches p =
      (collect (d.runTags a batches.entries p).1, (d.runTags a batches.entries p).2) := by
  have hall : batches.entries.takeWhile (fun e => isStartable e.1) = batches.entries :=
    List.takeWhile_eq_self_iff.mpr fun e he => isStartable_iff.mpr (h e.1 (List.mem_map_of_mem he))
  rw [run, hall, Batches.unstartable?_eq_none_iff.mpr h]

/-- If a tag cannot have a thread, the run panics at such a tag. -/
theorem run_of_not_startable (d : Deployment) (a : Agents σ) (p : Progress σ)
    (h : ¬ batches.Startable) :
    ∃ tag ∈ batches.keys, '\x00' ∈ tag ∧ (d.run a batches p).1 = .error (.panicked tag) := by
  cases hu : batches.unstartable? with
  | none => exact absurd (Batches.unstartable?_eq_none_iff.mp hu) h
  | some tag =>
    have htag : isStartable tag = false := by simpa using List.find?_some hu
    refine ⟨tag, List.mem_of_find?_eq_some hu, ?_, ?_⟩
    · by_contra hn
      cases htag.symm.trans (isStartable_iff.mpr hn)
    · rw [run, hu]

theorem startable_of_run_eq_ok {summary : Summary} (h : (d.run a batches p).1 = .ok summary) :
    batches.Startable := by
  by_contra hn
  obtain ⟨tag, -, -, hpanic⟩ := run_of_not_startable d a p hn
  cases h.symm.trans hpanic

/-- Whatever comes of the run, the pipelines that run are those of the first tags. -/
theorem exists_started (d : Deployment) (a : Agents σ) (batches : Batches) (p : Progress σ) :
    ∃ started, started <+: batches.entries ∧ (d.run a batches p).2 = (d.runTags a started p).2 := by
  refine ⟨_, List.takeWhile_prefix fun e => isStartable e.1, ?_⟩
  rw [run]
  cases batches.unstartable? <;> rfl

end Deployment

end Rollout
