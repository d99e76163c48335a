import Rollout.Proofs.Run.Containment
import Rollout.Proofs.Run.Parts

/-!
The fan-out of a line over a group depends neither on the order in which the hosts take their turns
nor on the order in which they stand in the group. Under any two schedules a group comes to the same
result, and each host receives the same calls. In another order of its hosts a group succeeds or
fails at the same line, and its hosts receive the same calls; only the order of the results and the
host that is blamed for the line may be others (`runGroup_fanOut`).
-/

namespace Rollout

/-! ### Results that agree -/

/-- The same value, or two errors that are related. -/
inductive ResultsAgree {α : Type} (R : TaskError → TaskError → Prop) :
    Except TaskError α → Except TaskError α → Prop
  | ok (v : α) : ResultsAgree R (.ok v) (.ok v)
  | error {e e' : TaskError} (h : R e e') : ResultsAgree R (.error e) (.error e')

/-- Courses with the same lines, whose results agree. -/
structure Course.Agrees {α : Type} (R : TaskError → TaskError → Prop) (c c' : Course α) : Prop where
  lines_eq : c.lines = c'.lines
  results : ResultsAgree R c.result c'.result

namespace Course.Agrees

variable {α β : Type} {R : TaskError → TaskError → Prop} {c c' : Course α}

theorem ofValue (v : α) : Agrees R (ofResult (.ok v)) (ofResult (.ok v)) := ⟨rfl, .ok v⟩

theorem ofError {e : TaskError} (h : R e e) :
    Agrees R (ofResult (.error e) : Course α) (ofResult (.error e)) := ⟨rfl, .error h⟩

/-- Courses one after another; where the first ones fail, nothing follows in either. -/
theorem andThen (h : Agrees R c c') {f f' : α → Course β} (hf : ∀ v, Agrees R (f v) (f' v)) :
    Agrees R (c.andThen f) (c'.andThen f') := by
  obtain ⟨lines, result⟩ := c
  obtain ⟨lines', result'⟩ := c'
  obtain ⟨rfl, hr⟩ := h
  cases hr with
  | ok v =>
    rw [andThen_of_ok rfl, andThen_of_ok rfl]
    exact ⟨congrArg (lines ++ ·) (hf v).lines_eq, (hf v).results⟩
  | error he =>
    rw [andThen_of_error rfl, andThen_of_error rfl]
    exact ⟨rfl, .error he⟩

theorem map (h : Agrees R c c') (f : α → β) : Agrees R (c.map f) (c'.map f) := by
  rw [← andThen_ofResult, ← andThen_ofResult]
  exact h.andThen fun v => ofValue (f v)

end Course.Agrees

namespace Deployment

/-- Two orders of a group are blamed for the same: each blames its first host that fails on one and
the same line, or no host is to blame and the error is the same. -/
def SameBlame (d : Deployment) (answer : Answering) (hosts hosts' : List Text) (e e' : TaskError) :
    Prop :=
  (∃ purpose line, d.Blames answer purpose hosts line e ∧ d.Blames answer purpose hosts' line e') ∨
    (e = e' ∧ ¬ e.OfLine)

/-- What a group comes to in two orders of its hosts: the same outcome for all of them, listed in
the order of the group, or failures with the same to blame. -/
inductive SameVerdict (d : Deployment) (answer : Answering) (hosts hosts' : List Text) :
    Except TaskError (List HostResult) → Except TaskError (List HostResult) → Prop
  | done (outcome : Outcome) : SameVerdict d answer hosts hosts'
    (.ok (hosts.map (⟨·, outcome⟩))) (.ok (hosts'.map (⟨·, outcome⟩)))
  | failed {e e' : TaskError} (h : d.SameBlame answer hosts hosts' e e') :
    SameVerdict d answer hosts hosts' (.error e) (.error e')

variable {d : Deployment} {answer : Answering} {hosts hosts' : List Text} {host : Text}

/-! ### Courses of a group in another order -/

/-- A line that does not fail on a group does not fail on it in another order, and passes on both or
on neither. -/
theorem roundResult_eq_ok_of_perm (hp : hosts.Perm hosts') {purpose : Purpose} {line : Text}
    {b : Bool} (h : d.roundResult answer purpose hosts line = .ok b) :
    d.roundResult answer purpose hosts' line = .ok b := by
  obtain ⟨b', hb', -⟩ := roundResult_implies hp.symm.subset purpose line b h
  have hpass : b = true ↔ b' = true := by
    rw [(roundResult_eq_ok h).2.1, (roundResult_eq_ok hb').2.1]
    exact forall_congr' fun _ => imp_congr_left hp.mem_iff
  rw [Bool.eq_iff_iff.mpr hpass]
  exact hb'

/-- A line fails in both orders of a group or in neither. -/
theorem roundResult_agrees (hp : hosts.Perm hosts') (purpose : Purpose) (line : Text) :
    Course.Agrees (d.SameBlame answer hosts hosts')
      ⟨[line], d.roundResult answer purpose hosts line⟩
      ⟨[line], d.roundResult answer purpose hosts' line⟩ := by
  refine ⟨rfl, ?_⟩
  dsimp only
  cases h : d.roundResult answer purpose hosts line with
  | ok b =>
    rw [roundResult_eq_ok_of_perm hp h]
    exact .ok b
  | error e =>
    cases h' : d.roundResult answer purpose hosts' line with
    | ok b =>
      rw [roundResult_eq_ok_of_perm hp.symm h'] at h
      cases h
    | error e' =>
      exact .error (.inl ⟨purpose, line, roundResult_eq_error h, roundResult_eq_error h'⟩)

theorem roundsCourse_agrees (hp : hosts.Perm hosts') (purpose : Purpose) : ∀ lines : List Text,
    Course.Agrees (d.SameBlame answer hosts hosts') (d.roundsCourse answer purpose hosts lines)
      (d.roundsCourse answer purpose hosts' lines)
  | [] => .ofValue true
  | line :: lines =>
    (roundResult_agrees hp purpose line).andThen fun _ => (roundsCourse_agrees hp purpose lines).map _

theorem guardsCourse_agrees (hp : hosts.Perm hosts') : ∀ guards : List Text,
    Course.Agrees (d.SameBlame answer hosts hosts') (d.guardsCourse answer hosts guards)
      (d.guardsCourse answer hosts' guards)
  | [] => .ofValue true
  | guard :: guards => by
    rw [guardsCourse, guardsCourse]
    cases d.upfile.get? guard with
    | none => exact .ofError (.inr ⟨rfl, id⟩)
    | some c =>
      exact (roundsCourse_agrees hp .check c.lines).andThen fun _ =>
        (guardsCourse_agrees hp guards).map _

theorem bodyCourse_agrees (hp : hosts.Perm hosts') : ∀ lines : List Text,
    Course.Agrees (d.SameBlame answer hosts hosts') (d.bodyCourse answer hosts lines)
      (d.bodyCourse answer hosts' lines)
  | [] => .ofValue ()
  | line :: lines => by
    rw [bodyCourse, bodyCourse]
    cases d.bodyLines line with
    | error cause => exact .ofError (.inr ⟨rfl, id⟩)
    | ok expanded =>
      exact (roundsCourse_agrees hp .work expanded).andThen fun _ => bodyCourse_agrees hp lines

/-- In another order of its hosts a group takes the same course, but for who is blamed. -/
theorem groupCourse_agrees (hp : hosts.Perm hosts') :
    Course.Agrees (d.SameBlame answer hosts hosts') (d.groupCourse answer hosts)
      (d.groupCourse answer hosts') := by
  refine (guardsCourse_agrees hp _).andThen fun passed => ?_
  split
  · exact .ofValue _
  · exact (bodyCourse_agrees hp _).map _

/-! ### What the hosts receive -/

/-- Where lines are carried out, each host receives its calls of these lines, one after another. -/
theorem Carries.receives {lines : List Text} {events : List Event}
    (h : d.Carries answer hosts lines events) (host : Text) :
    Receives hosts host (Event.calls events) (d.hostCalls answer host lines) := by
  obtain ⟨⟨rounds, he, hr⟩, -, -⟩ := h
  exact he ▸ receives_of_rounds hr host

/-! ### The whole group -/

variable {σ τ : Type} {a : Agents σ} {a' : Agents τ}

/-- For a shell whose answer depends on nothing but the host and the line, a group comes to the same
result under all schedules and from all states, and each host receives the same calls. In another
order of its hosts it comes to the same outcome, listed in this order, or fails at the same line,
for which the first host in this order that fails on it is blamed; and each host receives the same
calls, also if the group fails. -/
theorem runGroup_fanOut (ha : a.AnswersBy answer) (ha' : a'.AnswersBy answer)
    (hp : hosts.Perm hosts') (p : Progress σ) (p' : Progress τ) :
    (hosts = hosts' → (d.runGroup a hosts p).1 = (d.runGroup a' hosts' p').1) ∧
    d.SameVerdict answer hosts hosts' (d.runGroup a hosts p).1 (d.runGroup a' hosts' p').1 ∧
    ∃ events events', (d.runGroup a hosts p).2.events = p.events ++ events ∧
      (d.runGroup a' hosts' p').2.events = p'.events ++ events' ∧
      ∀ host, (Event.calls events).filter (·.host = host) =
        (Event.calls events').filter (·.host = host) := by
  obtain ⟨s, events, hx, hc⟩ := runGroup_follows (d := d) ha hosts p
  obtain ⟨s', events', hx', hc'⟩ := runGroup_follows (d := d) ha' hosts' p'
  have hagrees : Course.Agrees (d.SameBlame answer hosts hosts') (d.groupCourse answer hosts)
      (d.groupCourse answer hosts') := groupCourse_agrees hp
  obtain ⟨hlines, hresults⟩ := hagrees
  rw [hx, hx']
  refine ⟨?_, ?_, events, events', rfl, rfl, fun host => ?_⟩
  · rintro rfl
    rfl
  · simp only [Course.map]
    generalize (d.groupCourse answer hosts).result = r at hresults
    generalize (d.groupCourse answer hosts').result = r' at hresults
    cases hresults with
    | ok outcome => exact .done outcome
    | error he => exact .failed he
  · change d.Carries answer hosts (d.groupCourse answer hosts).lines events at hc
    change d.Carries answer hosts' (d.groupCourse answer hosts').lines events' at hc'
    rw [hc.receives host, hc'.receives host, hlines, hp.count_eq]

/-! ### Two servers that cannot be shipped to -/

/-- All servers are out of date, and two of them cannot be shipped to. -/
def strandedAnswer : Answering := fun _ line =>
  .ok ⟨if line = "push a".toList then 2 else if line = "push c".toList then 3
    else if line = "push b".toList then 0 else 1, [], []⟩

/-- A shell that answers so, with the turns in the order of the group. -/
def strandedAgents : Agents Unit :=
  ⟨fun host line s => (strandedAnswer host line, s), none, .inOrder⟩

/-- A shell that answers so and counts its calls, with the turns in the reverse order. -/
def countingAgents : Agents Nat :=
  ⟨fun host line n => (strandedAnswer host line, n + 1), none,
    ⟨fun _ size => (List.range size).reverse, fun _ _ => List.reverse_perm _⟩⟩

/-- Another host is blamed in the other order, and each host receives the same calls. -/
theorem runGroup_fanOut_stranded :
    (["a", "b", "c"] : List Text).Perm ["c", "b", "a"] ∧
      (shipping.runGroup strandedAgents ["a", "b", "c"] ⟨(), []⟩).1 =
        .error (.exit "a" "push a" 2) ∧
      (shipping.runGroup countingAgents ["c", "b", "a"] ⟨0, []⟩).1 =
        .error (.exit "c" "push c" 3) ∧
      shipping.SameVerdict strandedAnswer ["a", "b", "c"] ["c", "b", "a"]
        (.error (.exit "a" "push a" 2)) (.error (.exit "c" "push c" 3)) ∧
      ∀ host,
        (Event.calls (shipping.runGroup strandedAgents ["a", "b", "c"] ⟨(), []⟩).2.events).filter
            (·.host = host) =
          (Event.calls (shipping.runGroup countingAgents ["c", "b", "a"] ⟨0, []⟩).2.events).filter
            (·.host = host) := by
  have ha : strandedAgents.AnswersBy strandedAnswer := fun _ _ _ => rfl
  have ha' : countingAgents.AnswersBy strandedAnswer := fun _ _ _ => rfl
  have hp : (["a", "b", "c"] : List Text).Perm ["c", "b", "a"] := by decide
  have h : (shipping.runGroup strandedAgents ["a", "b", "c"] ⟨(), []⟩).1 =
      .error (.exit "a" "push a" 2) := by decide +kernel
  have h' : (shipping.runGroup countingAgents ["c", "b", "a"] ⟨0, []⟩).1 =
      .error (.exit "c" "push c" 3) := by decide +kernel
  obtain ⟨-, hverdict, events, events', he, he', hcalls⟩ :=
    runGroup_fanOut (d := shipping) ha ha' hp ⟨(), []⟩ ⟨0, []⟩
  rw [h, h'] at hverdict
  rw [he, he']
  exact ⟨hp, h, h', hverdict, hcalls⟩

end Deployment

end Rollout
