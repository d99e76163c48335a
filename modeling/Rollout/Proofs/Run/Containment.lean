import Rollout.Proofs.Run.Outcome

/-!
Failures are contained. When a line fails in the pipeline of a tag, all groups before its group are
completed, the hosts of its group have been called with all lines before it and, where it expands,
with itself, and nothing follows: no line, no group and no question (`runTag_failure_contained`).
The failure is that of the first host of the group that fails on the line. A guard that does not
exit with zero is no failure.
-/

namespace Rollout

/-- Is it a line that failed on a host? -/
def TaskError.OfLine : TaskError → Prop
  | .shell _ | .exit .. | .hostExpansion .. => True
  | .expansion .. | .confirmation _ | .undefinedGuard _ => False

/-- A line that failed on a group, with the calls that were made on the group. -/
structure FailedLine where
  /-- The hosts of the group. -/
  hosts : List Text
  /-- What the line was run for. -/
  purpose : Purpose
  /-- The lines before it. -/
  earlier : List Text
  /-- The line. -/
  line : Text
  /-- Why it failed. -/
  error : TaskError
  /-- The calls of each line before it. -/
  rounds : List (List Call)
  /-- Its own calls. -/
  last : List Call

/-- The calls in order. -/
def FailedLine.calls (f : FailedLine) : List Call := f.rounds.flatten ++ f.last

namespace Deployment

/-- A line that failed as it should. -/
structure FailedAt (d : Deployment) (answer : Answering) (f : FailedLine) : Prop where
  /-- The line is one of the guards or of the expanded body, and the lines before it are all that
  precede it. -/
  reached : d.Reaches f.purpose f.earlier f.line
  /-- Each line before it was run on every host. -/
  earlier_run : List.Forall₂ (d.FullRound answer f.hosts) f.earlier f.rounds
  /-- It was run on every host on which it expands. -/
  line_run : f.last.Perm (d.roundCalls answer f.hosts f.line)
  /-- The first host that fails on it is blamed. -/
  blamed : d.Blames answer f.purpose f.hosts f.line f.error
  /-- No exit code makes a guard fail. -/
  check_not_exit : f.purpose = .check → ∀ host line code, f.error ≠ .exit host line code

/-- Groups of a tag, counted from `first`, of which one has failed at a line: the groups before it
are completed, and no call, no group and no question follows. One question at most was asked before
each group that was started. -/
def Contained {σ : Type} (d : Deployment) (answer : Answering) (a : Agents σ) (tag : Text)
    (first : Nat) (groups : List (List Text)) (e : TaskError) (events : List Event) : Prop :=
  ∃ (before : List GroupRun) (f : FailedLine) (after : List (List Text)),
    groups = before.map (·.hosts) ++ f.hosts :: after ∧ f.error = e ∧
    (∀ g ∈ before, d.Completed answer g) ∧ d.FailedAt answer f ∧
    Event.calls events = before.flatMap (·.calls) ++ f.calls ∧
    Event.starts events = (List.range' first (before.length + 1)).map (tag, ·) ∧
    Event.questions events = (List.range' first (before.length + 1)).flatMap (questionBefore a tag)

variable {σ : Type} {d : Deployment} {answer : Answering} {a : Agents σ} {hosts : List Text}

/-- A check is not blamed for its exit code. -/
theorem Blames.ne_exit {line : Text} {e : TaskError} (h : d.Blames answer .check hosts line e)
    (host text : Text) (code : Int) : e ≠ .exit host text code := by
  obtain ⟨-, h', -, -, -, hf⟩ := h
  rintro rfl
  cases hf with
  | exit hp => cases hp

/-- A group whose course ends with the failure of a line has failed at this line. -/
theorem failedAt_of_course {e : TaskError} {events : List Event}
    (hr : (d.groupCourse answer hosts).result = .error e)
    (hc : d.Carries answer hosts (d.groupCourse answer hosts).lines events) (he : e.OfLine) :
    ∃ f : FailedLine,
      f.hosts = hosts ∧ f.error = e ∧ d.FailedAt answer f ∧ Event.calls events = f.calls := by
  rcases groupCourse_eq_error hr with
    ⟨purpose, earlier, line, hreach, hl, hall, hf⟩ | ⟨guard, rfl⟩ | ⟨line, cause, rfl⟩
  · rw [hl] at hc
    obtain ⟨rounds, rounds', hcalls, hrounds, hlast⟩ := hc.split
    obtain ⟨last, rest, hperm, hrest, rfl⟩ := List.forall₂_cons_left_iff.mp hlast
    obtain rfl := List.forall₂_nil_left_iff.mp hrest
    have hb := roundResult_eq_error hf
    refine ⟨⟨hosts, purpose, earlier, line, e, rounds, last⟩, rfl, rfl,
      ⟨hreach, fullRounds_of_perm hall hrounds, hperm, hb, ?_⟩,
        by simpa [FailedLine.calls] using hcalls⟩
    rintro rfl
    exact hb.ne_exit
  · exact he.elim
  · exact he.elim

/-- The groups before the failure are completed one by one; the group that fails is the last one
that is started. -/
theorem runGroups_failure_contained (ha : a.AnswersBy answer) {tag : Text} {total : Nat}
    {e : TaskError} (he : e.OfLine) :
    ∀ (groups : List (List Text)) {group : Nat} {p : Progress σ},
      (d.runGroups a tag total group groups p).1 = .error e →
      ∃ events, (d.runGroups a tag total group groups p).2.events = p.events ++ events ∧
        d.Contained answer a tag group groups e events
  | hosts :: rest, group, p, h => by
    rcases rollingStep (d := d) ha tag total group hosts rest p with
      ⟨f, hf⟩ | ⟨events, hr, -, -⟩ | ⟨e', first, last, hf, hev, hc, hq, hs, hr, hl⟩ |
        ⟨g, events, p', rfl, hd, hev, hc, hq, hs, hx⟩
    · rw [hf] at h
      cases h
      exact he.elim
    · rw [hr] at h
      cases h
    · -- this group fails, and nothing is recorded after its last line
      rw [hf] at h
      cases h
      obtain ⟨f, rfl, rfl, hfail, hcalls⟩ := failedAt_of_course hr hl he
      refine ⟨first ++ last, hev, [], f, rest, rfl, rfl, nofun, hfail, ?_, ?_, ?_⟩
      · rw [Event.calls_append, hc, hcalls]
        rfl
      · rw [Event.starts_append, hs, hl.2.2]
        rfl
      · rw [Event.questions_append, hq, hl.2.1]
        rfl
    · rw [hx] at h ⊢
      cases hr : (d.runGroups a tag total (group + 1) rest p').1 with
      | ok report => rw [hr] at h; cases h
      | error e' =>
        rw [hr] at h
        cases h
        obtain ⟨events', hev', before, f, after, rfl, hfe, hall, hfail, hc', hs', hq'⟩ :=
          runGroups_failure_contained ha he rest hr
        have hrange : List.range' group (before.length + 1 + 1) =
            group :: List.range' (group + 1) (before.length + 1) := rfl
        refine ⟨events ++ events', ?_, g :: before, f, after, rfl, hfe,
          List.forall_mem_cons.mpr ⟨hd, hall⟩, hfail, ?_, ?_, ?_⟩
        · rw [hev', hev, List.append_assoc]
        · rw [Event.calls_append, hc, hc', List.flatMap_cons, List.append_assoc]
        · rw [Event.starts_append, hs, hs', List.length_cons, hrange]
          rfl
        · rw [Event.questions_append, hq, hq', List.length_cons, hrange, List.flatMap_cons]

/-- When a line fails in the pipeline of a tag, the failure is contained in its group. -/
theorem runTag_failure_contained (ha : a.AnswersBy answer) {tag : Text} {groups : List (List Text)}
    {p : Progress σ} {e : TaskError} (h : (d.runTag a tag groups p).1 = .error e)
    (he : e.OfLine) :
    ∃ events, (d.runTag a tag groups p).2.events = p.events ++ events ∧
      d.Contained answer a tag 0 groups e events :=
  runGroups_failure_contained ha he groups h

/-- The second of three groups fails on its first host; the other host of the group is called all
the same. -/
theorem runTag_failure_contained_shipping :
    (shipping.runTag shippingAgents "web" [["a"], ["c", "a"], ["b"]] ⟨(), []⟩).1 =
        .error (.exit "c" "push c" 3) ∧
      TaskError.OfLine (.exit "c" "push c" 3) ∧
      shipping.Contained shippingAnswer shippingAgents "web" 0 [["a"], ["c", "a"], ["b"]]
        (.exit "c" "push c" 3)
        (shipping.runTag shippingAgents "web" [["a"], ["c", "a"], ["b"]] ⟨(), []⟩).2.events := by
  have ha : shippingAgents.AnswersBy shippingAnswer := fun _ _ _ => rfl
  have h : (shipping.runTag shippingAgents "web" [["a"], ["c", "a"], ["b"]] ⟨(), []⟩).1 =
      .error (.exit "c" "push c" 3) := by
    decide +kernel
  obtain ⟨events, he, hc⟩ := runTag_failure_contained ha h trivial
  rw [List.nil_append] at he
  exact ⟨h, trivial, he ▸ hc⟩

end Deployment

end Rollout
