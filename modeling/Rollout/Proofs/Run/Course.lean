import Mathlib.Data.List.Forall2
import Mathlib.Data.List.Perm.Basic
import Rollout.Run.Rolling

/-!
The course of a command on a group of hosts, for a shell whose answer depends on nothing but the
host and the line: which lines are dispatched, in which order, and what comes of them. The course is
a function of the deployment and the hosts alone, and every task of a group follows it
(`runGroup_follows`), whatever the turns of the hosts and the states of the agents are. What is
stated of a group is then read off its course.
-/

namespace Rollout

/-! ### Calls, questions and starts among the events -/

/-- A line that was handed to the shell on behalf of a host, and what came of it. -/
structure Call where
  /-- The host. -/
  host : Text
  /-- The line. -/
  line : Text
  /-- What the shell answered. -/
  reply : Except Failure Reply
  deriving DecidableEq

/-- The call exited with zero. -/
def Call.Passed (c : Call) : Prop := ∃ r, c.reply = .ok r ∧ r.exitCode = 0

namespace Event

/-- The call that an event tells of. -/
def call? : Event → Option Call
  | .called host line reply => some ⟨host, line, reply⟩
  | _ => none

/-- The tag and the group that the operator was asked about. -/
def question? : Event → Option (Text × Nat)
  | .asked tag group _ => some (tag, group)
  | _ => none

/-- The tag and the group that was started. -/
def start? : Event → Option (Text × Nat)
  | .groupStarted tag group _ _ => some (tag, group)
  | _ => none

/-- The calls among the events. -/
def calls (events : List Event) : List Call := events.filterMap call?

/-- The questions among the events. -/
def questions (events : List Event) : List (Text × Nat) := events.filterMap question?

/-- The starts of groups among the events. -/
def starts (events : List Event) : List (Text × Nat) := events.filterMap start?

@[simp] theorem calls_append (es fs : List Event) : calls (es ++ fs) = calls es ++ calls fs :=
  List.filterMap_append

@[simp] theorem questions_append (es fs : List Event) :
    questions (es ++ fs) = questions es ++ questions fs :=
  List.filterMap_append

@[simp] theorem starts_append (es fs : List Event) : starts (es ++ fs) = starts es ++ starts fs :=
  List.filterMap_append

end Event

/-- What a shell answers for a host and a line, at any time. -/
abbrev Answering := Text → Text → Except Failure Reply

/-- The shell of the agents answers so, whatever their state is. -/
def Agents.AnswersBy {σ : Type} (a : Agents σ) (answer : Answering) : Prop :=
  ∀ host line s, (a.shell host line s).1 = answer host line

/-! ### Courses -/

/-- The lines that are dispatched to a group, in order, and what comes of them. -/
structure Course (α : Type) where
  /-- The lines. -/
  lines : List Text
  /-- What comes of them. -/
  result : Except TaskError α

namespace Course

variable {α β : Type}

/-- Nothing is dispatched. -/
def ofResult (r : Except TaskError α) : Course α := ⟨[], r⟩

/-- One course after another, unless the first one fails. -/
def andThen (c : Course α) (f : α → Course β) : Course β :=
  match c.result with
  | .ok a => ⟨c.lines ++ (f a).lines, (f a).result⟩
  | .error e => ⟨c.lines, .error e⟩

/-- The course with its result changed. -/
def map (f : α → β) (c : Course α) : Course β := ⟨c.lines, c.result.map f⟩

theorem andThen_of_ok {c : Course α} {a : α} (h : c.result = .ok a) (f : α → Course β) :
    c.andThen f = ⟨c.lines ++ (f a).lines, (f a).result⟩ := by
  rw [andThen, h]

theorem andThen_of_error {c : Course α} {e : TaskError} (h : c.result = .error e)
    (f : α → Course β) : c.andThen f = ⟨c.lines, .error e⟩ := by
  rw [andThen, h]

theorem map_andThen {γ : Type} (c : Course α) (f : α → Course β) (g : β → γ) :
    (c.andThen f).map g = c.andThen fun a => (f a).map g := by
  cases h : c.result with
  | ok a => simp only [andThen_of_ok h, map]
  | error e => simp only [andThen_of_error h, map, Except.map]

theorem map_result_eq_ok {c : Course α} {f : α → β} {b : β} (h : (c.map f).result = .ok b) :
    ∃ a, c.result = .ok a ∧ b = f a := by
  cases hc : c.result with
  | error e => rw [map, hc] at h; cases h
  | ok a => rw [map, hc] at h; cases h; exact ⟨a, rfl, rfl⟩

theorem map_result_eq_error {c : Course α} {f : α → β} {e : TaskError}
    (h : (c.map f).result = .error e) : c.result = .error e := by
  cases hc : c.result with
  | error e' => rw [map, hc] at h; cases h; rfl
  | ok a => rw [map, hc] at h; cases h

theorem andThen_result_eq_ok {c : Course α} {f : α → Course β} {b : β} :
    (c.andThen f).result = .ok b ↔ ∃ v, c.result = .ok v ∧ (f v).result = .ok b := by
  cases h : c.result <;> simp [andThen, h]

theorem map_result_of_ok {c : Course α} {v : α} (h : c.result = .ok v) (f : α → β) :
    (c.map f).result = .ok (f v) := by
  rw [map, h]
  rfl

theorem andThen_ofResult (c : Course α) (f : α → β) :
    (c.andThen fun a => ofResult (.ok (f a))) = c.map f := by
  cases h : c.result with
  | ok a => simp [andThen_of_ok h, map, ofResult, h, Except.map]
  | error e => simp [andThen_of_error h, map, h, Except.map]

theorem andThen_map {γ : Type} (c : Course α) (f : α → β) (k : β → Course γ) :
    (c.map f).andThen k = c.andThen fun a => k (f a) := by
  cases h : c.result <;> simp [andThen, map, h, Except.map]

theorem map_map {γ : Type} (c : Course α) (f : α → β) (g : β → γ) :
    (c.map f).map g = c.map fun a => g (f a) := by
  cases h : c.result <;> simp [map, h, Except.map]

end Course

namespace Deployment

/-- What comes of a line on a host. -/
def hostResult (d : Deployment) (answer : Answering) (purpose : Purpose) (line host : Text) :
    Except TaskError Bool :=
  match d.hostLine host line with
  | .error cause => .error (.hostExpansion host line cause)
  | .ok text => match answer host text with
    | .error f => .error (.shell f)
    | .ok r =>
      if r.success then .ok true
      else match purpose with
        | .check => .ok false
        | .work => .error (.exit host text r.exitCode)

/-- The call that a line makes on a host, if it expands there. -/
def hostCall (d : Deployment) (answer : Answering) (line host : Text) : Option Call :=
  match d.hostLine host line with
  | .error _ => none
  | .ok text => some ⟨host, text, answer host text⟩

/-- The calls that a line makes on a group, in the order of the group. -/
def roundCalls (d : Deployment) (answer : Answering) (hosts : List Text) (line : Text) :
    List Call :=
  hosts.filterMap (d.hostCall answer line)

/-- What comes of a line on a group: the first failure in the order of the group decides. -/
def roundResult (d : Deployment) (answer : Answering) (purpose : Purpose) (hosts : List Text)
    (line : Text) : Except TaskError Bool :=
  verdict (hosts.map (d.hostResult answer purpose line))

/-- The course of lines one after another, which ends with the first line that fails. -/
def roundsCourse (d : Deployment) (answer : Answering) (purpose : Purpose) (hosts : List Text) :
    List Text → Course Bool
  | [] => .ofResult (.ok true)
  | line :: lines =>
    Course.andThen ⟨[line], d.roundResult answer purpose hosts line⟩ fun passed =>
      (roundsCourse d answer purpose hosts lines).map (passed && ·)

/-- The course of the guards. -/
def guardsCourse (d : Deployment) (answer : Answering) (hosts : List Text) : List Text → Course Bool
  | [] => .ofResult (.ok true)
  | guard :: guards =>
    match d.upfile.get? guard with
    | none => .ofResult (.error (.undefinedGuard guard))
    | some c =>
      (d.roundsCourse answer .check hosts c.lines).andThen fun passed =>
        (guardsCourse d answer hosts guards).map (passed && ·)

/-- The course of the body, of which each line is expanded when it comes to its turn. -/
def bodyCourse (d : Deployment) (answer : Answering) (hosts : List Text) : List Text → Course Unit
  | [] => .ofResult (.ok ())
  | line :: lines =>
    match d.bodyLines line with
    | .error cause => .ofResult (.error (.expansion line cause))
    | .ok expanded =>
      (d.roundsCourse answer .work hosts expanded).andThen fun _ => bodyCourse d answer hosts lines

/-- The course of the command. -/
def groupCourse (d : Deployment) (answer : Answering) (hosts : List Text) : Course Outcome :=
  (d.guardsCourse answer hosts d.command.guards).andThen fun passed =>
    if !d.command.guards.isEmpty && passed then .ofResult (.ok .satisfied)
    else (d.bodyCourse answer hosts d.command.lines).map fun _ => .deployed

/-! ### Following a course -/

/-- The calls among the events are those of the lines, one line after another and each on all hosts
in any order; nobody is asked and no group is started. -/
def Carries (d : Deployment) (answer : Answering) (hosts lines : List Text) (events : List Event) :
    Prop :=
  (∃ rounds, Event.calls events = rounds.flatten ∧
    List.Forall₂ (fun line round => round.Perm (d.roundCalls answer hosts line)) lines rounds) ∧
  Event.questions events = [] ∧ Event.starts events = []

/-- From wherever it starts, the task comes to the result of the course and records events that
carry its lines. -/
def Follows {σ α : Type} (d : Deployment) (answer : Answering) (hosts : List Text) (x : Task σ α)
    (c : Course α) : Prop :=
  ∀ p, ∃ s events, x p = (c.result, ⟨s, p.events ++ events⟩) ∧ d.Carries answer hosts c.lines events

variable {σ α β : Type} {d : Deployment} {a : Agents σ} {answer : Answering} {hosts : List Text}

theorem carries_nil : d.Carries answer hosts [] [] := ⟨⟨[], rfl, .nil⟩, rfl, rfl⟩

/-- Events that carry lines, one part after another. -/
theorem Carries.append {lines lines' : List Text} {events events' : List Event}
    (h : d.Carries answer hosts lines events) (h' : d.Carries answer hosts lines' events') :
    d.Carries answer hosts (lines ++ lines') (events ++ events') := by
  obtain ⟨⟨rounds, hc, hr⟩, hq, hs⟩ := h
  obtain ⟨⟨rounds', hc', hr'⟩, hq', hs'⟩ := h'
  refine ⟨⟨rounds ++ rounds', ?_, List.rel_append hr hr'⟩, ?_, ?_⟩
  · rw [Event.calls_append, hc, hc', List.flatten_append]
  · rw [Event.questions_append, hq, hq', List.append_nil]
  · rw [Event.starts_append, hs, hs', List.append_nil]

theorem follows_pure (v : α) :
    d.Follows answer hosts (pure v : Task σ α) (.ofResult (.ok v)) := fun p =>
  ⟨p.agents, [], by simp [Task.pure_apply, Course.ofResult], carries_nil⟩

theorem follows_fail (e : TaskError) :
    d.Follows answer hosts (Task.fail e : Task σ α) (.ofResult (.error e)) :=
  fun p => ⟨p.agents, [], by simp [Task.fail, Course.ofResult], carries_nil⟩

/-- A task that goes on after a success follows the courses of its parts, one after another. -/
theorem follows_bind {x : Task σ α} {f : α → Task σ β} {c : Course α} {k : α → Course β}
    (hx : d.Follows answer hosts x c) (hf : ∀ v, d.Follows answer hosts (f v) (k v)) :
    d.Follows answer hosts (x >>= f) (c.andThen k) := by
  intro p
  obtain ⟨s, events, hp, hc⟩ := hx p
  cases hr : c.result with
  | error e =>
    rw [Course.andThen_of_error hr]
    exact ⟨s, events, Task.bind_apply_error (hr ▸ hp) f, hc⟩
  | ok v =>
    obtain ⟨s', events', hp', hc'⟩ := hf v ⟨s, p.events ++ events⟩
    rw [Course.andThen_of_ok hr]
    refine ⟨s', events ++ events', ?_, hc.append hc'⟩
    rw [Task.bind_apply_ok (hr ▸ hp), hp', List.append_assoc]

/-- Changing the result of a task changes the result of its course. -/
theorem follows_map {x : Task σ α} {c : Course α} (hx : d.Follows answer hosts x c) (f : α → β) :
    d.Follows answer hosts (x >>= fun v => pure (f v)) (c.map f) := by
  rw [← Course.andThen_ofResult]
  exact follows_bind hx fun v => follows_pure (f v)

/-! ### Turns -/

/-- The result of a host is found at its position, whenever its turn was. -/
theorem lookup_turns {i : Nat} {host : Text} (h : hosts[i]? = some host) (f : Text → β) :
    ∀ {order : List Nat}, i ∈ order →
      ((order.filterMap fun j => hosts[j]?.map (j, ·)).map fun t => (t.1, f t.2)).lookup i =
        some (f host)
  | j :: order, hi => by
    rcases eq_or_ne i j with rfl | hij
    · simp [h]
    · have ih := lookup_turns h f ((List.mem_cons.mp hi).resolve_left hij)
      cases hj : hosts[j]? with
      | none => simpa [hj] using ih
      | some other => simpa [hj, List.lookup_cons, beq_false_of_ne hij] using ih

theorem filterMap_range_getElem? (f : Text → β) : ∀ hosts : List Text,
    (List.range hosts.length).filterMap (fun i => hosts[i]?.map f) = hosts.map f
  | [] => rfl
  | host :: hosts => by
    rw [List.length_cons, List.range_succ_eq_map, List.filterMap_cons, List.filterMap_map]
    simpa [Function.comp_def] using filterMap_range_getElem? f hosts

/-- Whatever the order of the turns, their results come back in the order of the group. -/
theorem inGroupOrder_turns {order : List Nat} (h : order.Perm (List.range hosts.length))
    (f : Text → β) :
    inGroupOrder hosts.length (((order.filterMap fun i => hosts[i]?.map (i, ·)).map (·.1)).zip
      ((order.filterMap fun i => hosts[i]?.map (i, ·)).map fun t => f t.2)) = hosts.map f := by
  rw [List.zip_map', inGroupOrder, ← filterMap_range_getElem? f hosts]
  refine List.filterMap_congr fun i hi => ?_
  have hlt : i < hosts.length := List.mem_range.mp hi
  rw [lookup_turns (List.getElem?_eq_getElem hlt) f (h.mem_iff.mpr hi),
    List.getElem?_eq_getElem hlt]
  rfl

/-- In whatever order, each host has its turn. -/
theorem turns_perm {order : List Nat} (h : order.Perm (List.range hosts.length)) :
    ((order.filterMap fun i => hosts[i]?.map (i, ·)).map (·.2)).Perm hosts := by
  have he : ∀ order : List Nat,
      (order.filterMap fun i => hosts[i]?.map (i, ·)).map (·.2) =
        order.filterMap fun i => hosts[i]?.map id := by
    intro order
    rw [List.map_filterMap]
    simp [Function.comp_def]
  rw [he]
  refine (h.filterMap _).trans ?_
  rw [filterMap_range_getElem? id hosts, List.map_id]

/-! ### One line -/

/-- On one host, the task comes to the result and makes the call that the answers of the shell
tell. -/
theorem runOnHost_eq (ha : a.AnswersBy answer) (purpose : Purpose) (line host : Text)
    (p : Progress σ) :
    ∃ s events, d.runOnHost a purpose line host p =
        (d.hostResult answer purpose line host, ⟨s, p.events ++ events⟩) ∧
      Event.calls events = (d.hostCall answer line host).toList ∧
      Event.questions events = [] ∧ Event.starts events = [] := by
  unfold runOnHost hostResult hostCall
  cases he : d.hostLine host line with
  | error cause => exact ⟨p.agents, [], by simp [Task.fail], rfl, rfl, rfl⟩
  | ok text =>
    have hr : (a.shell host text p.agents).1 = answer host text := ha host text p.agents
    have hc : Task.consult (a.shell host text) (Event.called host text) p =
        (.ok (answer host text),
          ⟨(a.shell host text p.agents).2,
            p.events ++ [.called host text (answer host text)]⟩) := by
      rw [Task.consult, ← hr]
    refine ⟨(a.shell host text p.agents).2, ?_⟩
    dsimp only
    rw [Task.bind_apply_ok hc]
    cases hs : answer host text with
    | error f => exact ⟨[.called host text (.error f)], rfl, rfl, rfl, rfl⟩
    | ok r =>
      cases hok : r.success with
      | true => exact ⟨[.called host text (.ok r)], by simp [hok]; rfl, rfl, rfl, rfl⟩
      | false =>
        cases purpose with
        | check =>
          refine ⟨[.called host text (.ok r), .guardFailed host r], ?_, rfl, rfl, rfl⟩
          simp [hok, Task.bind_apply, Task.record, Task.pure_apply]
        | work => exact ⟨[.called host text (.ok r)], by simp [hok, Task.fail], rfl, rfl, rfl⟩

/-- Every turn is taken, whatever came of the turns before it. -/
theorem attemptAll_runOnHost_eq (ha : a.AnswersBy answer) (purpose : Purpose) (line : Text) :
    ∀ (turns : List (Nat × Text)) (p : Progress σ), ∃ s events,
      Task.attemptAll (fun turn => d.runOnHost a purpose line turn.2) turns p =
        (.ok (turns.map fun turn => d.hostResult answer purpose line turn.2),
          ⟨s, p.events ++ events⟩) ∧
      Event.calls events = (turns.map (·.2)).filterMap (d.hostCall answer line) ∧
      Event.questions events = [] ∧ Event.starts events = []
  | [], p => ⟨p.agents, [], by simp [Task.attemptAll, Task.pure_apply], rfl, rfl, rfl⟩
  | turn :: turns, p => by
    obtain ⟨s, events, hx, hc, hq, hs⟩ := runOnHost_eq (d := d) ha purpose line turn.2 p
    obtain ⟨s', events', hx', hc', hq', hs'⟩ :=
      attemptAll_runOnHost_eq ha purpose line turns ⟨s, p.events ++ events⟩
    refine ⟨s', events ++ events', ?_, ?_, ?_, ?_⟩
    · have ht : Task.attempt (d.runOnHost a purpose line turn.2) p =
          (.ok (d.hostResult answer purpose line turn.2), ⟨s, p.events ++ events⟩) := by
        rw [Task.attempt, hx]
      rw [Task.attemptAll, Task.bind_apply_ok ht, Task.bind_apply_ok hx', Task.pure_apply,
        List.map_cons, List.append_assoc]
    · rw [Event.calls_append, hc, hc', List.map_cons, List.filterMap_cons]
      cases d.hostCall answer line turn.2 <;> rfl
    · rw [Event.questions_append, hq, hq', List.append_nil]
    · rw [Event.starts_append, hs, hs', List.append_nil]

/-- A line that is dispatched follows the course of this one line. -/
theorem dispatch_follows (ha : a.AnswersBy answer) (purpose : Purpose) (line : Text) :
    d.Follows answer hosts (d.dispatch a purpose hosts line)
      ⟨[line], d.roundResult answer purpose hosts line⟩ := by
  intro p
  have hperm := a.schedule.perm p.events hosts.length
  obtain ⟨s, events, hx, hc, hq, hs⟩ := attemptAll_runOnHost_eq (d := d) ha purpose line
    ((a.schedule.turns p.events hosts.length).filterMap fun i => hosts[i]?.map (i, ·)) p
  -- the results are sorted by position again, the calls stay in the order of the turns
  refine ⟨s, events, ?_, ⟨[Event.calls events], by simp, .cons ?_ .nil⟩, hq, hs⟩
  · have hh : Task.history p = (.ok p.events, p) := rfl
    rw [dispatch, Task.bind_apply_ok hh, Task.bind_apply_ok hx, inGroupOrder_turns hperm,
      roundResult]
    cases verdict (hosts.map (d.hostResult answer purpose line)) <;> rfl
  · rw [hc]
    exact (turns_perm hperm).filterMap _

/-! ### Guards and body -/

theorem follows_record {e : Event} (hc : e.call? = none) (hq : e.question? = none)
    (hs : e.start? = none) :
    d.Follows answer hosts (Task.record e : Task σ Unit) (.ofResult (.ok ())) := fun p =>
  ⟨p.agents, [e], rfl, ⟨[], by simp [Event.calls, hc], .nil⟩, by simp [Event.questions, hq],
    by simp [Event.starts, hs]⟩

/-- All lines of a guard are dispatched, also after one that did not pass. -/
theorem runChecks_follows (ha : a.AnswersBy answer) : ∀ lines : List Text,
    d.Follows answer hosts (d.runChecks a hosts lines) (d.roundsCourse answer .check hosts lines)
  | [] => follows_pure true
  | line :: lines =>
    follows_bind (dispatch_follows ha .check line) fun _ =>
      follows_map (runChecks_follows ha lines) _

/-- All guards are run, also after one that did not pass. -/
theorem runGuards_follows (ha : a.AnswersBy answer) : ∀ guards : List Text,
    d.Follows answer hosts (d.runGuards a hosts guards) (d.guardsCourse answer hosts guards)
  | [] => follows_pure true
  | guard :: guards => by
    rw [runGuards, guardsCourse]
    cases d.upfile.get? guard with
    | none => exact follows_fail _
    | some c =>
      exact follows_bind (runChecks_follows ha c.lines) fun _ =>
        follows_map (runGuards_follows ha guards) _

/-- Lines of the body are dispatched up to the first one that fails. -/
theorem runLines_follows (ha : a.AnswersBy answer) : ∀ lines : List Text,
    d.Follows answer hosts (d.runLines a hosts lines)
      ((d.roundsCourse answer .work hosts lines).map fun _ => ())
  | [] => follows_pure ()
  | line :: lines => by
    rw [roundsCourse, Course.map_andThen]
    refine follows_bind (dispatch_follows ha .work line) fun _ => ?_
    rw [Course.map_map]
    exact runLines_follows ha lines

/-- The body is expanded and dispatched line by line, up to the first line that fails. -/
theorem runBody_follows (ha : a.AnswersBy answer) : ∀ lines : List Text,
    d.Follows answer hosts (d.runBody a hosts lines) (d.bodyCourse answer hosts lines)
  | [] => follows_pure ()
  | line :: lines => by
    rw [runBody, bodyCourse]
    cases d.bodyLines line with
    | error cause => exact follows_fail _
    | ok expanded =>
      have h := follows_bind (runLines_follows ha expanded) fun _ => runBody_follows ha lines
      rwa [Course.andThen_map] at h

/-- A group follows its course, whatever the turns of the hosts and the states of the agents are. -/
theorem runGroup_follows (ha : a.AnswersBy answer) (hosts : List Text) :
    d.Follows answer hosts (d.runGroup a hosts)
      ((d.groupCourse answer hosts).map fun outcome => hosts.map (⟨·, outcome⟩)) := by
  rw [groupCourse, Course.map_andThen]
  refine follows_bind (runGuards_follows ha _) fun passed => ?_
  cases hp : !d.command.guards.isEmpty && passed with
  | true => exact follows_bind (follows_record rfl rfl rfl) fun _ => follows_pure _
  | false =>
    simp only [Bool.false_eq_true, ↓reduceIte]
    rw [Course.map_map]
    exact follows_map (runBody_follows ha _) _

end Deployment

end Rollout
