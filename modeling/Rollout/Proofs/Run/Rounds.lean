import Rollout.Proofs.Run.Course
import Rollout.Proofs.Text

/-!
What the result of a course says about its lines. A line that succeeds was called on every host of
the group, and a line that fails is blamed on the first host, in the order of the group, that fails
on it (`roundResult_eq_error`). The lines of the guards and of the expanded body are the lines of a
course up to the first failure (`groupCourse_eq_ok`, `groupCourse_eq_error`).
-/

namespace Rollout

namespace Deployment

/-! ### What a line does on a host -/

/-- The line is run on the host and exits with zero. -/
def PassesOn (d : Deployment) (answer : Answering) (line host : Text) : Prop :=
  ∃ text r, d.hostLine host line = .ok text ∧ answer host text = .ok r ∧ r.exitCode = 0

/-- How a line fails on a host. A check fails only when it does not expand or is not run; a line of
the body also when it does not exit with zero. -/
inductive FailsOn (d : Deployment) (answer : Answering) (purpose : Purpose) (line host : Text) :
    TaskError → Prop
  | expansion {cause : PossibleCycle} (h : d.hostLine host line = .error cause) :
    FailsOn d answer purpose line host (.hostExpansion host line cause)
  | shell {text : Text} {f : Failure} (h : d.hostLine host line = .ok text)
    (hs : answer host text = .error f) : FailsOn d answer purpose line host (.shell f)
  | exit {text : Text} {r : Reply} (hp : purpose = .work) (h : d.hostLine host line = .ok text)
    (hs : answer host text = .ok r) (hr : r.exitCode ≠ 0) :
    FailsOn d answer purpose line host (.exit host text r.exitCode)

/-- The failure is that of the first host, in the order of the group, that fails on the line. -/
def Blames (d : Deployment) (answer : Answering) (purpose : Purpose) (hosts : List Text)
    (line : Text) (e : TaskError) : Prop :=
  ∃ before host after, hosts = before ++ host :: after ∧
    (∀ h ∈ before, ∀ e', ¬ d.FailsOn answer purpose line h e') ∧
    d.FailsOn answer purpose line host e

/-- The calls are those of the line on every host of the group, each host called once for each of
its places. -/
def FullRound (d : Deployment) (answer : Answering) (hosts : List Text) (line : Text)
    (calls : List Call) : Prop :=
  ∃ expanded : Text → Text, (∀ host ∈ hosts, d.hostLine host line = .ok (expanded host)) ∧
    calls.Perm (hosts.map fun host => ⟨host, expanded host, answer host (expanded host)⟩)

variable {d : Deployment} {answer : Answering} {hosts : List Text} {purpose : Purpose}

/-- The errors on a host are the ways in which a line fails there. -/
theorem hostResult_eq_error_iff {line host : Text} {e : TaskError} :
    d.hostResult answer purpose line host = .error e ↔ d.FailsOn answer purpose line host e := by
  constructor
  · intro h
    unfold hostResult at h
    cases hl : d.hostLine host line with
    | error cause => rw [hl] at h; cases h; exact .expansion hl
    | ok text =>
      simp only [hl] at h
      cases hs : answer host text with
      | error f => rw [hs] at h; cases h; exact .shell hl hs
      | ok r =>
        simp only [hs] at h
        split at h
        · cases h
        · next hr =>
          cases purpose with
          | check => cases h
          | work => cases h; exact .exit rfl hl hs (by simpa [Reply.success] using hr)
  · rintro (h | ⟨h, hs⟩ | ⟨rfl, h, hs, hr⟩)
    · rw [hostResult, h]
    · simp only [hostResult, h, hs]
    · simp [hostResult, h, hs, Reply.success, hr]

/-- A line that comes to a result on a host expands there, and passes if it is one of the body. -/
theorem hostResult_eq_ok {line host : Text} {b : Bool}
    (h : d.hostResult answer purpose line host = .ok b) :
    (∃ text, d.hostLine host line = .ok text) ∧ (b = true ↔ d.PassesOn answer line host) ∧
      (purpose = .work → b = true) := by
  unfold hostResult at h
  cases hl : d.hostLine host line with
  | error cause => rw [hl] at h; cases h
  | ok text =>
    simp only [hl] at h
    cases hs : answer host text with
    | error f => rw [hs] at h; cases h
    | ok r =>
      simp only [hs] at h
      refine ⟨⟨text, rfl⟩, ?_⟩
      have hp : d.PassesOn answer line host ↔ r.exitCode = 0 := by
        simp [PassesOn, hl, hs]
      rw [hp]
      split at h
      · next hr => cases h; exact ⟨by simpa [Reply.success] using hr, fun _ => rfl⟩
      · next hr =>
        cases purpose with
        | check => cases h; exact ⟨by simpa [Reply.success] using hr, nofun⟩
        | work => cases h

/-! ### What a line does on a group -/

/-- The verdict is the first error. -/
theorem verdict_eq_error {e : TaskError} :
    ∀ {rs : List (Except TaskError Bool)}, verdict rs = .error e →
    ∃ before after, rs = before ++ .error e :: after ∧ ∀ r ∈ before, ∃ b, r = .ok b
  | .error e' :: rs, h => by
    cases h
    exact ⟨[], rs, rfl, nofun⟩
  | .ok b :: rs, h => by
    rw [verdict] at h
    cases hv : verdict rs with
    | ok b' => rw [hv] at h; cases h
    | error e' =>
      rw [hv] at h
      cases h
      obtain ⟨before, after, rfl, hb⟩ := verdict_eq_error hv
      refine ⟨.ok b :: before, after, rfl, fun r hr => ?_⟩
      rcases List.mem_cons.mp hr with rfl | hr
      · exact ⟨b, rfl⟩
      · exact hb r hr

/-- Without an error the verdict is whether all passed. -/
theorem verdict_eq_ok : ∀ {rs : List (Except TaskError Bool)} {b : Bool}, verdict rs = .ok b →
    (∀ r ∈ rs, ∃ b', r = .ok b') ∧ (b = true ↔ ∀ r ∈ rs, r = .ok true)
  | [], b, h => by
    cases h
    simp
  | .ok b₁ :: rs, b, h => by
    rw [verdict] at h
    cases hv : verdict rs with
    | error e => rw [hv] at h; cases h
    | ok b₂ =>
      rw [hv] at h
      cases h
      obtain ⟨h₁, h₂⟩ := verdict_eq_ok hv
      refine ⟨by simpa using h₁, ?_⟩
      simp [Bool.and_eq_true, h₂]

/-- A line that fails on a group is blamed on the first host that fails on it. -/
theorem roundResult_eq_error {line : Text} {e : TaskError}
    (h : d.roundResult answer purpose hosts line = .error e) :
    d.Blames answer purpose hosts line e := by
  obtain ⟨before, after, hm, hb⟩ := verdict_eq_error h
  obtain ⟨hosts₁, hosts₂, rfl, h₁, h₂⟩ := List.map_eq_append_iff.mp hm
  obtain ⟨host, hosts₃, rfl, hf, -⟩ := List.map_eq_cons_iff.mp h₂
  refine ⟨hosts₁, host, hosts₃, rfl, fun h' hh' e' he' => ?_, hostResult_eq_error_iff.mp hf⟩
  obtain ⟨b, hb⟩ := hb _ (h₁ ▸ List.mem_map_of_mem hh')
  rw [hostResult_eq_error_iff.mpr he'] at hb
  cases hb

/-- A line that does not fail expands on every host of the group. -/
theorem roundResult_eq_ok {line : Text} {b : Bool}
    (h : d.roundResult answer purpose hosts line = .ok b) :
    (∀ host ∈ hosts, ∃ text, d.hostLine host line = .ok text) ∧
      (b = true ↔ ∀ host ∈ hosts, d.PassesOn answer line host) ∧ (purpose = .work → b = true) := by
  obtain ⟨hall, hb⟩ := verdict_eq_ok h
  have hok : ∀ host ∈ hosts, ∃ b', d.hostResult answer purpose line host = .ok b' := fun host hh =>
    hall _ (List.mem_map_of_mem hh)
  refine ⟨fun host hh => ?_, hb.trans ?_, fun hp => hb.mpr ?_⟩
  · obtain ⟨b', hb'⟩ := hok host hh
    exact (hostResult_eq_ok hb').1
  · rw [List.forall_mem_map]
    refine forall₂_congr fun host hh => ?_
    obtain ⟨b', hb'⟩ := hok host hh
    rw [← (hostResult_eq_ok hb').2.1, hb', Except.ok.injEq]
  · rw [List.forall_mem_map]
    intro host hh
    obtain ⟨b', hb'⟩ := hok host hh
    rw [hb', (hostResult_eq_ok hb').2.2 hp]

/-- If a line expands on every host, the calls it makes are a full round. -/
theorem fullRound_of_perm {line : Text} {calls : List Call}
    (h : ∀ host ∈ hosts, ∃ text, d.hostLine host line = .ok text)
    (hp : calls.Perm (d.roundCalls answer hosts line)) : d.FullRound answer hosts line calls := by
  refine ⟨fun host => (d.hostLine host line).toOption.getD [], fun host hh => ?_,
    hp.trans (.of_eq ?_)⟩
  · obtain ⟨text, ht⟩ := h host hh
    simp [ht, Except.toOption]
  · rw [roundCalls, ← List.filterMap_eq_map]
    refine List.filterMap_congr fun host hh => ?_
    obtain ⟨text, ht⟩ := h host hh
    simp [hostCall, ht, Except.toOption]

/-! ### Lines one after another -/

theorem roundsCourse_cons_of_ok {line : Text} {lines : List Text} {b : Bool}
    (h : d.roundResult answer purpose hosts line = .ok b) :
    d.roundsCourse answer purpose hosts (line :: lines) =
      ⟨line :: (d.roundsCourse answer purpose hosts lines).lines,
        ((d.roundsCourse answer purpose hosts lines).map (b && ·)).result⟩ := by
  rw [roundsCourse, h]
  rfl

theorem roundsCourse_cons_of_error {line : Text} {lines : List Text} {e : TaskError}
    (h : d.roundResult answer purpose hosts line = .error e) :
    d.roundsCourse answer purpose hosts (line :: lines) = ⟨[line], .error e⟩ := by
  rw [roundsCourse, h]
  rfl

/-- Without a failure all lines are dispatched. -/
theorem roundsCourse_eq_ok : ∀ {lines : List Text} {b : Bool},
    (d.roundsCourse answer purpose hosts lines).result = .ok b →
    (d.roundsCourse answer purpose hosts lines).lines = lines ∧
      (∀ line ∈ lines, ∃ b', d.roundResult answer purpose hosts line = .ok b') ∧
      (b = true ↔ ∀ line ∈ lines, ∀ host ∈ hosts, d.PassesOn answer line host)
  | [], b, h => by
    cases h
    exact ⟨rfl, nofun, by simp⟩
  | line :: lines, b, h => by
    cases hr : d.roundResult answer purpose hosts line with
    | error e => rw [roundsCourse_cons_of_error hr] at h; cases h
    | ok b₁ =>
      rw [roundsCourse_cons_of_ok hr] at h ⊢
      obtain ⟨b₂, hb₂, rfl⟩ := Course.map_result_eq_ok h
      obtain ⟨hl, hall, hb⟩ := roundsCourse_eq_ok hb₂
      refine ⟨congrArg _ hl, ?_, ?_⟩
      · simpa [hr] using hall
      · simp [(roundResult_eq_ok hr).2.1, hb]

/-- A failure is that of one of the lines, and the lines up to it are dispatched. -/
theorem roundsCourse_eq_error : ∀ {lines : List Text} {e : TaskError},
    (d.roundsCourse answer purpose hosts lines).result = .error e →
    ∃ before line after, lines = before ++ line :: after ∧
      (d.roundsCourse answer purpose hosts lines).lines = before ++ [line] ∧
      (∀ l ∈ before, ∃ b, d.roundResult answer purpose hosts l = .ok b) ∧
      d.roundResult answer purpose hosts line = .error e
  | line :: lines, e, h => by
    cases hr : d.roundResult answer purpose hosts line with
    | error e₁ =>
      rw [roundsCourse_cons_of_error hr] at h ⊢
      cases h
      exact ⟨[], line, lines, rfl, rfl, nofun, hr⟩
    | ok b =>
      rw [roundsCourse_cons_of_ok hr] at h ⊢
      obtain ⟨before, line', after, rfl, hl, hb, he⟩ :=
        roundsCourse_eq_error (Course.map_result_eq_error h)
      refine ⟨line :: before, line', after, rfl, congrArg _ hl, ?_, he⟩
      simpa [hr] using hb

/-! ### Guards -/

/-- The lines of the command that a guard names. -/
def linesOf (d : Deployment) (guard : Text) : List Text :=
  ((d.upfile.get? guard).map (·.lines)).getD []

/-- All lines of all guards, in the order in which they are declared. -/
def guardLines (d : Deployment) : List Text := d.command.guards.flatMap d.linesOf

/-- Without a failure all lines of all guards are dispatched, and the guards pass together. -/
theorem guardsCourse_eq_ok : ∀ {guards : List Text} {b : Bool},
    (d.guardsCourse answer hosts guards).result = .ok b →
    (∀ guard ∈ guards, ∃ c, d.upfile.get? guard = some c) ∧
      (d.guardsCourse answer hosts guards).lines = guards.flatMap d.linesOf ∧
      (∀ line ∈ guards.flatMap d.linesOf, ∃ b', d.roundResult answer .check hosts line = .ok b') ∧
      (b = true ↔ ∀ line ∈ guards.flatMap d.linesOf, ∀ host ∈ hosts, d.PassesOn answer line host)
  | [], b, h => by
    cases h
    exact ⟨nofun, rfl, nofun, by simp⟩
  | guard :: guards, b, h => by
    rw [guardsCourse] at h ⊢
    cases hg : d.upfile.get? guard with
    | none => rw [hg] at h; cases h
    | some c =>
      have hc : d.linesOf guard = c.lines := by simp [linesOf, hg]
      simp only [hg] at h ⊢
      cases hr : (d.roundsCourse answer .check hosts c.lines).result with
      | error e => rw [Course.andThen_of_error hr] at h; cases h
      | ok b₁ =>
        rw [Course.andThen_of_ok hr] at h ⊢
        obtain ⟨b₂, hb₂, rfl⟩ := Course.map_result_eq_ok h
        obtain ⟨hl₁, hall₁, hp₁⟩ := roundsCourse_eq_ok hr
        obtain ⟨hd, hl₂, hall₂, hp₂⟩ := guardsCourse_eq_ok hb₂
        refine ⟨by simpa [hg] using hd, ?_, ?_, ?_⟩
        · rw [hl₁, List.flatMap_cons, hc, ← hl₂]
          rfl
        · rw [List.flatMap_cons, hc]
          exact List.forall_mem_append.mpr ⟨hall₁, hall₂⟩
        · rw [List.flatMap_cons, hc, List.forall_mem_append, Bool.and_eq_true, hp₁, hp₂]

/-- A failure of the guards is that of one of their lines, or a guard is no command. -/
theorem guardsCourse_eq_error : ∀ {guards : List Text} {e : TaskError},
    (d.guardsCourse answer hosts guards).result = .error e →
    (∃ before line after, guards.flatMap d.linesOf = before ++ line :: after ∧
      (d.guardsCourse answer hosts guards).lines = before ++ [line] ∧
      (∀ l ∈ before, ∃ b, d.roundResult answer .check hosts l = .ok b) ∧
      d.roundResult answer .check hosts line = .error e) ∨ ∃ guard, e = .undefinedGuard guard
  | guard :: guards, e, h => by
    rw [guardsCourse] at h ⊢
    cases hg : d.upfile.get? guard with
    | none =>
      rw [hg] at h
      cases h
      exact .inr ⟨guard, rfl⟩
    | some c =>
      have hc : d.linesOf guard = c.lines := by simp [linesOf, hg]
      simp only [hg, List.flatMap_cons, hc] at h ⊢
      cases hr : (d.roundsCourse answer .check hosts c.lines).result with
      | error e₁ =>
        rw [Course.andThen_of_error hr] at h ⊢
        cases h
        obtain ⟨before, line, after, he, hl, hb, hf⟩ := roundsCourse_eq_error hr
        exact .inl ⟨before, line, after ++ guards.flatMap d.linesOf, by simp [he], hl, hb, hf⟩
      | ok b =>
        rw [Course.andThen_of_ok hr] at h ⊢
        obtain ⟨hl₁, hall₁, -⟩ := roundsCourse_eq_ok hr
        refine (guardsCourse_eq_error (Course.map_result_eq_error h)).imp_left ?_
        rintro ⟨before, line, after, he, hl, hb, hf⟩
        refine ⟨c.lines ++ before, line, after, by simp [he], ?_,
          List.forall_mem_append.mpr ⟨hall₁, hb⟩, hf⟩
        simp [Course.map, hl₁, hl]

/-! ### Body -/

/-- The lines that lines of the body stand for: each is expanded without the host, and the text it
becomes is cut into lines, of which the blank ones are dropped. -/
def expandBody (d : Deployment) : List Text → Except PossibleCycle (List Text)
  | [] => .ok []
  | line :: lines => do
    return Text.inkedLines (← substitute d.vars d.scope line) ++ (← expandBody d lines)

theorem bodyLines_eq (d : Deployment) (line : Text) :
    d.bodyLines line = (substitute d.vars d.scope line).map Text.inkedLines := rfl

theorem exists_of_bodyLines_eq_ok {line : Text} {lines : List Text} (h : d.bodyLines line = .ok lines) :
    ∃ t, substitute d.vars d.scope line = .ok t ∧ Text.inkedLines t = lines := by
  rw [bodyLines_eq] at h
  cases hs : substitute d.vars d.scope line with
  | error e => rw [hs] at h; cases h
  | ok t =>
    rw [hs] at h
    exact ⟨t, rfl, Except.ok.inj h⟩

theorem expandBody_cons {line : Text} {lines expanded rest : List Text}
    (h : d.bodyLines line = .ok expanded) (hr : d.expandBody lines = .ok rest) :
    d.expandBody (line :: lines) = .ok (expanded ++ rest) := by
  obtain ⟨t, hs, rfl⟩ := exists_of_bodyLines_eq_ok h
  rw [expandBody, hs, hr]
  rfl

/-- Without a failure the whole body is expanded and dispatched. -/
theorem bodyCourse_eq_ok : ∀ {lines : List Text},
    (d.bodyCourse answer hosts lines).result = .ok () →
    d.expandBody lines = .ok (d.bodyCourse answer hosts lines).lines ∧
      ∀ line ∈ (d.bodyCourse answer hosts lines).lines,
        d.roundResult answer .work hosts line = .ok true
  | [], _ => ⟨rfl, nofun⟩
  | line :: lines, h => by
    rw [bodyCourse] at h ⊢
    cases hb : d.bodyLines line with
    | error cause => rw [hb] at h; cases h
    | ok expanded =>
      simp only [hb] at h ⊢
      cases hr : (d.roundsCourse answer .work hosts expanded).result with
      | error e => rw [Course.andThen_of_error hr] at h; cases h
      | ok b =>
        rw [Course.andThen_of_ok hr] at h ⊢
        obtain ⟨hl, hall, -⟩ := roundsCourse_eq_ok hr
        obtain ⟨he, hrest⟩ := bodyCourse_eq_ok h
        refine ⟨hl.symm ▸ expandBody_cons hb he, List.forall_mem_append.mpr ⟨fun l hm => ?_, hrest⟩⟩
        obtain ⟨b', hb'⟩ := hall l (hl ▸ hm)
        rw [hb', (roundResult_eq_ok hb').2.2 rfl]

/-- A failure of the body is that of one of its expanded lines, or a line of it does not expand. -/
theorem bodyCourse_eq_error : ∀ {lines : List Text} {e : TaskError},
    (d.bodyCourse answer hosts lines).result = .error e →
    (∃ done line rest doneLines before sub after, lines = done ++ line :: rest ∧
      d.expandBody done = .ok doneLines ∧
      d.bodyLines line = .ok (before ++ sub :: after) ∧
      (d.bodyCourse answer hosts lines).lines = doneLines ++ before ++ [sub] ∧
      (∀ l ∈ doneLines ++ before, ∃ b, d.roundResult answer .work hosts l = .ok b) ∧
      d.roundResult answer .work hosts sub = .error e) ∨ ∃ line cause, e = .expansion line cause
  | line :: lines, e, h => by
    rw [bodyCourse] at h ⊢
    cases hb : d.bodyLines line with
    | error cause =>
      rw [hb] at h
      cases h
      exact .inr ⟨line, cause, rfl⟩
    | ok expanded =>
      simp only [hb] at h ⊢
      cases hr : (d.roundsCourse answer .work hosts expanded).result with
      | error e₁ =>
        rw [Course.andThen_of_error hr] at h ⊢
        cases h
        obtain ⟨before, sub, after, rfl, hl, hall, hf⟩ := roundsCourse_eq_error hr
        exact .inl ⟨[], line, lines, [], before, sub, after, rfl, rfl, hb, hl, hall, hf⟩
      | ok b =>
        rw [Course.andThen_of_ok hr] at h ⊢
        obtain ⟨hl₁, hall₁, -⟩ := roundsCourse_eq_ok hr
        refine (bodyCourse_eq_error h).imp_left ?_
        rintro ⟨done, line', rest, doneLines, before, sub, after, rfl, hd, hb', hl, hall, hf⟩
        refine ⟨line :: done, line', rest, expanded ++ doneLines, before, sub, after, rfl,
          expandBody_cons hb hd, hb', by simp [hl₁, hl], ?_, hf⟩
        rw [List.append_assoc]
        exact List.forall_mem_append.mpr ⟨hall₁, hall⟩

/-! ### The whole group -/

/-- Without a failure the lines of the guards are dispatched first, and then those of the body if
the group is not satisfied. -/
theorem groupCourse_eq_ok {outcome : Outcome}
    (h : (d.groupCourse answer hosts).result = .ok outcome) :
    ∃ lines, (∀ guard ∈ d.command.guards, ∃ c, d.upfile.get? guard = some c) ∧
      (d.groupCourse answer hosts).lines = d.guardLines ++ lines ∧
      (∀ line ∈ d.guardLines, ∃ b, d.roundResult answer .check hosts line = .ok b) ∧
      (outcome = .satisfied ↔
        d.command.guards ≠ [] ∧
          ∀ line ∈ d.guardLines, ∀ host ∈ hosts, d.PassesOn answer line host) ∧
      (outcome = .satisfied → lines = []) ∧
      (outcome = .deployed → d.expandBody d.command.lines = .ok lines ∧
        ∀ line ∈ lines, d.roundResult answer .work hosts line = .ok true) := by
  unfold groupCourse at h ⊢
  cases hg : (d.guardsCourse answer hosts d.command.guards).result with
  | error e => rw [Course.andThen_of_error hg] at h; cases h
  | ok passed =>
    rw [Course.andThen_of_ok hg] at h ⊢
    obtain ⟨hd, hl, hall, hp⟩ := guardsCourse_eq_ok hg
    have hpass : (!d.command.guards.isEmpty && passed) = true ↔
        d.command.guards ≠ [] ∧
          ∀ line ∈ d.guardLines, ∀ host ∈ hosts, d.PassesOn answer line host := by
      rw [Bool.and_eq_true, hp]
      simp [guardLines]
    cases hs : !d.command.guards.isEmpty && passed with
    | true =>
      simp only [hs, ↓reduceIte] at h ⊢
      cases h
      exact ⟨[], hd, by simp [hl, guardLines, Course.ofResult], hall, by simpa using hpass.mp hs,
        fun _ => rfl, fun h => by cases h⟩
    | false =>
      simp only [hs, Bool.false_eq_true, ↓reduceIte] at h ⊢
      obtain ⟨⟨⟩, hb, rfl⟩ := Course.map_result_eq_ok h
      refine ⟨(d.bodyCourse answer hosts d.command.lines).lines, hd,
        by simp [hl, guardLines, Course.map], hall, ?_, (fun h => by cases h),
        fun _ => bodyCourse_eq_ok hb⟩
      rw [← hpass, hs]
      simp

/-- The lines that are dispatched to a group before one of them, if all of these succeed: lines of
guards before a line of a guard, and all of them with lines of the body before a line of the
body. -/
inductive Reaches (d : Deployment) : Purpose → List Text → Text → Prop
  | check {before after : List Text} {line : Text} (h : d.guardLines = before ++ line :: after) :
    Reaches d .check before line
  | work {done rest doneLines before after : List Text} {exec line expanded : Text}
    (h : d.command.lines = done ++ exec :: rest) (hd : d.expandBody done = .ok doneLines)
    (he : substitute d.vars d.scope exec = .ok expanded)
    (hl : Text.inkedLines expanded = before ++ line :: after) :
    Reaches d .work (d.guardLines ++ doneLines ++ before) line

/-- A failure of a group is that of a line that it reached, unless a guard is no command or a line
of the body does not expand. -/
theorem groupCourse_eq_error {e : TaskError} (h : (d.groupCourse answer hosts).result = .error e) :
    (∃ purpose earlier line, d.Reaches purpose earlier line ∧
      (d.groupCourse answer hosts).lines = earlier ++ [line] ∧
      (∀ l ∈ earlier, ∃ purpose' b, d.roundResult answer purpose' hosts l = .ok b) ∧
      d.roundResult answer purpose hosts line = .error e) ∨
    (∃ guard, e = .undefinedGuard guard) ∨ ∃ line cause, e = .expansion line cause := by
  unfold groupCourse at h ⊢
  cases hg : (d.guardsCourse answer hosts d.command.guards).result with
  | error e₁ =>
    rw [Course.andThen_of_error hg] at h ⊢
    cases h
    rcases guardsCourse_eq_error hg with ⟨before, line, after, he, hl, hall, hf⟩ | hu
    · exact .inl ⟨.check, before, line, .check he, hl, fun l hm => ⟨.check, hall l hm⟩, hf⟩
    · exact .inr (.inl hu)
  | ok passed =>
    rw [Course.andThen_of_ok hg] at h ⊢
    obtain ⟨-, hl, hall, -⟩ := guardsCourse_eq_ok hg
    cases hs : !d.command.guards.isEmpty && passed with
    | true =>
      simp only [hs, ↓reduceIte] at h
      cases h
    | false =>
      simp only [hs, Bool.false_eq_true, ↓reduceIte] at h ⊢
      rcases bodyCourse_eq_error (Course.map_result_eq_error h) with
        ⟨done, exec, rest, doneLines, before, sub, after, hc, hd, he, hb, hall', hf⟩ | hx
      · obtain ⟨expanded, hs, hlines⟩ := exists_of_bodyLines_eq_ok he
        refine .inl ⟨.work, d.guardLines ++ doneLines ++ before, sub, .work hc hd hs hlines, ?_, ?_,
          hf⟩
        · simp [Course.map, hl, hb, guardLines]
        · rw [List.append_assoc]
          exact List.forall_mem_append.mpr
            ⟨fun l hm => ⟨.check, hall l hm⟩, fun l hm => ⟨.work, hall' l hm⟩⟩
      · exact .inr (.inr hx)

end Deployment

end Rollout
