import Rollout.Proofs.Run.Course

/-!
What tasks record, whatever the shell answers. Events are only ever added, and those that running a
group adds are calls and notices of its own hosts (`runGroup_records`): it starts no group and asks
nobody. The calls of a whole run are those of its groups (`runTags_records`).
-/

namespace Rollout

/-! ### What a task records -/

/-- Whatever comes of the task, it adds such events to those that happened before, and no others. -/
def Task.Records {σ α : Type} (P : Event → Prop) (x : Task σ α) : Prop :=
  ∀ p, ∃ events, (x p).2.events = p.events ++ events ∧ ∀ e ∈ events, P e

namespace Task

variable {σ α β : Type} {P : Event → Prop}

theorem records_pure (v : α) : Records P (pure v : Task σ α) := fun _ =>
  ⟨[], (List.append_nil _).symm, nofun⟩

theorem records_fail (e : TaskError) : Records P (fail e : Task σ α) := fun _ =>
  ⟨[], (List.append_nil _).symm, nofun⟩

theorem records_ofExcept (r : Except TaskError α) : Records P (ofExcept r : Task σ α) := by
  cases r with
  | ok v => exact records_pure v
  | error e => exact records_fail e

theorem records_history : Records P (history : Task σ (List Event)) := fun _ =>
  ⟨[], (List.append_nil _).symm, nofun⟩

theorem records_record {e : Event} (h : P e) : Records P (record e : Task σ Unit) := fun p =>
  ⟨[e], rfl, by simpa using h⟩

theorem records_consult {act : σ → α × σ} {event : α → Event} (h : ∀ v, P (event v)) :
    Records P (consult act event) := fun p =>
  ⟨[event (act p.agents).1], rfl, by simpa using h _⟩

/-- One task after another adds the events of both. -/
theorem records_bind {x : Task σ α} {f : α → Task σ β} (hx : Records P x)
    (hf : ∀ v, Records P (f v)) : Records P (x >>= f) := by
  intro p
  obtain ⟨events, he, hP⟩ := hx p
  rcases hr : x p with ⟨e | v, p'⟩
  · rw [hr] at he
    rw [bind_apply_error hr]
    exact ⟨events, he, hP⟩
  · rw [hr] at he
    obtain ⟨events', he', hP'⟩ := hf v p'
    rw [bind_apply_ok hr]
    refine ⟨events ++ events', ?_, List.forall_mem_append.mpr ⟨hP, hP'⟩⟩
    rw [he', he, List.append_assoc]

theorem records_attempt {x : Task σ α} (hx : Records P x) : Records P (attempt x) := hx

theorem records_attemptAll {f : α → Task σ β} : ∀ {vs : List α}, (∀ v ∈ vs, Records P (f v)) →
    Records P (attemptAll f vs)
  | [], _ => records_pure _
  | v :: vs, h => by
    obtain ⟨hv, hvs⟩ := List.forall_mem_cons.mp h
    exact records_bind (records_attempt hv) fun _ =>
      records_bind (records_attemptAll hvs) fun _ => records_pure _

end Task

/-- An event of running a group: a call or a notice of one of its hosts. -/
def Event.OfGroup (hosts : List Text) : Event → Prop
  | .called host _ _ => host ∈ hosts
  | .guardFailed host _ => host ∈ hosts
  | .upToDate hosts' => hosts' = hosts
  | .groupStarted .. | .asked .. | .stopped .. => False

namespace Event

variable {hosts : List Text} {events : List Event}

/-- A group starts no group. -/
theorem starts_eq_nil (h : ∀ e ∈ events, OfGroup hosts e) : starts events = [] := by
  refine List.filterMap_eq_nil_iff.mpr fun e he => ?_
  cases e with
  | groupStarted => exact (h _ he).elim
  | _ => rfl

/-- A group asks nobody. -/
theorem questions_eq_nil (h : ∀ e ∈ events, OfGroup hosts e) : questions events = [] := by
  refine List.filterMap_eq_nil_iff.mpr fun e he => ?_
  cases e with
  | asked => exact (h _ he).elim
  | _ => rfl

end Event

namespace Deployment

variable {σ : Type} (d : Deployment) (a : Agents σ) {hosts : List Text}

theorem runOnHost_records (purpose : Purpose) (line : Text) {host : Text} (h : host ∈ hosts) :
    Task.Records (Event.OfGroup hosts) (d.runOnHost a purpose line host) := by
  unfold runOnHost
  cases d.hostLine host line with
  | error cause => exact Task.records_fail _
  | ok text =>
    refine Task.records_bind (Task.records_consult fun _ => h) fun reply => ?_
    cases reply with
    | error f => exact Task.records_fail _
    | ok r =>
      dsimp only
      split
      · exact Task.records_pure _
      · cases purpose with
        | check => exact Task.records_bind (Task.records_record h) fun _ => Task.records_pure _
        | work => exact Task.records_fail _

/-- Only hosts of the group have a turn. -/
theorem dispatch_records (purpose : Purpose) (line : Text) :
    Task.Records (Event.OfGroup hosts) (d.dispatch a purpose hosts line) := by
  refine Task.records_bind Task.records_history fun events => ?_
  refine Task.records_bind (Task.records_attemptAll fun turn ht => ?_) fun results =>
    Task.records_ofExcept _
  obtain ⟨i, -, hi⟩ := List.mem_filterMap.mp ht
  obtain ⟨host, hh, rfl⟩ := Option.map_eq_some_iff.mp hi
  exact runOnHost_records d a purpose line (List.mem_of_getElem? hh)

theorem runChecks_records : ∀ lines : List Text,
    Task.Records (Event.OfGroup hosts) (d.runChecks a hosts lines)
  | [] => Task.records_pure _
  | line :: lines =>
    Task.records_bind (dispatch_records d a .check line) fun _ =>
      Task.records_bind (runChecks_records lines) fun _ => Task.records_pure _

theorem runGuards_records : ∀ guards : List Text,
    Task.Records (Event.OfGroup hosts) (d.runGuards a hosts guards)
  | [] => Task.records_pure _
  | guard :: guards => by
    rw [runGuards]
    cases d.upfile.get? guard with
    | none => exact Task.records_fail _
    | some c =>
      exact Task.records_bind (runChecks_records d a c.lines) fun _ =>
        Task.records_bind (runGuards_records guards) fun _ => Task.records_pure _

theorem runLines_records : ∀ lines : List Text,
    Task.Records (Event.OfGroup hosts) (d.runLines a hosts lines)
  | [] => Task.records_pure _
  | line :: lines =>
    Task.records_bind (dispatch_records d a .work line) fun _ => runLines_records lines

theorem runBody_records : ∀ lines : List Text,
    Task.Records (Event.OfGroup hosts) (d.runBody a hosts lines)
  | [] => Task.records_pure _
  | line :: lines => by
    rw [runBody]
    cases d.bodyLines line with
    | error cause => exact Task.records_fail _
    | ok expanded =>
      exact Task.records_bind (runLines_records d a expanded) fun _ => runBody_records lines

/-- A group records calls and notices of its hosts, and starts no group and asks nobody. -/
theorem runGroup_records (hosts : List Text) :
    Task.Records (Event.OfGroup hosts) (d.runGroup a hosts) := by
  refine Task.records_bind (runGuards_records d a _) fun passed => ?_
  split
  · exact Task.records_bind (Task.records_record rfl) fun _ => Task.records_pure _
  · exact Task.records_bind (runBody_records d a _) fun _ => Task.records_pure _

/-! ### Tags -/

variable {P : Event → Prop}

theorem mayGoOn_records (h : ∀ e : Event, e.call? = none → P e) (tag : Text) (group : Nat) :
    Task.Records P (mayGoOn a tag group) := by
  unfold mayGoOn
  cases a.operator with
  | none => exact Task.records_pure _
  | some ask =>
    dsimp only
    split
    · exact Task.records_pure _
    · refine Task.records_bind (Task.records_consult fun _ => h _ rfl) fun answer => ?_
      cases answer.verdict with
      | ok b => exact Task.records_pure _
      | error f => exact Task.records_fail _

/-- What holds of all events but calls, and of all that its groups record, holds of all that a tag
records. -/
theorem runGroups_records (h : ∀ e : Event, e.call? = none → P e) (tag : Text) (total : Nat) :
    ∀ (groups : List (List Text)) (group : Nat),
      (∀ hosts ∈ groups, Task.Records P (d.runGroup a hosts)) →
      Task.Records P (d.runGroups a tag total group groups)
  | [], _, _ => Task.records_pure _
  | hosts :: rest, group, hg => by
    obtain ⟨hhosts, hrest⟩ := List.forall_mem_cons.mp hg
    refine Task.records_bind (mayGoOn_records a h tag group) fun goOn => ?_
    cases goOn with
    | true =>
      exact Task.records_bind (Task.records_record (h _ rfl)) fun _ =>
        Task.records_bind hhosts fun _ =>
          Task.records_bind (runGroups_records h tag total rest (group + 1) hrest) fun _ =>
            Task.records_pure _
    | false => exact Task.records_bind (Task.records_record (h _ rfl)) fun _ => Task.records_pure _

/-- The same of all that a run records. -/
theorem runTags_records (h : ∀ e : Event, e.call? = none → P e) :
    ∀ (entries : List (Text × List (List Text))) (p : Progress σ),
      (∀ entry ∈ entries, ∀ hosts ∈ entry.2, Task.Records P (d.runGroup a hosts)) →
      ∃ events, (d.runTags a entries p).2.events = p.events ++ events ∧ ∀ e ∈ events, P e
  | [], _, _ => ⟨[], (List.append_nil _).symm, nofun⟩
  | (tag, groups) :: entries, p, hg => by
    obtain ⟨hgroups, hrest⟩ := List.forall_mem_cons.mp hg
    obtain ⟨events, he, hP⟩ := runGroups_records d a h tag groups.length groups 0 hgroups p
    obtain ⟨events', he', hP'⟩ := runTags_records h entries (d.runTag a tag groups p).2 hrest
    refine ⟨events ++ events', ?_, List.forall_mem_append.mpr ⟨hP, hP'⟩⟩
    rw [← List.append_assoc, ← he]
    exact he'

/-- A group that does not fail reports its hosts in their order, with one outcome. -/
theorem runGroup_eq_ok {d : Deployment} {a : Agents σ} {p p' : Progress σ}
    {results : List HostResult} (h : d.runGroup a hosts p = (.ok results, p')) :
    ∃ outcome, results = hosts.map (⟨·, outcome⟩) := by
  unfold runGroup at h
  rcases hg : d.runGuards a hosts d.command.guards p with ⟨e | passed, q⟩
  · rw [Task.bind_apply_error hg] at h
    cases h
  rw [Task.bind_apply_ok hg] at h
  split at h
  · cases h
    exact ⟨.satisfied, rfl⟩
  · rcases hb : d.runBody a hosts d.command.lines q with ⟨e | u, q'⟩
    · rw [Task.bind_apply_error hb] at h
      cases h
    · rw [Task.bind_apply_ok hb] at h
      cases h
      exact ⟨.deployed, rfl⟩

end Deployment

end Rollout
