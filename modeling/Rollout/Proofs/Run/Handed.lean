import Rollout.Proofs.Run.Course

/-!
The lines that are handed to the shell, whatever it answers. A line that is dispatched to a group is
handed to the shell once for each place of a host, as it expands there (`dispatch_handsAlong`);
lines come one after another up to one that fails (`runLines_handsAlong`).
-/

namespace Rollout

/-- The hosts and lines that the shell was called with, in order. -/
def Event.handed (events : List Event) : List (Text × Text) :=
  (calls events).map fun c => (c.host, c.line)

/-- The lines that the shell was called with on behalf of a host, in order. -/
def Event.handedTo (host : Text) (events : List Event) : List Text :=
  ((handed events).filter (·.1 = host)).map (·.2)

@[simp] theorem Event.handed_append (es fs : List Event) :
    handed (es ++ fs) = handed es ++ handed fs := by
  rw [handed, calls_append, List.map_append, handed, handed]

namespace Deployment

/-- What is handed to the shell for a line on a host: nothing if the line does not expand there. -/
def hostHanded (d : Deployment) (line host : Text) : Option (Text × Text) :=
  (d.hostLine host line).toOption.map (host, ·)

/-- What is handed to the shell for a line on a group, in the order of the group. -/
def roundHanded (d : Deployment) (hosts : List Text) (line : Text) : List (Text × Text) :=
  hosts.filterMap (d.hostHanded line)

/-- What was handed to the shell is what the lines make, one line after another and each on all
hosts in any order. -/
def HandsOut (d : Deployment) (hosts lines : List Text) (events : List Event) : Prop :=
  ∃ rounds, Event.handed events = rounds.flatten ∧
    List.Forall₂ (fun line round => round.Perm (d.roundHanded hosts line)) lines rounds

variable {σ : Type} {d : Deployment} {hosts lines lines' : List Text} {host : Text}
  {events events' : List Event}

theorem handsOut_nil : d.HandsOut hosts [] [] := ⟨[], rfl, .nil⟩

theorem HandsOut.append (h : d.HandsOut hosts lines events)
    (h' : d.HandsOut hosts lines' events') :
    d.HandsOut hosts (lines ++ lines') (events ++ events') := by
  obtain ⟨rounds, he, hr⟩ := h
  obtain ⟨rounds', he', hr'⟩ := h'
  refine ⟨rounds ++ rounds', ?_, List.rel_append hr hr'⟩
  rw [Event.handed_append, he, he', List.flatten_append]

/-! ### Tasks that hand out lines -/

/-- From wherever it starts, the task hands the lines out one after another as far as it comes, and
all of them if it succeeds. -/
def HandsAlong {α : Type} (d : Deployment) (hosts : List Text) (x : Task σ α) (lines : List Text) :
    Prop :=
  ∀ p, ∃ result s events done, x p = (result, ⟨s, p.events ++ events⟩) ∧
    done <+: lines ∧ ((∃ v, result = .ok v) → done = lines) ∧ d.HandsOut hosts done events

theorem handsAlong_pure {α : Type} (v : α) : d.HandsAlong hosts (pure v : Task σ α) [] := fun p =>
  ⟨.ok v, p.agents, [], [], by simp [Task.pure_apply], List.prefix_rfl, fun _ => rfl, handsOut_nil⟩

theorem handsAlong_fail {α : Type} (e : TaskError) (lines : List Text) :
    d.HandsAlong hosts (Task.fail e : Task σ α) lines := fun p =>
  ⟨.error e, p.agents, [], [], by simp [Task.fail], List.nil_prefix, nofun, handsOut_nil⟩

/-- One task after another hands out the lines of both. -/
theorem handsAlong_bind {α β : Type} {x : Task σ α} {f : α → Task σ β}
    (hx : d.HandsAlong hosts x lines) (hf : ∀ v, d.HandsAlong hosts (f v) lines') :
    d.HandsAlong hosts (x >>= f) (lines ++ lines') := by
  intro p
  obtain ⟨result, s, events, done, hr, hpre, hall, hh⟩ := hx p
  cases result with
  | error e =>
    exact ⟨.error e, s, events, done, Task.bind_apply_error hr f,
      hpre.trans (List.prefix_append ..), nofun, hh⟩
  | ok v =>
    obtain rfl := hall ⟨v, rfl⟩
    obtain ⟨result', s', events', done', hr', hpre', hall', hh'⟩ := hf v ⟨s, p.events ++ events⟩
    refine ⟨result', s', events ++ events', done ++ done', ?_,
      (List.prefix_append_right_inj done).mpr hpre', fun h => congrArg _ (hall' h), hh.append hh'⟩
    rw [Task.bind_apply_ok hr, hr', List.append_assoc]

/-! ### One line -/

/-- On one host, the shell is called with the line as it expands there, and not at all if it does
not expand. -/
theorem runOnHost_handed (a : Agents σ) (purpose : Purpose) (line host : Text) (p : Progress σ) :
    ∃ result s events, d.runOnHost a purpose line host p = (result, ⟨s, p.events ++ events⟩) ∧
      Event.handed events = (d.hostHanded line host).toList := by
  unfold runOnHost hostHanded
  cases d.hostLine host line with
  | error cause => exact ⟨_, p.agents, [], by simp [Task.fail]; rfl, rfl⟩
  | ok text =>
    rcases hr : a.shell host text p.agents with ⟨reply, s⟩
    have hc : Task.consult (a.shell host text) (Event.called host text) p =
        (.ok reply, ⟨s, p.events ++ [.called host text reply]⟩) := by
      rw [Task.consult, hr]
    dsimp only
    rw [Task.bind_apply_ok hc]
    cases reply with
    | error f => exact ⟨_, s, [.called host text (.error f)], rfl, rfl⟩
    | ok r =>
      cases hok : r.success with
      | true => exact ⟨.ok true, s, [.called host text (.ok r)], by simp [hok]; rfl, rfl⟩
      | false =>
        cases purpose with
        | check =>
          refine ⟨.ok false, s, [.called host text (.ok r), .guardFailed host r], ?_, rfl⟩
          simp [hok, Task.bind_apply, Task.record, Task.pure_apply]
        | work =>
          exact ⟨_, s, [.called host text (.ok r)], by simp [hok, Task.fail]; rfl, rfl⟩

/-- Every turn is taken, whatever came of the turns before it. -/
theorem attemptAll_handed (a : Agents σ) (purpose : Purpose) (line : Text) :
    ∀ (turns : List (Nat × Text)) (p : Progress σ), ∃ results s events,
      Task.attemptAll (fun turn => d.runOnHost a purpose line turn.2) turns p =
        (.ok results, ⟨s, p.events ++ events⟩) ∧
      Event.handed events = (turns.map (·.2)).filterMap (d.hostHanded line)
  | [], p => ⟨[], p.agents, [], by simp [Task.attemptAll, Task.pure_apply], rfl⟩
  | turn :: turns, p => by
    obtain ⟨result, s, events, hx, he⟩ := runOnHost_handed (d := d) a purpose line turn.2 p
    obtain ⟨results, s', events', hx', he'⟩ :=
      attemptAll_handed a purpose line turns ⟨s, p.events ++ events⟩
    have ht : Task.attempt (d.runOnHost a purpose line turn.2) p =
        (.ok result, ⟨s, p.events ++ events⟩) := by
      rw [Task.attempt, hx]
    refine ⟨result :: results, s', events ++ events', ?_, ?_⟩
    · rw [Task.attemptAll, Task.bind_apply_ok ht, Task.bind_apply_ok hx', Task.pure_apply,
        List.append_assoc]
    · rw [Event.handed_append, he, he', List.map_cons, List.filterMap_cons]
      cases d.hostHanded line turn.2 <;> rfl

/-- A line that is dispatched is handed to the shell for each host of the group. -/
theorem dispatch_handsAlong (a : Agents σ) (purpose : Purpose) (hosts : List Text) (line : Text) :
    d.HandsAlong hosts (d.dispatch a purpose hosts line) [line] := by
  intro p
  have hperm := a.schedule.perm p.events hosts.length
  obtain ⟨results, s, events, hx, he⟩ := attemptAll_handed (d := d) a purpose line
    ((a.schedule.turns p.events hosts.length).filterMap fun i => hosts[i]?.map (i, ·)) p
  have hh : Task.history p = (.ok p.events, p) := rfl
  have hround : (Event.handed events).Perm (d.roundHanded hosts line) := by
    rw [he]
    exact (turns_perm hperm).filterMap _
  rw [dispatch, Task.bind_apply_ok hh, Task.bind_apply_ok hx]
  cases verdict (inGroupOrder hosts.length
      ((((a.schedule.turns p.events hosts.length).filterMap fun i =>
        hosts[i]?.map (i, ·)).map (·.1)).zip results)) <;>
    exact ⟨_, s, events, [line], rfl, List.prefix_rfl, fun _ => rfl, [Event.handed events],
      by simp, .cons hround .nil⟩

/-- Lines are handed to the shell one after another, all of them unless one fails. -/
theorem runLines_handsAlong (a : Agents σ) (hosts : List Text) : ∀ lines : List Text,
    d.HandsAlong hosts (d.runLines a hosts lines) lines
  | [] => handsAlong_pure ()
  | line :: lines =>
    handsAlong_bind (dispatch_handsAlong a .work hosts line) fun _ =>
      runLines_handsAlong a hosts lines

/-! ### What one host is handed -/

/-- The calls of one line on a host are all the same, one for each place that the host has in the
group. -/
theorem handedTo_roundHanded {line text : Text} (h : d.hostLine host line = .ok text) :
    ∀ hosts : List Text, ((d.roundHanded hosts line).filter (·.1 = host)).map (·.2) =
      List.replicate (hosts.count host) text
  | [] => rfl
  | other :: hosts => by
    have ih := handedTo_roundHanded h hosts
    by_cases ho : other = host
    · subst ho
      simpa [roundHanded, hostHanded, h, Except.toOption, List.replicate_succ] using ih
    · rw [List.count_cons_of_ne ho, ← ih, roundHanded, List.filterMap_cons]
      cases hl : d.hostLine other line with
      | error e => simp [hostHanded, hl, Except.toOption, roundHanded]
      | ok t => simp [hostHanded, hl, Except.toOption, roundHanded, ho]

/-- A host is handed the lines as they expand on it, each once for each of its places. -/
theorem HandsOut.handedTo_eq {expanded : Text → Text} (h : d.HandsOut hosts lines events)
    (hl : ∀ line ∈ lines, d.hostLine host line = .ok (expanded line)) :
    Event.handedTo host events =
      lines.flatMap fun line => List.replicate (hosts.count host) (expanded line) := by
  obtain ⟨rounds, he, hr⟩ := h
  rw [Event.handedTo, he]
  clear he
  induction hr with
  | nil => rfl
  | @cons line round lines rounds hround _ ih =>
    obtain ⟨hline, hlines⟩ := List.forall_mem_cons.mp hl
    have hp : ((round.filter (·.1 = host)).map (·.2)).Perm
        (List.replicate (hosts.count host) (expanded line)) := by
      rw [← handedTo_roundHanded hline hosts]
      exact (hround.filter _).map _
    rw [List.flatten_cons, List.filter_append, List.map_append, ih hlines, List.flatMap_cons,
      List.perm_replicate.mp hp]

end Deployment

end Rollout
