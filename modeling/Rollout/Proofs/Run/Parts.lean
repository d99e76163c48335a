import Rollout.Proofs.Run.Delivery

/-!
Smaller groups never do more. When the groups of a deployment are split into parts and nobody is
asked between them, a run that succeeds on the whole groups succeeds on the parts; a part is
deployed only if its whole group is, and its hosts are called with the same lines, or with those of
the guards alone (`run_parts`).
-/

namespace Rollout

/-- The batches have the same tags, and each group of the one lies in a group of the other with the
same tag. -/
def Batches.Refines (parts whole : Batches) : Prop :=
  parts.keys = whole.keys ∧ ∀ tag groups, parts.get? tag = some groups →
    ∃ groups', whole.get? tag = some groups' ∧ ∀ hosts ∈ groups, ∃ hosts' ∈ groups', hosts ⊆ hosts'

/-- The same hosts in groups of one. -/
def Batches.singles (b : Batches) : Batches := b.map fun _ groups => groups.flatten.map ([·])

theorem Batches.singles_refines (b : Batches) : b.singles.Refines b := by
  refine ⟨Dict.keys_map .., fun tag groups hg => ?_⟩
  rw [singles, Dict.get?_map] at hg
  obtain ⟨groups', hg', rfl⟩ := Option.map_eq_some_iff.mp hg
  refine ⟨groups', hg', fun hosts hm => ?_⟩
  obtain ⟨host, hh, rfl⟩ := List.mem_map.mp hm
  obtain ⟨hosts', hm', hh'⟩ := List.mem_flatten.mp hh
  exact ⟨hosts', hm', fun _ h => List.mem_singleton.mp h ▸ hh'⟩

/-! ### Courses that succeed together -/

namespace Course

/-- If the one course comes to a result, so does the other, and it passes if the one passes. -/
def Implies (c c' : Course Bool) : Prop :=
  ∀ b, c.result = .ok b → ∃ b', c'.result = .ok b' ∧ (b = true → b' = true)

/-- Courses one after another, which pass together. -/
theorem Implies.andThen {c₁ c₁' c₂ c₂' : Course Bool} (h₁ : Implies c₁ c₁') (h₂ : Implies c₂ c₂') :
    Implies (c₁.andThen fun passed => c₂.map (passed && ·))
      (c₁'.andThen fun passed => c₂'.map (passed && ·)) := by
  intro b h
  obtain ⟨b₁, hb₁, hrest⟩ := andThen_result_eq_ok.mp h
  obtain ⟨b₂, hb₂, rfl⟩ := map_result_eq_ok hrest
  obtain ⟨b₁', hb₁', hi₁⟩ := h₁ b₁ hb₁
  obtain ⟨b₂', hb₂', hi₂⟩ := h₂ b₂ hb₂
  refine ⟨b₁' && b₂', andThen_result_eq_ok.mpr ⟨b₁', hb₁', map_result_of_ok hb₂' _⟩, fun hb => ?_⟩
  rw [Bool.and_eq_true] at hb ⊢
  exact ⟨hi₁ hb.1, hi₂ hb.2⟩

end Course

namespace Deployment

variable {d : Deployment} {answer : Answering} {part whole : List Text}

/-! ### Parts of a group succeed -/

/-- A line that does not fail on a group does not fail on a part of it, and passes there if it
passes on all of the group. -/
theorem roundResult_implies (hs : part ⊆ whole) (purpose : Purpose) (line : Text) :
    Course.Implies ⟨[line], d.roundResult answer purpose whole line⟩
      ⟨[line], d.roundResult answer purpose part line⟩ := by
  intro b h
  cases hp : d.roundResult answer purpose part line with
  | ok b' =>
    refine ⟨b', rfl, fun hb => (roundResult_eq_ok hp).2.1.mpr fun host hh => ?_⟩
    exact (roundResult_eq_ok h).2.1.mp hb host (hs hh)
  | error e =>
    -- the host that is blamed stands in the whole group, too
    obtain ⟨before, after, hm, -⟩ := verdict_eq_error hp
    obtain ⟨host, hh, he⟩ :=
      List.mem_map.mp (hm ▸ List.mem_append_right before (List.mem_cons_self ..))
    obtain ⟨b', hb'⟩ := (verdict_eq_ok h).1 _ (List.mem_map_of_mem (hs hh))
    cases he.symm.trans hb'

theorem roundsCourse_implies (hs : part ⊆ whole) (purpose : Purpose) : ∀ lines : List Text,
    Course.Implies (d.roundsCourse answer purpose whole lines)
      (d.roundsCourse answer purpose part lines)
  | [] => fun b h => ⟨b, h, id⟩
  | line :: lines =>
    (roundResult_implies hs purpose line).andThen (roundsCourse_implies hs purpose lines)

theorem guardsCourse_implies (hs : part ⊆ whole) : ∀ guards : List Text,
    Course.Implies (d.guardsCourse answer whole guards) (d.guardsCourse answer part guards)
  | [] => fun b h => ⟨b, h, id⟩
  | guard :: guards => by
    rw [guardsCourse, guardsCourse]
    cases d.upfile.get? guard with
    | none => exact fun b h => ⟨b, h, id⟩
    | some c =>
      exact (roundsCourse_implies hs .check c.lines).andThen (guardsCourse_implies hs guards)

theorem bodyCourse_of_subset (hs : part ⊆ whole) : ∀ {lines : List Text},
    (d.bodyCourse answer whole lines).result = .ok () →
    (d.bodyCourse answer part lines).result = .ok ()
  | [], h => h
  | line :: lines, h => by
    rw [bodyCourse] at h ⊢
    cases hb : d.bodyLines line with
    | error cause => rw [hb] at h; cases h
    | ok expanded =>
      rw [hb] at h
      obtain ⟨b, hb, hrest⟩ := Course.andThen_result_eq_ok.mp h
      obtain ⟨b', hb', -⟩ := roundsCourse_implies hs .work expanded b hb
      exact Course.andThen_result_eq_ok.mpr ⟨b', hb', bodyCourse_of_subset hs hrest⟩

/-- A command that succeeds on a group succeeds on each part of it. -/
theorem groupCourse_of_subset (hs : part ⊆ whole) {outcome : Outcome}
    (h : (d.groupCourse answer whole).result = .ok outcome) :
    ∃ outcome', (d.groupCourse answer part).result = .ok outcome' := by
  obtain ⟨passed, hg, hrest⟩ := Course.andThen_result_eq_ok.mp h
  obtain ⟨passed', hg', hp⟩ := guardsCourse_implies hs _ passed hg
  by_cases hsat : (!d.command.guards.isEmpty && passed') = true
  · refine ⟨.satisfied, Course.andThen_result_eq_ok.mpr ⟨passed', hg', ?_⟩⟩
    rw [if_pos hsat]
    rfl
  · -- the guards do not pass on the whole group either, so its body has succeeded
    have hwhole : ¬ (!d.command.guards.isEmpty && passed) = true := fun hc => by
      rw [Bool.and_eq_true] at hc hsat
      exact hsat ⟨hc.1, hp hc.2⟩
    rw [if_neg hwhole] at hrest
    obtain ⟨⟨⟩, hb, -⟩ := Course.map_result_eq_ok hrest
    refine ⟨.deployed, Course.andThen_result_eq_ok.mpr ⟨passed', hg', ?_⟩⟩
    rw [if_neg hsat]
    exact Course.map_result_of_ok (bodyCourse_of_subset hs hb) _

/-! ### What a host of a group receives -/

/-- The calls that the lines make on a host. -/
def hostCalls (d : Deployment) (answer : Answering) (host : Text) (lines : List Text) : List Call :=
  lines.filterMap fun line => d.hostCall answer line host

end Deployment

/-- Among the calls of a group, each place of the host receives these calls, one after another. -/
def Receives (hosts : List Text) (host : Text) (calls each : List Call) : Prop :=
  calls.filter (·.host = host) = each.flatMap (List.replicate (hosts.count host))

theorem Receives.append {hosts : List Text} {host : Text} {calls calls' each each' : List Call}
    (h : Receives hosts host calls each) (h' : Receives hosts host calls' each') :
    Receives hosts host (calls ++ calls') (each ++ each') := by
  rw [Receives, List.filter_append, h, h', List.flatMap_append]

namespace Deployment

variable {d : Deployment} {answer : Answering} {hosts : List Text} {host : Text}

theorem hostCall_host {line : Text} {c : Call} (h : d.hostCall answer line host = some c) :
    c.host = host := by
  unfold hostCall at h
  cases hl : d.hostLine host line with
  | error e => rw [hl] at h; cases h
  | ok text => rw [hl] at h; cases h; rfl

theorem hostCalls_cons (line : Text) (lines : List Text) :
    d.hostCalls answer host (line :: lines) =
      (d.hostCall answer line host).toList ++ d.hostCalls answer host lines := by
  rw [hostCalls, List.filterMap_cons]
  cases d.hostCall answer line host <;> rfl

/-- Of the calls of a line, each place of a host receives its own. -/
theorem receives_roundCalls (line host : Text) : ∀ hosts : List Text,
    Receives hosts host (d.roundCalls answer hosts line) (d.hostCall answer line host).toList
  | [] => by cases d.hostCall answer line host <;> rfl
  | other :: hosts => by
    have ih := receives_roundCalls line host hosts
    rw [Receives, roundCalls] at ih ⊢
    rw [List.filterMap_cons]
    by_cases ho : other = host
    · subst ho
      cases hc : d.hostCall answer line other with
      | none => simpa only [hc, Option.toList_none, List.flatMap_nil] using ih
      | some c =>
        rw [hc] at ih
        simpa [hostCall_host hc, List.replicate_succ] using ih
    · rw [List.count_cons_of_ne ho, ← ih]
      cases hc : d.hostCall answer line other with
      | none => rfl
      | some c => simp [hostCall_host hc, ho]

/-- The order of the turns does not show in what one host receives: its calls of one line are all
the same. -/
theorem receives_of_perm {line : Text} {round : List Call}
    (h : round.Perm (d.roundCalls answer hosts line)) (host : Text) :
    Receives hosts host round (d.hostCall answer line host).toList := by
  have hr := h.filter fun c => decide (c.host = host)
  rw [receives_roundCalls line host hosts] at hr
  rw [Receives]
  cases hc : d.hostCall answer line host with
  | none => simpa [hc] using hr
  | some c => simpa [hc, List.perm_replicate] using hr

/-- Each host receives its calls of the lines, one line after another. -/
theorem receives_of_rounds {lines : List Text} {rounds : List (List Call)}
    (h : List.Forall₂ (fun line round => round.Perm (d.roundCalls answer hosts line)) lines rounds)
    (host : Text) : Receives hosts host rounds.flatten (d.hostCalls answer host lines) := by
  induction h with
  | nil => rfl
  | cons hround _ ih =>
    rw [List.flatten_cons, hostCalls_cons]
    exact (receives_of_perm hround host).append ih

/-- A full round is made of the calls of its line. -/
theorem FullRound.perm {line : Text} {calls : List Call} (h : d.FullRound answer hosts line calls) :
    calls.Perm (d.roundCalls answer hosts line) := by
  obtain ⟨expanded, he, hc⟩ := h
  refine hc.trans (.of_eq ?_)
  rw [roundCalls, ← List.filterMap_eq_map]
  exact List.filterMap_congr fun host hh => by simp [hostCall, he host hh]

theorem receives_of_fullRounds {lines : List Text} {rounds : List (List Call)}
    (h : List.Forall₂ (d.FullRound answer hosts) lines rounds) (host : Text) :
    Receives hosts host rounds.flatten (d.hostCalls answer host lines) :=
  receives_of_rounds (h.imp fun _ _ => FullRound.perm) host

/-! ### Completed groups and their parts -/

/-- A completed group is satisfied exactly if there are guards and the shell lets them pass. -/
theorem Completed.satisfied_iff_passes {g : GroupRun} (h : d.Completed answer g) :
    g.outcome = .satisfied ↔ d.command.guards ≠ [] ∧
      ∀ line ∈ d.guardLines, ∀ host ∈ g.hosts, d.PassesOn answer line host :=
  h.satisfied_iff.trans (and_congr_right' (passedIn_rounds_iff h.guards_run))

/-- The lines of the body that are run on a completed group: all of them, or none if the group is
satisfied. -/
theorem Completed.exists_body {g : GroupRun} (h : d.Completed answer g) :
    ∃ lines, List.Forall₂ (d.FullRound answer g.hosts) lines g.bodyRounds ∧
      match g.outcome with
      | .satisfied => lines = []
      | .deployed => d.expandBody d.command.lines = .ok lines := by
  cases ho : g.outcome with
  | satisfied => exact ⟨[], h.body_skipped ho ▸ .nil, rfl⟩
  | deployed =>
    obtain ⟨lines, he, hr, -⟩ := h.body_run ho
    exact ⟨lines, hr, he⟩

/-- A part of a group beside the group. -/
structure PartOf (part whole : GroupRun) : Prop where
  hosts_subset : part.hosts ⊆ whole.hosts
  /-- A part of a satisfied group is satisfied. -/
  deployed : part.outcome = .deployed → whole.outcome = .deployed
  /-- A host is called in the part as in the whole group, or with its guards alone. -/
  receives : ∀ host ∈ part.hosts, ∃ guardCalls bodyCalls,
    Receives whole.hosts host whole.guardRounds.flatten guardCalls ∧
    Receives whole.hosts host whole.calls (guardCalls ++ bodyCalls) ∧
    Receives part.hosts host part.calls
      (if part.outcome = whole.outcome then guardCalls ++ bodyCalls else guardCalls)
  /-- With as many places in the part, these are the same calls. -/
  calls_eq : ∀ host ∈ part.hosts, part.hosts.count host = whole.hosts.count host →
    part.calls.filter (·.host = host) =
      (if part.outcome = whole.outcome then whole.calls else whole.guardRounds.flatten).filter
        (·.host = host)

/-- A group that is satisfied is satisfied in all its parts. -/
theorem deployed_of_subset {part whole : GroupRun} (hp : d.Completed answer part)
    (hw : d.Completed answer whole) (hs : part.hosts ⊆ whole.hosts)
    (h : part.outcome = .deployed) : whole.outcome = .deployed := by
  cases ho : whole.outcome with
  | deployed => rfl
  | satisfied =>
    obtain ⟨hne, hall⟩ := hw.satisfied_iff_passes.mp ho
    have hsat := hp.satisfied_iff_passes.mpr ⟨hne, fun line hl host hh => hall line hl host (hs hh)⟩
    cases h.symm.trans hsat

/-- What a host of a part receives there, and in the whole group. -/
theorem receives_of_subset {part whole : GroupRun} (hp : d.Completed answer part)
    (hw : d.Completed answer whole) (hs : part.hosts ⊆ whole.hosts) (host : Text) :
    ∃ guardCalls bodyCalls,
      Receives whole.hosts host whole.guardRounds.flatten guardCalls ∧
      Receives whole.hosts host whole.calls (guardCalls ++ bodyCalls) ∧
      Receives part.hosts host part.calls
        (if part.outcome = whole.outcome then guardCalls ++ bodyCalls else guardCalls) := by
  obtain ⟨wholeLines, hwr, hwb⟩ := hw.exists_body
  obtain ⟨partLines, hpr, hpb⟩ := hp.exists_body
  have hguards := receives_of_fullRounds hp.guards_run host
  have hwhole := receives_of_fullRounds hw.guards_run host
  refine ⟨_, _, hwhole, hwhole.append (receives_of_fullRounds hwr host), ?_⟩
  have hcalls := hguards.append (receives_of_fullRounds hpr host)
  split
  next ho =>
    -- the same outcome comes of the same lines of the body
    have hlines : partLines = wholeLines := by
      rw [← ho] at hwb
      cases hout : part.outcome <;> simp only [hout] at hpb hwb
      · exact Except.ok.inj (hpb.symm.trans hwb)
      · rw [hpb, hwb]
    exact hlines ▸ hcalls
  next ho =>
    cases hout : part.outcome with
    | deployed => exact absurd (hout.trans (deployed_of_subset hp hw hs hout).symm) ho
    | satisfied =>
      rw [GroupRun.calls, hp.body_skipped hout]
      simpa using hguards

theorem partOf_of_subset {part whole : GroupRun} (hp : d.Completed answer part)
    (hw : d.Completed answer whole) (hs : part.hosts ⊆ whole.hosts) : PartOf part whole where
  hosts_subset := hs
  deployed := deployed_of_subset hp hw hs
  receives host _ := receives_of_subset hp hw hs host
  calls_eq host _ hcount := by
    obtain ⟨guardCalls, bodyCalls, hguards, hall, hpart⟩ := receives_of_subset hp hw hs host
    rw [hpart, hcount]
    split
    · exact hall.symm
    · exact hguards.symm

/-! ### Runs without an operator -/

/-- Unless somebody is asked, a tag goes on with the next group when a group has succeeded. -/
theorem tagResult_none_cons (tag : Text) (group : Nat) (hosts : List Text)
    (rest : List (List Text)) :
    d.tagResult answer none tag group (hosts :: rest) =
      (d.groupCourse answer hosts).result.bind fun outcome =>
        (d.tagResult answer none tag (group + 1) rest).map fun report =>
          { report with groups := hosts.map (⟨·, outcome⟩) :: report.groups } := by
  rw [tagResult, goesOn]
  cases (d.groupCourse answer hosts).result with
  | error e => rfl
  | ok outcome => cases d.tagResult answer none tag (group + 1) rest <;> rfl

/-- Nobody stops such a tag. -/
theorem stopped_of_tagResult_none {tag : Text} : ∀ {groups : List (List Text)} {group : Nat}
    {report : TagReport}, d.tagResult answer none tag group groups = .ok report →
      report.stopped = false
  | [], _, _, h => by
    cases h
    rfl
  | hosts :: rest, group, report, h => by
    rw [tagResult_none_cons] at h
    cases hc : (d.groupCourse answer hosts).result with
    | error e => rw [hc] at h; cases h
    | ok outcome =>
      cases hr : d.tagResult answer none tag (group + 1) rest with
      | error e => rw [hc, hr] at h; cases h
      | ok report' =>
        rw [hc, hr] at h
        cases h
        have hstop : report'.stopped = false := stopped_of_tagResult_none hr
        exact hstop

/-- Such a tag succeeds exactly if all its groups succeed. -/
theorem exists_tagResult_none_iff (tag : Text) : ∀ (groups : List (List Text)) (group : Nat),
    (∃ report, d.tagResult answer none tag group groups = .ok report) ↔
      ∀ hosts ∈ groups, ∃ outcome, (d.groupCourse answer hosts).result = .ok outcome
  | [], _ => by simp [tagResult]
  | hosts :: rest, group => by
    rw [List.forall_mem_cons, ← exists_tagResult_none_iff tag rest (group + 1), tagResult_none_cons]
    cases (d.groupCourse answer hosts).result <;>
      cases d.tagResult answer none tag (group + 1) rest <;> simp [Except.bind, Except.map]

variable {σ : Type} {a : Agents σ}

theorem repliesBy_none (hno : a.operator = none) : a.RepliesBy none := by
  rw [Agents.RepliesBy, hno]
  exact .none

/-- A run without an operator whose pipelines can be started succeeds exactly if all groups
succeed. -/
theorem exists_run_eq_ok_iff (ha : a.AnswersBy answer) (hno : a.operator = none) {batches : Batches}
    (hstart : batches.Startable) {p : Progress σ} :
    (∃ summary, (d.run a batches p).1 = .ok summary) ↔ ∀ tag groups, batches.get? tag = some groups →
      ∀ hosts ∈ groups, ∃ outcome, (d.groupCourse answer hosts).result = .ok outcome := by
  obtain ⟨start, hd⟩ := runTags_delivers d a batches p
  rw [run_of_startable hstart]
  refine hd.succeeds_iff.trans (forall₃_congr fun tag groups _ => ?_)
  rw [pipeline, runTag, runGroups_eq_tagResult ha (repliesBy_none hno), exists_tagResult_none_iff]

/-- What all groups of a run came to, tag by tag. -/
structure RanAll (d : Deployment) (answer : Answering) (batches : Batches) (summary : Summary)
    (calls : List Call) (runs : Dict (List GroupRun)) : Prop where
  batches_eq : runs.map (fun _ gs => gs.map (·.hosts)) = batches
  summary_eq : runs.map (fun _ gs => ⟨gs.map (·.results), false⟩) = summary
  calls_eq : calls = runs.values.flatMap fun gs => gs.flatMap (·.calls)
  completed : ∀ tag gs, runs.get? tag = some gs → ∀ g ∈ gs, d.Completed answer g

theorem RanAll.get?_batches {batches : Batches} {summary : Summary} {calls : List Call}
    {runs : Dict (List GroupRun)} (h : d.RanAll answer batches summary calls runs) {tag : Text}
    {gs : List GroupRun} (hg : runs.get? tag = some gs) :
    batches.get? tag = some (gs.map (·.hosts)) := by
  rw [← h.batches_eq, Dict.get?_map, hg]
  rfl

/-- A tag that nobody is asked about completes all its groups. -/
theorem TagCompleted.all (hno : a.operator = none) (ha : a.AnswersBy answer) {tag : Text}
    {groups : List (List Text)} {p : Progress σ} {runs : List GroupRun} {report : TagReport}
    (h : d.TagCompleted answer groups runs report)
    (hr : (d.runTag a tag groups p).1 = .ok report) :
    runs.map (·.hosts) = groups ∧ report = ⟨runs.map (·.results), false⟩ := by
  obtain ⟨hpre, hgroups, -⟩ := h
  have hstop : report.stopped = false := by
    rw [runTag, runGroups_eq_tagResult ha (repliesBy_none hno)] at hr
    exact stopped_of_tagResult_none hr
  have hlen := (d.runTag_hosts hr).2 hstop
  obtain ⟨rs, stopped⟩ := report
  obtain rfl : rs = _ := hgroups
  obtain rfl : stopped = false := hstop
  exact ⟨hpre.eq_of_length (by simpa using hlen), rfl⟩

/-- A run without an operator that succeeds has run all groups. -/
theorem run_ranAll (ha : a.AnswersBy answer) (hno : a.operator = none) {batches : Batches}
    {p : Progress σ} {summary : Summary} (h : (d.run a batches p).1 = .ok summary) :
    ∃ calls runs, Event.calls (d.run a batches p).2.events = Event.calls p.events ++ calls ∧
      d.RanAll answer batches summary calls runs := by
  obtain ⟨start, hd⟩ := runTags_delivers d a batches p
  have hstart : batches.Startable := startable_of_run_eq_ok h
  rw [run_of_startable hstart] at h ⊢
  obtain ⟨reports, hres, -⟩ := collectInto_eq_ok h
  obtain ⟨-, runs, hkeys, hcalls, hall⟩ := runTags_completed ha batches.entries hres
  have hsorted : runs.Pairwise fun a b => a.1 < b.1 := by
    have hs : (runs.map (·.1)).Pairwise (· < ·) := hkeys ▸ List.pairwise_map.mpr batches.sorted
    exact List.pairwise_map.mp hs
  have hrun : ∀ tag gs, (⟨runs, hsorted⟩ : Dict (List GroupRun)).get? tag = some gs →
      batches.get? tag = some (gs.map (·.hosts)) ∧
      summary.get? tag = some ⟨gs.map (·.results), false⟩ ∧ ∀ g ∈ gs, d.Completed answer g := by
    intro tag gs hg
    obtain ⟨groups, report, hentry, hreport, htag⟩ := hall _ (Dict.get?_eq_some_iff.mp hg)
    have hb : batches.get? tag = some groups := Dict.get?_eq_some_iff.mpr hentry
    have hm : (tag, .ok report) ∈ (d.runTags a batches.entries p).1 :=
      hres ▸ List.mem_map.mpr ⟨(tag, report), hreport, rfl⟩
    obtain ⟨groups', hb', hp⟩ := (hd.mem_iff tag _).mp hm
    cases hb.symm.trans hb'
    have hs := (hd.get?_eq_some_iff h tag report).mpr ⟨groups, hb, hp⟩
    obtain ⟨rfl, rfl⟩ := htag.all hno ha hp
    exact ⟨hb, hs, htag.2.2⟩
  refine ⟨_, ⟨runs, hsorted⟩, hcalls, ?_, ?_, ?_, fun tag gs hg => (hrun tag gs hg).2.2⟩
  · exact Dict.map_eq_of_keys_eq hkeys fun tag gs hg => (hrun tag gs hg).1
  · exact Dict.map_eq_of_keys_eq (hkeys.trans (hd.keys_eq h).symm)
      fun tag gs hg => (hrun tag gs hg).2.1
  · exact (List.flatMap_map ..).symm

/-! ### Splitting the groups of a run -/

/-- Every group of the one run lies in a group of the other, and does no more than any group that it
lies in. -/
def DoesNoMore (d : Deployment) (answer : Answering) (parts whole : Batches)
    (summary' summary : Summary) (calls' calls : List Call) : Prop :=
  ∃ runs' runs, d.RanAll answer parts summary' calls' runs' ∧
    d.RanAll answer whole summary calls runs ∧
    ∀ tag gs' gs, runs'.get? tag = some gs' → runs.get? tag = some gs → ∀ part ∈ gs',
      (∃ g ∈ gs, part.hosts ⊆ g.hosts) ∧ ∀ g ∈ gs, part.hosts ⊆ g.hosts → PartOf part g

variable {τ : Type} {b : Agents τ}

/-- If a run on whole groups succeeds, so does a run on their parts, and no part does more than its
group. -/
theorem run_parts (ha : a.AnswersBy answer) (hb : b.AnswersBy answer) (hao : a.operator = none)
    (hbo : b.operator = none) {parts whole : Batches} (hr : parts.Refines whole) {p : Progress σ}
    {summary : Summary} (h : (d.run a whole p).1 = .ok summary) (q : Progress τ) :
    ∃ summary' calls' calls, (d.run b parts q).1 = .ok summary' ∧
      Event.calls (d.run b parts q).2.events = Event.calls q.events ++ calls' ∧
      Event.calls (d.run a whole p).2.events = Event.calls p.events ++ calls ∧
      d.DoesNoMore answer parts whole summary' summary calls' calls := by
  obtain ⟨calls, runs, hc, hruns⟩ := run_ranAll ha hao h
  have hstart : whole.Startable := startable_of_run_eq_ok h
  have hstart' : parts.Startable := fun tag htag => hstart tag (hr.1 ▸ htag)
  have hgroups := (exists_run_eq_ok_iff ha hao hstart).mp ⟨summary, h⟩
  obtain ⟨summary', h'⟩ : ∃ summary', (d.run b parts q).1 = .ok summary' := by
    refine (exists_run_eq_ok_iff hb hbo hstart').mpr fun tag groups hg hosts hm => ?_
    obtain ⟨groups', hg', hlie⟩ := hr.2 tag groups hg
    obtain ⟨hosts', hm', hs⟩ := hlie hosts hm
    obtain ⟨outcome, ho⟩ := hgroups tag groups' hg' hosts' hm'
    exact groupCourse_of_subset hs ho
  obtain ⟨calls', runs', hc', hruns'⟩ := run_ranAll hb hbo h'
  refine ⟨summary', calls', calls, h', hc', hc, runs', runs, hruns', hruns,
    fun tag gs' gs hgs' hgs part hp => ⟨?_, fun g hg hs => ?_⟩⟩
  · obtain ⟨groups', hg', hlie⟩ := hr.2 tag _ (hruns'.get?_batches hgs')
    cases (hruns.get?_batches hgs).symm.trans hg'
    obtain ⟨hosts, hm, hs⟩ := hlie _ (List.mem_map_of_mem hp)
    obtain ⟨g, hg, rfl⟩ := List.mem_map.mp hm
    exact ⟨g, hg, hs⟩
  · exact partOf_of_subset (hruns'.completed tag gs' hgs' part hp)
      (hruns.completed tag gs hgs g hg) hs

/-- What shipping to the fleet comes to. -/
def fleetSummary : Summary :=
  .ofList [("db", ⟨[[⟨"a", .satisfied⟩], [⟨"b", .deployed⟩]], false⟩),
    ("web", ⟨[[⟨"a", .deployed⟩, ⟨"b", .deployed⟩]], false⟩)]

/-- Server by server, a server that is up to date is no longer shipped to. -/
theorem run_parts_shipping :
    fleet.singles.Refines fleet ∧
    (shipping.run shippingAgents fleet ⟨(), []⟩).1 = .ok fleetSummary ∧
    ∃ summary' calls' calls, (shipping.run shippingAgents fleet.singles ⟨(), []⟩).1 = .ok summary' ∧
      Event.calls (shipping.run shippingAgents fleet.singles ⟨(), []⟩).2.events = [] ++ calls' ∧
      Event.calls (shipping.run shippingAgents fleet ⟨(), []⟩).2.events = [] ++ calls ∧
      shipping.DoesNoMore shippingAnswer fleet.singles fleet summary' fleetSummary calls' calls := by
  have ha : shippingAgents.AnswersBy shippingAnswer := fun _ _ _ => rfl
  have h : (shipping.run shippingAgents fleet ⟨(), []⟩).1 = .ok fleetSummary := by decide +kernel
  exact ⟨fleet.singles_refines, h, run_parts ha ha rfl rfl fleet.singles_refines h ⟨(), []⟩⟩

end Deployment

end Rollout
