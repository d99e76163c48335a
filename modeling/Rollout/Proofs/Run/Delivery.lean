import Rollout.Proofs.Dict
import Rollout.Proofs.Run.Protocol
import Rollout.Proofs.Run.Outcome
import Rollout.Upfile.Parser

/-!
The pipelines of the tags run side by side, each with its own view of the agents, and deliver their
results in any order. What a run comes to does not depend on this order as long as no pipeline
fails, and every host of a group that ran is counted once; but a run collects no results at all if
a tag holds a NUL (`collect_delivered`).
-/

namespace Rollout

/-! ### Collecting results -/

/-- Collecting fails with the first failure that is delivered. -/
theorem collectInto_eq_error {e : RunError} :
    ∀ {results : List (Text × Except TaskError TagReport)} {s : Summary},
      collectInto s results = .error e →
      ∃ tag cause, e = .failed tag cause ∧ ∃ before after,
        results = before ++ (tag, .error cause) :: after ∧
          ∀ r ∈ before, ∃ report, r.2 = .ok report
  | (tag, .ok report) :: results, s, h => by
    have hrest : collectInto (s.insert tag report) results = .error e := h
    obtain ⟨failing, cause, he, before, after, rfl, hb⟩ := collectInto_eq_error hrest
    exact ⟨failing, cause, he, (tag, .ok report) :: before, after, rfl,
      List.forall_mem_cons.mpr ⟨⟨report, rfl⟩, hb⟩⟩
  | (tag, .error cause) :: results, s, h => by
    cases h
    exact ⟨tag, cause, rfl, [], results, rfl, nofun⟩

section

variable {results results' : List (Text × Except TaskError TagReport)} {s : Summary} {e : RunError}

/-- A failure that is collected was delivered. -/
theorem mem_of_collect_eq_error (h : collect results = .error e) :
    ∃ tag cause, e = .failed tag cause ∧ (tag, .error cause) ∈ results := by
  obtain ⟨tag, cause, he, before, after, rfl, -⟩ := collectInto_eq_error h
  exact ⟨tag, cause, he, by simp⟩

/-- A summary has the reports that were delivered, and nothing else was. -/
theorem mem_iff_of_collect_eq_ok (hn : (results.map (·.1)).Nodup) (h : collect results = .ok s)
    (tag : Text) (r : Except TaskError TagReport) :
    (tag, r) ∈ results ↔ ∃ report, r = .ok report ∧ s.get? tag = some report := by
  obtain ⟨reports, rfl, rfl⟩ := collectInto_eq_ok h
  rw [List.map_map] at hn
  have hget := fun report => Dict.get?_ofList_eq_some_iff (k := tag) (v := report) hn
  constructor
  · intro hm
    obtain ⟨⟨tag, report⟩, hreport, heq⟩ := List.mem_map.mp hm
    cases heq
    exact ⟨report, rfl, (hget report).mpr hreport⟩
  · rintro ⟨report, rfl, hs⟩
    exact List.mem_map.mpr ⟨(tag, report), (hget report).mp hs, rfl⟩

/-- Collecting succeeds exactly if no failure is delivered. -/
theorem exists_collect_eq_ok_iff (hn : (results.map (·.1)).Nodup) :
    (∃ s, collect results = .ok s) ↔ ∀ r ∈ results, ∃ report, r.2 = .ok report := by
  constructor
  · rintro ⟨s, hs⟩ r hr
    obtain ⟨report, hreport, -⟩ := (mem_iff_of_collect_eq_ok hn hs r.1 r.2).mp hr
    exact ⟨report, hreport⟩
  · intro hok
    cases hc : collect results with
    | ok s => exact ⟨s, rfl⟩
    | error e =>
      obtain ⟨tag, cause, -, hm⟩ := mem_of_collect_eq_error hc
      obtain ⟨report, hreport⟩ := hok _ hm
      cases hreport

/-- In whatever order the reports are delivered, they make up the same summary. -/
theorem collect_perm (hn : (results.map (·.1)).Nodup) (hp : results'.Perm results)
    (h : collect results = .ok s) : collect results' = .ok s := by
  have hn' : (results'.map (·.1)).Nodup := (hp.map _).nodup_iff.mpr hn
  have hall := (exists_collect_eq_ok_iff hn).mp ⟨s, h⟩
  obtain ⟨s', hs'⟩ := (exists_collect_eq_ok_iff hn').mpr fun r hr => hall r (hp.mem_iff.mp hr)
  have hget : ∀ tag report, s'.get? tag = some report ↔ s.get? tag = some report := by
    intro tag report
    have hmem' := mem_iff_of_collect_eq_ok hn' hs' tag (.ok report)
    have hmem := mem_iff_of_collect_eq_ok hn h tag (.ok report)
    simp only [Except.ok.injEq, exists_eq_left'] at hmem' hmem
    rw [← hmem', ← hmem, hp.mem_iff]
  rw [hs', Dict.eq_of_get?_eq fun tag => Option.ext (hget tag)]

end

/-! ### Host slots -/

/-- The places of hosts in all groups. -/
def Batches.slots (b : Batches) : Nat := b.values.flatten.flatten.length

/-- How many groups of a tag are reported. -/
def Summary.ran (s : Summary) (tag : Text) : Nat :=
  ((s.get? tag).map (·.groups.length)).getD 0

/-- Each result has one outcome. -/
theorem length_filter_outcomes : ∀ results : List HostResult,
    (results.filter (·.outcome = .deployed)).length +
      (results.filter (·.outcome = .satisfied)).length = results.length
  | [] => rfl
  | ⟨host, outcome⟩ :: results => by
    have ih := length_filter_outcomes results
    cases outcome <;> simp <;> omega

/-- Every host that is reported is counted once. -/
theorem Summary.count_add_count (s : Summary) :
    s.count .deployed + s.count .satisfied =
      Batches.slots (s.map fun _ report => report.groups.map (·.map (·.host))) := by
  have hvalues : (s.map fun _ report => report.groups.map (·.map (·.host))).values =
      s.values.map fun report => report.groups.map (·.map (·.host)) := by
    simp [Dict.values, Dict.map]
  have hflat : (s.values.map fun report => report.groups.map (·.map (·.host))).flatten.flatten =
      (s.values.flatMap (·.groups)).flatten.map (·.host) := by
    simp only [List.flatMap, List.map_flatten, List.map_map, Function.comp_def]
  rw [count, count, length_filter_outcomes, Batches.slots, hvalues, hflat, List.length_map]

namespace Deployment

variable {σ : Type} (d : Deployment)

/-- What is reported of a tag are its groups in their order, and all of them unless the operator
has stopped it. -/
theorem runTag_hosts {a : Agents σ} {tag : Text} {groups : List (List Text)} {p : Progress σ}
    {report : TagReport} (h : (d.runTag a tag groups p).1 = .ok report) :
    report.groups.map (·.map (·.host)) = groups.take report.groups.length ∧
      (report.stopped = false → report.groups.length = groups.length) := by
  obtain ⟨gs, ending, hrolls, hresult, -⟩ := runGroups_rolled d a tag groups.length groups 0 p
  have hp := hrolls.protocol
  rw [← hresult, ← runTag, h] at hp
  refine ⟨?_, fun hs => ?_⟩
  · have hpre := List.prefix_iff_eq_take.mp (hp.reported report rfl).2
    rwa [List.length_map] at hpre
  · obtain ⟨rs, stopped⟩ := report
    obtain rfl : stopped = false := hs
    exact hp.finished rs rfl

/-! ### Agents without a memory -/

end Deployment

/-- What an operator says about a group of a tag, at any time. -/
abbrev Replying := Text → Nat → Except Failure Bool

/-- The operator of the agents, if there is one, replies so, whatever the state is. -/
def Agents.RepliesBy {σ : Type} (a : Agents σ) (replies : Option Replying) : Prop :=
  Option.Rel (fun ask reply => ∀ tag group s, (ask tag group s).1.verdict = reply tag group)
    a.operator replies

namespace Deployment

variable {σ : Type}

/-- Whether a tag goes on with a group, by the replies. -/
def goesOn (replies : Option Replying) (tag : Text) (group : Nat) : Except TaskError Bool :=
  match replies with
  | none => .ok true
  | some reply =>
    if group = 0 then .ok true
    else match reply tag group with
      | .ok b => .ok b
      | .error f => .error (.confirmation f)

/-- What comes of the groups of a tag, by the answers and the replies. -/
def tagResult (d : Deployment) (answer : Answering) (replies : Option Replying) (tag : Text) :
    Nat → List (List Text) → Except TaskError TagReport
  | _, [] => .ok ⟨[], false⟩
  | group, hosts :: rest => do
    if ← goesOn replies tag group then
      let outcome ← (d.groupCourse answer hosts).result
      let report ← tagResult d answer replies tag (group + 1) rest
      return { report with groups := hosts.map (⟨·, outcome⟩) :: report.groups }
    else return ⟨[], true⟩

variable {d : Deployment} {a : Agents σ} {answer : Answering} {replies : Option Replying}

theorem mayGoOn_eq (hr : a.RepliesBy replies) (tag : Text) (group : Nat) (p : Progress σ) :
    (mayGoOn a tag group p).1 = goesOn replies tag group := by
  unfold Agents.RepliesBy at hr
  unfold mayGoOn goesOn
  revert hr
  cases a.operator <;> cases replies <;> rintro ⟨⟩
  · rfl
  · next ask reply h =>
    split
    · rfl
    · simp only [Task.bind_apply, Task.consult, ← h tag group p.agents]
      cases (ask tag group p.agents).1.verdict <;> rfl

/-- What comes of a tag depends on the answers and the replies alone. -/
theorem runGroups_eq_tagResult (ha : a.AnswersBy answer) (hr : a.RepliesBy replies) (tag : Text)
    (total : Nat) : ∀ (groups : List (List Text)) (group : Nat) (p : Progress σ),
      (d.runGroups a tag total group groups p).1 = d.tagResult answer replies tag group groups
  | [], _, _ => rfl
  | hosts :: rest, group, p => by
    have hgo := mayGoOn_eq hr tag group p
    rw [tagResult, ← hgo]
    rcases hm : mayGoOn a tag group p with ⟨e | _ | _, p'⟩
    · rw [runGroups_cons_of_unasked hm]
      rfl
    · rw [runGroups_cons_of_refused hm]
      rfl
    · obtain ⟨s, events, hx, -⟩ := runGroup_follows (d := d) ha hosts
        { p' with events := p'.events ++ [.groupStarted tag group total hosts] }
      cases hc : (d.groupCourse answer hosts).result with
      | error e =>
        rw [Course.map, hc] at hx
        rw [runGroups_cons_of_failed hm hx]
        rfl
      | ok outcome =>
        rw [Course.map, hc] at hx
        rw [runGroups_cons_of_ok hm hx, runGroups_eq_tagResult ha hr tag total rest]
        cases d.tagResult answer replies tag (group + 1) rest <;> rfl

/-! ### Delivery -/

/-- What comes of the pipeline of a tag alone, with its own view of the agents. Whatever the other
pipelines do to the agents meanwhile is part of this view. -/
def pipeline (d : Deployment) (a : Text → Agents σ) (start : Text → Progress σ) (tag : Text)
    (groups : List (List Text)) : Except TaskError TagReport :=
  (d.runTag (a tag) tag groups (start tag)).1

/-- The pipelines of the tags deliver their results, each once and in any order. -/
def Delivers (d : Deployment) (a : Text → Agents σ) (start : Text → Progress σ) (batches : Batches)
    (results : List (Text × Except TaskError TagReport)) : Prop :=
  results.Perm (batches.map (d.pipeline a start)).entries

/-- The pipelines of a run deliver, in the order of their tags. -/
theorem runTags_eq (d : Deployment) (a : Agents σ) :
    ∀ (entries : List (Text × List (List Text))) (p : Progress σ), (entries.map (·.1)).Nodup →
      ∃ start : Text → Progress σ, (d.runTags a entries p).1 =
        entries.map fun e => (e.1, d.pipeline (fun _ => a) start e.1 e.2)
  | [], p, _ => ⟨fun _ => p, rfl⟩
  | (tag, groups) :: entries, p, hn => by
    obtain ⟨htag, hn⟩ := List.nodup_cons.mp hn
    obtain ⟨start, hs⟩ := runTags_eq d a entries (d.runTag a tag groups p).2 hn
    refine ⟨fun t => if t = tag then p else start t, ?_⟩
    rw [runTags, List.map_cons]
    refine congrArg₂ List.cons ?_ (hs.trans (List.map_congr_left fun e he => ?_))
    · simp [pipeline]
    · have hne : e.1 ≠ tag := fun h => htag (h ▸ List.mem_map.mpr ⟨e, he, rfl⟩)
      simp [pipeline, hne]

theorem runTags_delivers (d : Deployment) (a : Agents σ) (batches : Batches) (p : Progress σ) :
    ∃ start, d.Delivers (fun _ => a) start batches (d.runTags a batches.entries p).1 := by
  obtain ⟨start, hs⟩ := runTags_eq d a batches.entries p batches.nodup_keys
  exact ⟨start, .of_eq hs⟩

namespace Delivers

variable {a : Text → Agents σ} {start : Text → Progress σ} {batches : Batches}
  {results : List (Text × Except TaskError TagReport)} {s : Summary}

theorem nodup (h : d.Delivers a start batches results) : (results.map (·.1)).Nodup :=
  (h.map _).nodup_iff.mpr (Dict.nodup_keys _)

/-- The results are those of the pipelines. -/
theorem mem_iff (h : d.Delivers a start batches results) (tag : Text)
    (r : Except TaskError TagReport) :
    (tag, r) ∈ results ↔
      ∃ groups, batches.get? tag = some groups ∧ d.pipeline a start tag groups = r := by
  rw [List.Perm.mem_iff h, ← Dict.get?_eq_some_iff, Dict.get?_map, Option.map_eq_some_iff]

/-- A summary has the reports of the pipelines. -/
theorem get?_eq_some_iff (h : d.Delivers a start batches results) (hs : collect results = .ok s)
    (tag : Text) (report : TagReport) :
    s.get? tag = some report ↔
      ∃ groups, batches.get? tag = some groups ∧ d.pipeline a start tag groups = .ok report := by
  rw [← h.mem_iff, mem_iff_of_collect_eq_ok h.nodup hs]
  simp

/-- Collecting succeeds exactly if no pipeline fails. -/
theorem succeeds_iff (h : d.Delivers a start batches results) :
    (∃ s, collect results = .ok s) ↔ ∀ tag groups, batches.get? tag = some groups →
      ∃ report, d.pipeline a start tag groups = .ok report := by
  rw [exists_collect_eq_ok_iff h.nodup, Prod.forall]
  simp only [h.mem_iff]
  exact ⟨fun hp tag groups hg => hp tag _ ⟨groups, hg, rfl⟩,
    fun hp tag r ⟨groups, hg, hr⟩ => hr ▸ hp tag groups hg⟩

/-- A summary has a report for each tag. -/
theorem exists_report (h : d.Delivers a start batches results) (hs : collect results = .ok s)
    {tag : Text} {groups : List (List Text)} (hg : batches.get? tag = some groups) :
    ∃ report, s.get? tag = some report ∧ d.pipeline a start tag groups = .ok report := by
  obtain ⟨report, hr⟩ := h.succeeds_iff.mp ⟨s, hs⟩ tag groups hg
  exact ⟨report, (h.get?_eq_some_iff hs tag report).mpr ⟨groups, hg, hr⟩, hr⟩

/-- The hosts that are reported are those of the groups that ran. -/
theorem hosts_eq (h : d.Delivers a start batches results) (hs : collect results = .ok s) :
    s.map (fun _ report => report.groups.map (·.map (·.host))) =
      batches.map fun tag groups => groups.take (s.ran tag) := by
  refine Dict.eq_of_get?_eq fun tag => ?_
  rw [Dict.get?_map, Dict.get?_map]
  cases hg : batches.get? tag with
  | some groups =>
    obtain ⟨report, hr, hp⟩ := h.exists_report hs hg
    simp [hr, Summary.ran, (d.runTag_hosts hp).1]
  | none =>
    cases hr : s.get? tag with
    | none => rfl
    | some report =>
      obtain ⟨groups, hg', -⟩ := (h.get?_eq_some_iff hs tag report).mp hr
      cases hg.symm.trans hg'

theorem keys_eq (h : d.Delivers a start batches results) (hs : collect results = .ok s) :
    s.keys = batches.keys := by
  rw [← Dict.keys_map _ s, h.hosts_eq hs, Dict.keys_map]

/-- Every place of a host in a group that ran is counted once. -/
theorem count_eq (h : d.Delivers a start batches results) (hs : collect results = .ok s) :
    s.count .deployed + s.count .satisfied =
      Batches.slots (batches.map fun tag groups => groups.take (s.ran tag)) := by
  rw [s.count_add_count, h.hosts_eq hs]

/-- If no tag was stopped, all groups ran. -/
theorem take_ran_eq (h : d.Delivers a start batches results) (hs : collect results = .ok s)
    (hstop : ∀ tag report, s.get? tag = some report → report.stopped = false) :
    batches.map (fun tag groups => groups.take (s.ran tag)) = batches := by
  refine Dict.eq_of_get?_eq fun tag => ?_
  rw [Dict.get?_map]
  cases hg : batches.get? tag with
  | none => rfl
  | some groups =>
    obtain ⟨report, hr, hp⟩ := h.exists_report hs hg
    have hlen := (d.runTag_hosts hp).2 (hstop tag report hr)
    simp [Summary.ran, hr, hlen]

/-- If one tag alone fails, its failure is the one that is collected. -/
theorem collect_eq_error (h : d.Delivers a start batches results) {tag : Text}
    {groups : List (List Text)} {cause : TaskError} (hg : batches.get? tag = some groups)
    (hp : d.pipeline a start tag groups = .error cause)
    (hothers : ∀ tag' groups', batches.get? tag' = some groups' → tag' ≠ tag →
      ∃ report, d.pipeline a start tag' groups' = .ok report) :
    collect results = .error (.failed tag cause) := by
  cases hc : collect results with
  | ok s =>
    obtain ⟨report, hr⟩ := h.succeeds_iff.mp ⟨s, hc⟩ tag groups hg
    cases hp.symm.trans hr
  | error e =>
    obtain ⟨failing, cause', rfl, hm⟩ := mem_of_collect_eq_error hc
    obtain ⟨groups', hg', hp'⟩ := (h.mem_iff _ _).mp hm
    by_cases htag : failing = tag
    · subst htag
      cases hg.symm.trans hg'
      cases hp.symm.trans hp'
      rfl
    · obtain ⟨report, hr⟩ := hothers failing groups' hg' htag
      cases hp'.symm.trans hr

end Delivers

/-- What a run comes to when its pipelines deliver so. -/
structure Aggregates (d : Deployment) (a : Text → Agents σ) (start : Text → Progress σ)
    (batches : Batches) (results : List (Text × Except TaskError TagReport)) : Prop where
  /-- It succeeds exactly if no pipeline fails. -/
  succeeds_iff : (∃ s, collect results = .ok s) ↔ ∀ tag groups, batches.get? tag = some groups →
    ∃ report, d.pipeline a start tag groups = .ok report
  keys : ∀ s, collect results = .ok s → s.keys = batches.keys
  /-- The summary has the report of each tag. -/
  reports : ∀ s, collect results = .ok s → ∀ tag groups, batches.get? tag = some groups →
    ∃ report, s.get? tag = some report ∧ d.pipeline a start tag groups = .ok report
  /-- The summary is the same for every order of delivery. -/
  order_free : ∀ s, collect results = .ok s →
    ∀ results', d.Delivers a start batches results' → collect results' = .ok s
  /-- The failure is the first one that is delivered, with its tag. -/
  failure : ∀ e, collect results = .error e → ∃ tag cause,
    (∃ before after, results = before ++ (tag, .error cause) :: after ∧
      ∀ r ∈ before, ∃ report, r.2 = .ok report) ∧
    e = .failed tag cause ∧ e.message = "tag " ++ tag ++ ": " ++ cause.message
  /-- If one tag alone fails, it is the failure of this tag. -/
  single_failure : ∀ tag groups cause, batches.get? tag = some groups →
    d.pipeline a start tag groups = .error cause →
    (∀ tag' groups', batches.get? tag' = some groups' → tag' ≠ tag →
      ∃ report, d.pipeline a start tag' groups' = .ok report) →
    collect results = .error (.failed tag cause)
  /-- Every place of a host in a group that ran is counted once. -/
  counted : ∀ s, collect results = .ok s → s.count .deployed + s.count .satisfied =
    Batches.slots (batches.map fun tag groups => groups.take (s.ran tag))
  /-- If no tag was stopped, these are all places. -/
  counted_all : ∀ s, collect results = .ok s →
    (∀ tag report, s.get? tag = some report → report.stopped = false) →
    s.count .deployed + s.count .satisfied = batches.slots
  /-- Agents without a memory do not let the pipelines depend on one another: a tag comes to the same
  when it is run alone, at any time and by any agents that answer and reply so. -/
  alone : ∀ answer replies, (∀ tag, (a tag).AnswersBy answer ∧ (a tag).RepliesBy replies) →
    ∀ (τ : Type) (b : Agents τ), b.AnswersBy answer → b.RepliesBy replies →
      ∀ tag groups p, (d.runTag b tag groups p).1 = d.pipeline a start tag groups

/-- Whatever is delivered in any order is aggregated so. -/
theorem Delivers.aggregates {a : Text → Agents σ} {start : Text → Progress σ} {batches : Batches}
    {results : List (Text × Except TaskError TagReport)}
    (h : d.Delivers a start batches results) : d.Aggregates a start batches results where
  succeeds_iff := h.succeeds_iff
  keys _ hs := h.keys_eq hs
  reports _ hs _ _ hg := h.exists_report hs hg
  order_free _ hs _ h' := collect_perm h.nodup (h'.trans h.symm) hs
  failure e he := by
    obtain ⟨tag, cause, rfl, hfirst⟩ := collectInto_eq_error he
    exact ⟨tag, cause, hfirst, rfl, rfl⟩
  single_failure _ _ _ := h.collect_eq_error
  counted _ hs := h.count_eq hs
  counted_all s hs hstop := by rw [h.count_eq hs, h.take_ran_eq hs hstop]
  alone answer replies ha τ b hb hr tag groups p := by
    rw [pipeline, runTag, runTag, runGroups_eq_tagResult hb hr,
      runGroups_eq_tagResult (ha tag).1 (ha tag).2]

/-- Whatever the order in which the pipelines deliver, the results are aggregated so, and those that
the pipelines of a run deliver are as well. The run collects these results if no tag holds a NUL;
with a NUL in a tag it panics, whatever its pipelines come to. -/
theorem collect_delivered {a : Text → Agents σ} {start : Text → Progress σ} {batches : Batches}
    {results : List (Text × Except TaskError TagReport)}
    (h : d.Delivers a start batches results) :
    d.Aggregates a start batches results ∧
      ∀ (b : Agents σ) (p : Progress σ),
        (batches.Startable → ∃ start' results', d.Delivers (fun _ => b) start' batches results' ∧
          d.Aggregates (fun _ => b) start' batches results' ∧
            (d.run b batches p).1 = collect results') ∧
        (¬ batches.Startable → ∃ tag ∈ batches.keys, '\x00' ∈ tag ∧
          (d.run b batches p).1 = .error (.panicked tag)) := by
  refine ⟨h.aggregates, fun b p => ⟨fun hstart => ?_, run_of_not_startable d b p⟩⟩
  obtain ⟨start', hd⟩ := runTags_delivers d b batches p
  rw [run_of_startable hstart]
  exact ⟨start', _, hd, hd.aggregates, rfl⟩

/-- Two tags with the same servers, one of them in groups of one. -/
def fleet : Batches := .ofList [("db", [["a"], ["b"]]), ("web", [["a", "b"]])]

/-- What shipping to them delivers, the last tag first: a server that is up to date is shipped to
when it shares its group with one that is not. -/
def fleetResults : List (Text × Except TaskError TagReport) :=
  [("web", .ok ⟨[[⟨"a", .deployed⟩, ⟨"b", .deployed⟩]], false⟩),
    ("db", .ok ⟨[[⟨"a", .satisfied⟩], [⟨"b", .deployed⟩]], false⟩)]

theorem collect_delivered_shipping :
    shipping.Delivers (fun _ => shippingAgents) (fun _ => ⟨(), []⟩) fleet fleetResults ∧
      shipping.Aggregates (fun _ => shippingAgents) (fun _ => ⟨(), []⟩) fleet fleetResults ∧
      fleet.Startable ∧ ∀ (b : Agents Unit) (p : Progress Unit), ∃ start' results',
        shipping.Delivers (fun _ => b) start' fleet results' ∧
          shipping.Aggregates (fun _ => b) start' fleet results' ∧
            (shipping.run b fleet p).1 = collect results' := by
  have h : shipping.Delivers (fun _ => shippingAgents) (fun _ => ⟨(), []⟩) fleet fleetResults := by
    unfold Delivers
    decide +kernel
  have hstart : fleet.Startable := by
    unfold Batches.Startable
    decide +kernel
  obtain ⟨haggregates, hrun⟩ := collect_delivered h
  exact ⟨h, haggregates, hstart, fun b p => (hrun b p).1 hstart⟩

/-- Say one word on every server. -/
def greeting : Deployment :=
  ⟨⟨.ofList [("deploy", ⟨[], ["echo 1"]⟩)], "deploy"⟩, ⟨[], ["echo 1"]⟩, .empty, []⟩

/-- A server whose tag is the NUL. -/
def nulTagged : Batches := .ofList [("\x00", [["10.0.0.1"]])]

/-- The pipeline of the tag succeeds, but the run does not: it panics. -/
theorem collect_delivered_panicked :
    Upfile.parse "deploy\n\techo 1\n" = .ok greeting.upfile ∧
      nulTagged.entries.map (fun e => greeting.pipeline (fun _ => shippingAgents)
        (fun _ => ⟨(), []⟩) e.1 e.2) = [.ok ⟨[[⟨"10.0.0.1", .deployed⟩]], false⟩] ∧
      (greeting.run shippingAgents nulTagged ⟨(), []⟩).1 = .error (.panicked "\x00") := by
  refine ⟨?_, ?_, ?_⟩ <;> decide +kernel

end Deployment

end Rollout
