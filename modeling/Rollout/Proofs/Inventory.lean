import Rollout.Inventory.Basic
import Rollout.Proofs.Dict
import Rollout.Proofs.Utf8

/-!
Turning an inventory around and narrowing it. The hosts of a tag are those that list it, each once
and in ascending order, however often they repeat it (`get?_hostsByTag`). An inventory that was
narrowed to a selection lists just the wanted tags of each host (`lists_of_select`), so turned
around it is the inventory turned around and narrowed, and narrowing fails for what the inventory as
a whole does not have (`select_turned_around`).
-/

namespace Rollout

namespace Inventory

/-- The inventory lists the tag for the host. -/
def Lists (inv : Inventory) (host tag : Text) : Prop :=
  ∃ tags, inv.hosts.get? host = some tags ∧ tag ∈ tags

/-- What is listed is found by look-up. -/
instance (inv : Inventory) (host tag : Text) : Decidable (inv.Lists host tag) :=
  decidable_of_iff (((inv.hosts.get? host).getD []).contains tag = true) (by
    cases h : inv.hosts.get? host <;> simp [Lists, h])

/-- The hosts among the entries that list the tag. -/
def carriersAmong (tag : Text) (es : List (Text × List Text)) : List Text :=
  (es.filter fun e => e.2.contains tag).map (·.1)

/-- The hosts that list the tag, in ascending order. -/
def carriers (inv : Inventory) (tag : Text) : List Text := carriersAmong tag inv.hosts.entries

/-! ### Hosts of a tag -/

/-- The hosts that a tag comes to have where it had some, or none at all, before. -/
def grown (known : Option (List Text)) (hosts : List Text) : Option (List Text) :=
  if hosts = [] then known else some (known.getD [] ++ hosts)

theorem grown_grown (known : Option (List Text)) (hosts hosts' : List Text) :
    grown (grown known hosts) hosts' = grown known (hosts ++ hosts') := by
  cases hosts <;> cases hosts' <;> simp [grown]

theorem getD_grown (known : Option (List Text)) (hosts : List Text) :
    (grown known hosts).getD [] = known.getD [] ++ hosts := by
  cases hosts <;> simp [grown]

theorem get?_addHost (host tag t : Text) (byTag : Dict (List Text)) :
    (addHost host byTag tag).get? t =
      grown (byTag.get? t) (if t = tag ∧ host ∉ (byTag.get? t).getD [] then [host] else []) := by
  unfold addHost
  by_cases ht : t = tag
  · by_cases hm : host ∈ (byTag.get? tag).getD [] <;> simp [hm, ht, grown]
  · by_cases hm : host ∈ (byTag.get? tag).getD [] <;> simp [hm, ht, grown, Dict.get?_insert]

/-- A host comes to each of its tags once, also where it repeats one. -/
theorem get?_foldl_addHost (host t : Text) : ∀ (tags : List Text) (byTag : Dict (List Text)),
    (tags.foldl (addHost host) byTag).get? t =
      grown (byTag.get? t) (if t ∈ tags ∧ host ∉ (byTag.get? t).getD [] then [host] else [])
  | [], byTag => by simp [grown]
  | tag :: tags, byTag => by
    rw [List.foldl_cons, get?_foldl_addHost host t tags, get?_addHost, grown_grown, getD_grown]
    by_cases hm : host ∈ (byTag.get? t).getD []
    · simp [hm]
    · by_cases ht : t = tag <;> simp [hm, ht]

/-- Entries of hosts that are not known yet add their hosts to each of their tags, in order. -/
theorem get?_foldl_entries (t : Text) : ∀ {es : List (Text × List Text)} {byTag : Dict (List Text)},
    (es.map (·.1)).Nodup → (∀ host ∈ es.map (·.1), host ∉ (byTag.get? t).getD []) →
    (es.foldl (fun byTag e => e.2.foldl (addHost e.1) byTag) byTag).get? t =
      grown (byTag.get? t) (carriersAmong t es)
  | [], byTag, _, _ => by simp [carriersAmong, grown]
  | e :: es, byTag, hn, hf => by
    obtain ⟨hne, hn⟩ := List.nodup_cons.mp hn
    obtain ⟨hfe, hf⟩ := List.forall_mem_cons.mp hf
    have hg := get?_foldl_addHost e.1 t e.2 byTag
    rw [List.foldl_cons, get?_foldl_entries t hn, hg, grown_grown]
    · by_cases ht : t ∈ e.2 <;> simp [carriersAmong, ht, hfe]
    · intro host hh
      rw [hg, getD_grown, List.mem_append, not_or]
      refine ⟨hf host hh, fun hm => hne ?_⟩
      split at hm
      · obtain rfl := List.mem_singleton.mp hm
        exact hh
      · cases hm

/-- A tag has the hosts that list it; a tag that no host lists is not there. -/
theorem get?_hostsByTag (inv : Inventory) (tag : Text) :
    inv.hostsByTag.get? tag = if inv.carriers tag = [] then none else some (inv.carriers tag) := by
  rw [hostsByTag, get?_foldl_entries tag inv.hosts.nodup_keys (by simp), Dict.get?_empty]
  rfl

/-- A tag that is there has all hosts that list it, and at least one. -/
theorem get?_hostsByTag_eq_some {inv : Inventory} {tag : Text} {hosts : List Text}
    (h : inv.hostsByTag.get? tag = some hosts) : hosts = inv.carriers tag ∧ hosts ≠ [] := by
  rw [get?_hostsByTag] at h
  split at h
  · cases h
  · next hne => cases h; exact ⟨rfl, hne⟩

theorem mem_carriers_iff {inv : Inventory} {host tag : Text} :
    host ∈ inv.carriers tag ↔ inv.Lists host tag := by
  simp [carriers, carriersAmong, Lists, Dict.get?_eq_some_iff]

/-- No host is there twice. -/
theorem nodup_carriers (inv : Inventory) (tag : Text) : (inv.carriers tag).Nodup :=
  inv.hosts.nodup_keys.sublist (List.filter_sublist.map _)

/-- The tags that have hosts are those that some host lists. -/
theorem mem_keys_hostsByTag_iff {inv : Inventory} {tag : Text} :
    tag ∈ inv.hostsByTag.keys ↔ ∃ host, inv.Lists host tag := by
  rw [Dict.mem_keys_iff, get?_hostsByTag]
  constructor
  · rintro ⟨hosts, h⟩
    split at h
    · cases h
    · next hne =>
      obtain ⟨host, hh⟩ := List.exists_mem_of_ne_nil _ hne
      exact ⟨host, mem_carriers_iff.mp hh⟩
  · rintro ⟨host, hl⟩
    exact ⟨_, if_neg (List.ne_nil_of_mem (mem_carriers_iff.mpr hl))⟩

/-! ### Narrowing -/

/-- A host keeps its wanted tags, and is dropped if it has none. -/
theorem get?_narrow (inv : Inventory) (s : TagSelection) (host : Text) :
    (inv.narrow s).hosts.get? host =
      ((inv.hosts.get? host).map fun tags => tags.filter s.contains).filter fun tags =>
        !tags.isEmpty := by
  rw [narrow, Dict.get?_filter, Dict.get?_map]

theorem lists_narrow_iff {inv : Inventory} {s : TagSelection} {host tag : Text} :
    (inv.narrow s).Lists host tag ↔ s.contains tag = true ∧ inv.Lists host tag := by
  simp only [Lists, get?_narrow, Option.filter_eq_some_iff, Option.map_eq_some_iff]
  constructor
  · rintro ⟨-, ⟨⟨tags, ht, rfl⟩, -⟩, hm⟩
    obtain ⟨hm, hs⟩ := List.mem_filter.mp hm
    exact ⟨hs, tags, ht, hm⟩
  · rintro ⟨hs, tags, ht, hm⟩
    have hf : tag ∈ tags.filter s.contains := List.mem_filter.mpr ⟨hm, hs⟩
    exact ⟨_, ⟨⟨tags, ht, rfl⟩, by simpa using List.ne_nil_of_mem hf⟩, hf⟩

/-- Some host is left if and only if some host lists a wanted tag. -/
theorem isEmpty_narrow_eq_false_iff {inv : Inventory} {s : TagSelection} :
    (inv.narrow s).hosts.isEmpty = false ↔
      ∃ host tag, s.contains tag = true ∧ inv.Lists host tag := by
  constructor
  · intro h
    obtain ⟨⟨host, tags⟩, hm⟩ := List.exists_mem_of_ne_nil _ (List.isEmpty_eq_false_iff.mp h)
    have hg := Dict.get?_eq_some_iff.mpr hm
    have ht := hg
    rw [get?_narrow, Option.filter_eq_some_iff] at ht
    obtain ⟨tag, ht⟩ := List.exists_mem_of_ne_nil tags (by simpa using ht.2)
    exact ⟨host, tag, lists_narrow_iff.mp ⟨tags, hg, ht⟩⟩
  · rintro ⟨host, tag, h⟩
    obtain ⟨tags, hg, -⟩ := lists_narrow_iff.mpr h
    exact Dict.isEmpty_eq_false_of_mem_keys (Dict.mem_keys_iff.mpr ⟨tags, hg⟩)

/-- A selection that succeeds narrows the inventory, and some host is left. -/
theorem select_eq_ok {inv selected : Inventory} {s : TagSelection}
    (h : inv.select s = .ok selected) :
    selected = inv.narrow s ∧ selected.hosts.isEmpty = false := by
  simp only [select] at h
  split at h
  · cases h
  · split at h
    · cases h
    · split at h
      · cases h
      · next hne =>
        cases h
        exact ⟨rfl, Bool.eq_false_iff.mpr hne⟩

/-- An inventory narrowed to a selection lists the wanted tags of each host, and no others. -/
theorem lists_of_select {inv selected : Inventory} {s : TagSelection}
    (h : inv.select s = .ok selected) {host tag : Text} :
    selected.Lists host tag ↔ s.contains tag = true ∧ inv.Lists host tag := by
  rw [(select_eq_ok h).1, lists_narrow_iff]

/-- After a selection that succeeds some host lists some tag. -/
theorem exists_lists_of_select {inv selected : Inventory} {s : TagSelection}
    (h : inv.select s = .ok selected) : ∃ host tag, selected.Lists host tag := by
  obtain ⟨rfl, hne⟩ := select_eq_ok h
  obtain ⟨host, tag, hl⟩ := isEmpty_narrow_eq_false_iff.mp hne
  exact ⟨host, tag, lists_narrow_iff.mpr hl⟩

/-! ### Narrowed and turned around -/

/-- After narrowing, a wanted tag has the hosts that it had before, and any other has none. -/
theorem carriers_narrow (inv : Inventory) (s : TagSelection) (tag : Text) :
    (inv.narrow s).carriers tag = if s.contains tag then inv.carriers tag else [] := by
  -- a host that keeps the tag is not dropped
  have hkept : ∀ e : Text × List Text,
      ((e.2.filter s.contains).contains tag && !(e.2.filter s.contains).isEmpty) =
        (s.contains tag && e.2.contains tag) := fun e => by
    rw [Bool.eq_iff_iff]
    simp only [Bool.and_eq_true, List.contains_iff_mem, List.mem_filter, Bool.not_eq_true',
      List.isEmpty_eq_false_iff]
    exact ⟨fun h => h.1.symm, fun h => ⟨h.symm, List.ne_nil_of_mem (List.mem_filter.mpr h.symm)⟩⟩
  simp only [carriers, carriersAmong, narrow, Dict.filter, Dict.map, List.filter_filter,
    List.filter_map, List.map_map, Function.comp_def, hkept]
  cases s.contains tag <;> simp

/-- Turning around commutes with narrowing. -/
theorem hostsByTag_narrow (inv : Inventory) (s : TagSelection) :
    (inv.narrow s).hostsByTag = inv.hostsByTag.filter fun tag _ => s.contains tag := by
  refine Dict.eq_of_get?_eq fun tag => ?_
  rw [Dict.get?_filter, get?_hostsByTag, get?_hostsByTag, carriers_narrow]
  cases s.contains tag <;> by_cases hc : inv.carriers tag = [] <;> simp [hc, Option.filter]

/-! ### Failures -/

/-- The texts are those of the set, each once, in ascending order of their bytes. -/
structure Enumerates (ts : List Text) (P : Text → Prop) : Prop where
  /-- Each text stands before those with greater bytes. -/
  ascending : ts.Pairwise fun t u => Utf8.encode t < Utf8.encode u
  /-- All texts of the set are there, and no others. -/
  mem_iff : ∀ t, t ∈ ts ↔ P t

/-- Some host lists the tag that no host may carry. -/
def ListsAll (inv : Inventory) : Prop := ∃ host, inv.Lists host allTag

/-- The tag is asked for by name, and no host carries it. -/
def Undefined (inv : Inventory) (s : TagSelection) (tag : Text) : Prop :=
  ∃ wanted, s = .only wanted ∧ tag ∈ wanted.keys ∧ tag ∉ inv.hostsByTag.keys

theorem mem_allTags_iff {inv : Inventory} {tag : Text} :
    tag ∈ inv.allTags ↔ ∃ host, inv.Lists host tag := by
  simp only [allTags, List.mem_flatten, Dict.mem_values_iff, Lists]
  exact ⟨fun ⟨tags, ⟨host, hg⟩, hm⟩ => ⟨host, tags, hg, hm⟩,
    fun ⟨host, tags, hg, hm⟩ => ⟨tags, ⟨host, hg⟩, hm⟩⟩

theorem ascending_keys {α : Type} (d : Dict α) :
    d.keys.Pairwise fun t u => Utf8.encode t < Utf8.encode u :=
  List.pairwise_map.mpr (d.sorted.imp Utf8.encode_lt_encode)

/-- What is missing after narrowing is what is undefined before. -/
theorem enumerates_missing (inv : Inventory) (s : TagSelection) :
    Enumerates ((inv.narrow s).missing s) (inv.Undefined s) := by
  cases s with
  | all => exact ⟨.nil, fun tag => ⟨nofun, fun ⟨_, hs, _⟩ => nomatch hs⟩⟩
  | only wanted =>
    refine ⟨(ascending_keys wanted).sublist List.filter_sublist, fun tag => ?_⟩
    rw [missing, List.mem_filter, Bool.not_eq_true', ← Bool.not_eq_true, List.contains_iff_mem,
      mem_allTags_iff]
    simp only [lists_narrow_iff, exists_and_left, ← mem_keys_hostsByTag_iff]
    constructor
    · rintro ⟨hw, hno⟩
      exact ⟨wanted, rfl, hw, fun h => hno ⟨Dict.contains_iff_mem_keys.mpr hw, h⟩⟩
    · rintro ⟨_, hs, hw, hno⟩
      cases hs
      exact ⟨hw, fun h => hno h.2⟩

/-- The ways in which a selection can end, each with the reason for it. -/
inductive SelectEnds (inv : Inventory) (s : TagSelection) : Except SelectError Inventory → Prop
  | reserved (hr : inv.ListsAll) : SelectEnds inv s (.error .reservedTag)
  | undefined (hr : ¬ inv.ListsAll) (hu : ∃ tag, inv.Undefined s tag) :
    SelectEnds inv s (.error (.undefinedTags ((inv.narrow s).missing s)))
  | noHosts (hr : ¬ inv.ListsAll) (hu : ¬ ∃ tag, inv.Undefined s tag)
    (hl : ¬ ∃ host tag, s.contains tag = true ∧ inv.Lists host tag) :
    SelectEnds inv s (.error .noHosts)
  | narrowed (hr : ¬ inv.ListsAll) (hu : ¬ ∃ tag, inv.Undefined s tag)
    (hl : ∃ host tag, s.contains tag = true ∧ inv.Lists host tag) :
    SelectEnds inv s (.ok (inv.narrow s))

theorem selectEnds_select (inv : Inventory) (s : TagSelection) :
    inv.SelectEnds s (inv.select s) := by
  have hall : inv.allTags.contains allTag = true ↔ inv.ListsAll := by
    rw [List.contains_iff_mem, mem_allTags_iff, ListsAll]
  have hmissing : (inv.narrow s).missing s = [] ↔ ¬ ∃ tag, inv.Undefined s tag := by
    rw [List.eq_nil_iff_forall_not_mem, not_exists]
    exact forall_congr' fun tag => not_congr ((enumerates_missing inv s).mem_iff tag)
  rw [select]
  by_cases hr : inv.ListsAll
  · rw [if_pos (hall.mpr hr)]
    exact .reserved hr
  rw [if_neg (mt hall.mp hr)]
  by_cases hu : ∃ tag, inv.Undefined s tag
  · dsimp only
    rw [if_pos fun h => hmissing.mp h hu]
    exact .undefined hr hu
  dsimp only
  rw [if_neg (not_not_intro (hmissing.mpr hu))]
  cases he : (inv.narrow s).hosts.isEmpty with
  | true => exact .noHosts hr hu fun hl => by simp [isEmpty_narrow_eq_false_iff.mpr hl] at he
  | false => exact .narrowed hr hu (isEmpty_narrow_eq_false_iff.mp he)

/-- Turned around, an inventory has the tags that some host lists, each with the hosts that list it,
in order. A selection is refused for a host that lists the tag for all tags; else for wanted tags
that the inventory does not have, and these are named in order; else if no host lists a wanted tag.
If it succeeds, what is left is, turned around, the inventory turned around and narrowed to the
wanted tags, and each host that is left keeps its wanted tags as they are listed. -/
theorem select_turned_around (inv : Inventory) (s : TagSelection) :
    (∀ tag, tag ∈ inv.hostsByTag.keys ↔ ∃ host, inv.Lists host tag) ∧
    (∀ tag hosts, inv.hostsByTag.get? tag = some hosts → Enumerates hosts (inv.Lists · tag)) ∧
    (inv.select s = .error .reservedTag ↔ inv.ListsAll) ∧
    ((∃ tags, inv.select s = .error (.undefinedTags tags)) ↔
      ¬ inv.ListsAll ∧ ∃ tag, inv.Undefined s tag) ∧
    (∀ tags, inv.select s = .error (.undefinedTags tags) → Enumerates tags (inv.Undefined s)) ∧
    (inv.select s = .error .noHosts ↔ ¬ inv.ListsAll ∧ (¬ ∃ tag, inv.Undefined s tag) ∧
      ¬ ∃ host tag, s.contains tag = true ∧ inv.Lists host tag) ∧
    ∀ selected, inv.select s = .ok selected →
      selected.hostsByTag = inv.hostsByTag.filter (fun tag _ => s.contains tag) ∧
      ∀ host tags, selected.hosts.get? host = some tags →
        tags ≠ [] ∧ ∃ listed, inv.hosts.get? host = some listed ∧
          tags = listed.filter s.contains := by
  have hends := selectEnds_select inv s
  refine ⟨fun tag => mem_keys_hostsByTag_iff, fun tag hosts h => ?_, ?_, ?_, fun tags h => ?_, ?_,
    fun selected h => ?_⟩
  · obtain ⟨rfl, -⟩ := get?_hostsByTag_eq_some h
    exact ⟨(ascending_keys inv.hosts).sublist (List.filter_sublist.map _),
      fun host => mem_carriers_iff⟩
  · generalize inv.select s = r at hends
    cases hends <;> simp [*]
  · generalize inv.select s = r at hends
    cases hends <;> simp [*]
  · rw [h] at hends
    cases hends
    exact enumerates_missing inv s
  · generalize inv.select s = r at hends
    cases hends <;> simp [*]
  · obtain ⟨rfl, -⟩ := select_eq_ok h
    refine ⟨hostsByTag_narrow inv s, fun host tags hg => ?_⟩
    rw [get?_narrow, Option.filter_eq_some_iff, Option.map_eq_some_iff] at hg
    obtain ⟨⟨listed, hl, rfl⟩, hne⟩ := hg
    exact ⟨by simpa using hne, listed, hl, rfl⟩

end Inventory

end Rollout
