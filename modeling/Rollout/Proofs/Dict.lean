import Rollout.Dict

/-!
Keys and values by look-up, and inserting many pairs. The pairs of a map, inserted into the empty
one in whatever order, give the map back (`ofList_eq_of_mem_iff`).
-/

namespace Rollout

namespace Dict

variable {α : Type}

/-! ### Keys and values -/

theorem mem_keys_iff {d : Dict α} {k : Text} : k ∈ d.keys ↔ ∃ v, d.get? k = some v := by
  rw [← contains_iff_mem_keys, contains, Option.isSome_iff_exists]

/-- Keys are found by look-up. -/
instance (d : Dict α) (k : Text) : Decidable (k ∈ d.keys) :=
  decidable_of_iff (d.contains k = true) contains_iff_mem_keys

theorem forall_mem_keys {d : Dict α} {P : Text → Prop} :
    (∀ k ∈ d.keys, P k) ↔ ∀ e ∈ d.entries, P e.1 :=
  List.forall_mem_map

theorem mem_values_iff {d : Dict α} {v : α} : v ∈ d.values ↔ ∃ k, d.get? k = some v := by
  simp [values, get?_eq_some_iff]

theorem get?_eq_none_iff {d : Dict α} {k : Text} : d.get? k = none ↔ k ∉ d.keys := by
  rw [← contains_iff_mem_keys, contains, Bool.not_eq_true, Option.isSome_eq_false_iff,
    Option.isNone_iff_eq_none]

/-- Maps differ under nothing but their keys. -/
theorem mem_keys_of_get?_ne {d e : Dict α} {k : Text} (h : d.get? k ≠ e.get? k) :
    k ∈ d.keys ++ e.keys := by
  refine Classical.byContradiction fun hk => ?_
  rw [List.mem_append, not_or] at hk
  exact h ((get?_eq_none_iff.mpr hk.1).trans (get?_eq_none_iff.mpr hk.2).symm)

theorem isEmpty_eq_false_of_mem_keys {d : Dict α} {k : Text} (h : k ∈ d.keys) :
    d.isEmpty = false :=
  List.isEmpty_eq_false_iff.mpr fun he => by simp [keys, he] at h

theorem mem_keys_insert {d : Dict α} {k j : Text} {v : α} :
    j ∈ (d.insert k v).keys ↔ j = k ∨ j ∈ d.keys := by
  rw [mem_keys_iff, mem_keys_iff, get?_insert]
  split <;> simp [*]

/-- A set of texts is told by its members. -/
theorem eq_of_mem_keys_iff {d e : Dict Unit} (h : ∀ k, k ∈ d.keys ↔ k ∈ e.keys) : d = e :=
  eq_of_get?_eq fun k => by
    have hk : (d.get? k).isSome = (e.get? k).isSome := Bool.eq_iff_iff.mpr <|
      contains_iff_mem_keys.trans ((h k).trans contains_iff_mem_keys.symm)
    cases hd : d.get? k <;> cases he : e.get? k <;> simp_all

/-! ### Transformed maps -/

variable {β σ : Type}

theorem get?_filter (p : Text → α → Bool) (d : Dict α) (k : Text) :
    (d.filter p).get? k = (d.get? k).filter (p k) := by
  refine Option.ext fun v => ?_
  simp [get?_eq_some_iff, filter, Option.filter_eq_some_iff]

theorem get?_map (f : Text → α → β) (d : Dict α) (k : Text) :
    (d.map f).get? k = (d.get? k).map (f k) := by
  refine Option.ext fun w => ?_
  simp only [get?_eq_some_iff, map, Option.map_eq_some_iff, List.mem_map, Prod.mk.injEq]
  constructor
  · rintro ⟨⟨j, v⟩, hm, rfl, rfl⟩
    exact ⟨v, hm, rfl⟩
  · rintro ⟨v, hm, rfl⟩
    exact ⟨(k, v), hm, rfl, rfl⟩

/-- A map with the same keys, whose values are the changed ones. -/
theorem map_eq_of_keys_eq {f : Text → α → β} {d : Dict α} {e : Dict β} (hk : d.keys = e.keys)
    (h : ∀ k v, d.get? k = some v → e.get? k = some (f k v)) : d.map f = e := by
  refine eq_of_get?_eq fun k => ?_
  rw [get?_map]
  cases hv : d.get? k with
  | some v => exact (h k v hv).symm
  | none => exact (get?_eq_none_iff.mpr (hk ▸ get?_eq_none_iff.mp hv)).symm

theorem mem_mapStateEntries {f : α → σ → β × σ} {k : Text} {v : α} :
    ∀ {es : List (Text × α)} {s : σ}, (k, v) ∈ es →
      ∃ s', (k, (f v s').1) ∈ (mapStateEntries f es s).1
  | e :: es, s, h => by
    rcases List.mem_cons.mp h with rfl | h
    · exact ⟨s, List.mem_cons_self ..⟩
    · obtain ⟨s', hs'⟩ := mem_mapStateEntries (s := (f e.2 s).2) h
      exact ⟨s', List.mem_cons_of_mem _ hs'⟩

/-- Each value is changed in some state. -/
theorem get?_mapState {f : α → σ → β × σ} {d : Dict α} {k : Text} {v : α} (s : σ)
    (h : d.get? k = some v) : ∃ s', (d.mapState f s).1.get? k = some (f v s').1 := by
  obtain ⟨s', hs'⟩ := mem_mapStateEntries (f := f) (s := s) (get?_eq_some_iff.mp h)
  exact ⟨s', get?_eq_some_iff.mpr hs'⟩

/-! ### Inserting many pairs -/

/-- Of the values inserted for a key the last one is found; without any, what was there before. -/
theorem get?_insertAll (k : Text) : ∀ (es : List (Text × α)) (d : Dict α),
    (d.insertAll es).get? k = (es.reverse.lookup k).or (d.get? k)
  | [], _ => rfl
  | (j, v) :: es, d => by
    change ((d.insert j v).insertAll es).get? k = _
    rw [get?_insertAll k es, get?_insert, List.reverse_cons, List.lookup_append, Option.or_assoc,
      List.lookup_cons]
    by_cases hk : k = j
    · simp [hk]
    · simp [hk, beq_false_of_ne hk]

theorem mem_keys_insertAll {k : Text} : ∀ {es : List (Text × α)} {d : Dict α},
    k ∈ (d.insertAll es).keys ↔ k ∈ es.map (·.1) ∨ k ∈ d.keys
  | [], d => by simp [insertAll]
  | (j, v) :: es, d => by
    change k ∈ ((d.insert j v).insertAll es).keys ↔ _
    rw [mem_keys_insertAll, mem_keys_insert, List.map_cons, List.mem_cons]
    exact or_left_comm.trans or_assoc.symm

/-- Pairs with other keys do not change what is found under a key. -/
theorem get?_insertAll_of_forall_ne {k : Text} {es : List (Text × α)} (d : Dict α)
    (h : ∀ e ∈ es, e.1 ≠ k) : (d.insertAll es).get? k = d.get? k := by
  have hnone : es.reverse.lookup k = none :=
    List.lookup_eq_none_iff.mpr fun e he => bne_iff_ne.mpr (h e (List.mem_reverse.mp he)).symm
  rw [get?_insertAll, hnone, Option.none_or]

/-- Among pairs with different keys each one is found again. -/
theorem get?_insertAll_of_mem {k : Text} {v : α} : ∀ {es : List (Text × α)} (d : Dict α),
    (es.map (·.1)).Nodup → (k, v) ∈ es → (d.insertAll es).get? k = some v
  | e :: es, d, hs, h => by
    obtain ⟨he, hes⟩ := List.nodup_cons.mp hs
    change ((d.insert e.1 e.2).insertAll es).get? k = some v
    rcases List.mem_cons.mp h with rfl | h
    · rw [get?_insertAll_of_forall_ne _ fun f hf => ?_, get?_insert_self]
      exact fun hk => he (hk ▸ List.mem_map.mpr ⟨f, hf, rfl⟩)
    · exact get?_insertAll_of_mem _ hes h

/-- No key occurs twice. -/
theorem nodup_keys (d : Dict α) : d.keys.Nodup :=
  List.pairwise_map.mpr (d.sorted.imp fun {a b} (h : a.1 < b.1) (he : a.1 = b.1) =>
    List.lt_irrefl b.1 (he ▸ h))

/-- The entries of a map, inserted into another one, win over what is there. -/
theorem get?_insertAll_entries (d e : Dict α) (k : Text) :
    (d.insertAll e.entries).get? k = (e.get? k).or (d.get? k) := by
  cases h : e.get? k with
  | some v => exact get?_insertAll_of_mem d e.nodup_keys (get?_eq_some_iff.mp h)
  | none =>
    refine get?_insertAll_of_forall_ne d fun x hx hk => get?_eq_none_iff.mp h ?_
    exact hk ▸ List.mem_map.mpr ⟨x, hx, rfl⟩

/-- What is found among pairs with different keys is what is there. -/
theorem get?_ofList_eq_some_iff {es : List (Text × α)} (hn : (es.map (·.1)).Nodup) {k : Text}
    {v : α} :
    (ofList es).get? k = some v ↔ (k, v) ∈ es := by
  refine ⟨fun h => ?_, get?_insertAll_of_mem empty hn⟩
  by_cases hk : k ∈ es.map (·.1)
  · obtain ⟨⟨_, w⟩, hm, rfl⟩ := List.mem_map.mp hk
    have hw := get?_insertAll_of_mem empty hn hm
    cases hw.symm.trans h
    exact hm
  · have hnone := get?_insertAll_of_forall_ne empty fun e he hek =>
      hk (List.mem_map.mpr ⟨e, he, hek⟩)
    cases hnone.symm.trans h

/-- Pairs with different keys, in whatever order, make up the map that has just these pairs. -/
theorem ofList_eq_of_mem_iff {es : List (Text × α)} {d : Dict α} (hn : (es.map (·.1)).Nodup)
    (h : ∀ k v, (k, v) ∈ es ↔ d.get? k = some v) : ofList es = d :=
  eq_of_get?_eq fun k => Option.ext fun v => (get?_ofList_eq_some_iff hn).trans (h k v)

/-- The entries of a map give the map back. -/
theorem ofList_entries (d : Dict α) : ofList d.entries = d :=
  ofList_eq_of_mem_iff d.nodup_keys fun _ _ => get?_eq_some_iff.symm

end Dict

end Rollout
