import Rollout.Text.Basic

/-!
Finite maps whose keys are texts, as entries in strictly ascending key order. The order makes the
entries unique, so two maps with the same look-ups are equal (`eq_of_get?_eq`), and inserting is described
by `get?_insert` alone.
-/

namespace Rollout

/-- A finite map from texts, its entries in ascending order of their keys. -/
structure Dict (α : Type) where
  /-- The keys with their values. -/
  entries : List (Text × α)
  /-- Each key stands once and after all smaller ones. -/
  sorted : entries.Pairwise fun a b => a.1 < b.1

namespace Dict

variable {α β σ : Type}

instance [DecidableEq α] : DecidableEq (Dict α) := fun d e =>
  decidable_of_iff (d.entries = e.entries) (by cases d; cases e; simp)

/-! ### Order of texts -/

theorem lt_of_not_lt_of_ne {a b : Text} (h : ¬ a < b) (hne : a ≠ b) : b < a := by
  rcases List.le_iff_lt_or_eq.mp (List.not_lt.mp h) with h | h
  · exact h
  · exact absurd h.symm hne

/-! ### Building -/

/-- The map without entries. -/
def empty : Dict α := ⟨[], .nil⟩

instance : Inhabited (Dict α) := ⟨empty⟩

/-- Put an entry at its place, over an entry with the same key. -/
def insertEntry (k : Text) (v : α) : List (Text × α) → List (Text × α)
  | [] => [(k, v)]
  | e :: es => if k < e.1 then (k, v) :: e :: es else if k = e.1 then (k, v) :: es else e :: insertEntry k v es

theorem mem_insertEntry {k : Text} {v : α} {es : List (Text × α)} {e : Text × α}
    (h : e ∈ insertEntry k v es) : e = (k, v) ∨ e ∈ es := by
  induction es with
  | nil => simpa [insertEntry] using h
  | cons d ds ih =>
    rw [insertEntry] at h
    split at h
    · simpa using h
    · split at h <;> grind

theorem pairwise_insertEntry (k : Text) (v : α) {es : List (Text × α)}
    (h : es.Pairwise fun a b => a.1 < b.1) : (insertEntry k v es).Pairwise fun a b => a.1 < b.1 := by
  induction es with
  | nil => simp [insertEntry]
  | cons d ds ih =>
    obtain ⟨hd, hds⟩ := List.pairwise_cons.mp h
    rw [insertEntry]
    split
    · next hk =>
      refine List.pairwise_cons.mpr ⟨fun a ha => ?_, h⟩
      rcases List.mem_cons.mp ha with rfl | ha
      · exact hk
      · exact List.lt_trans hk (hd a ha)
    · next hk =>
      split
      · next he => exact List.pairwise_cons.mpr ⟨fun a ha => he ▸ hd a ha, hds⟩
      · next he =>
        refine List.pairwise_cons.mpr ⟨fun a ha => ?_, ih hds⟩
        rcases mem_insertEntry ha with rfl | ha
        · exact lt_of_not_lt_of_ne hk he
        · exact hd a ha

/-- The map with the key set to the value. -/
def insert (k : Text) (v : α) (d : Dict α) : Dict α :=
  ⟨insertEntry k v d.entries, pairwise_insertEntry k v d.sorted⟩

/-- Insert the pairs in order, so that the last value of a key stays. -/
def insertAll (d : Dict α) (es : List (Text × α)) : Dict α :=
  es.foldl (fun d e => d.insert e.1 e.2) d

/-- The map of the pairs; of several values of a key the last stays. -/
def ofList (es : List (Text × α)) : Dict α := empty.insertAll es

/-! ### Looking up -/

/-- The value that stands first beside the key. -/
def lookupEntry (k : Text) : List (Text × α) → Option α
  | [] => none
  | e :: es => if k = e.1 then some e.2 else lookupEntry k es

/-- The value of a key. -/
def get? (d : Dict α) (k : Text) : Option α := lookupEntry k d.entries

/-- Has the key a value? -/
def contains (d : Dict α) (k : Text) : Bool := (d.get? k).isSome

/-- The keys in ascending order. -/
def keys (d : Dict α) : List Text := d.entries.map (·.1)

/-- The values in the order of their keys. -/
def values (d : Dict α) : List α := d.entries.map (·.2)

/-- Is the map without entries? -/
def isEmpty (d : Dict α) : Bool := d.entries.isEmpty

/-! ### Transforming -/

/-- The entries that the test lets pass. -/
def filter (p : Text → α → Bool) (d : Dict α) : Dict α :=
  ⟨d.entries.filter fun e => p e.1 e.2, d.sorted.filter _⟩

/-- Change each value, knowing its key. -/
def map (f : Text → α → β) (d : Dict α) : Dict β :=
  ⟨d.entries.map fun e => (e.1, f e.1 e.2), List.pairwise_map.mpr d.sorted⟩

/-- Change the values of a list of entries one after another while a state runs through them. -/
def mapStateEntries (f : α → σ → β × σ) : List (Text × α) → σ → List (Text × β) × σ
  | [], s => ([], s)
  | (k, v) :: es, s =>
    let (w, s') := f v s
    let (ws, s'') := mapStateEntries f es s'
    ((k, w) :: ws, s'')

theorem map_fst_mapStateEntries (f : α → σ → β × σ) (es : List (Text × α)) (s : σ) :
    (mapStateEntries f es s).1.map (·.1) = es.map (·.1) := by
  induction es generalizing s with
  | nil => rfl
  | cons e es ih => simp [mapStateEntries, ih]

/-- Change the values in the order of their keys while a state runs through them. -/
def mapState (f : α → σ → β × σ) (d : Dict α) (s : σ) : Dict β × σ :=
  (⟨(mapStateEntries f d.entries s).1, by
    have h : (d.entries.map (·.1)).Pairwise (· < ·) := List.pairwise_map.mpr d.sorted
    rw [← map_fst_mapStateEntries f d.entries s] at h
    exact List.pairwise_map.mp h⟩,
   (mapStateEntries f d.entries s).2)

/-! ### Laws of look-up -/

@[simp] theorem get?_empty (k : Text) : (empty : Dict α).get? k = none := rfl

theorem lookupEntry_insertEntry (k j : Text) (v : α) (es : List (Text × α)) :
    lookupEntry j (insertEntry k v es) = if j = k then some v else lookupEntry j es := by
  induction es with
  | nil => simp [insertEntry, lookupEntry]
  | cons d ds ih =>
    rw [insertEntry]
    split
    · simp [lookupEntry]
    · split
      · next he => by_cases hj : j = k <;> simp_all [lookupEntry]
      · next he => by_cases hj : j = d.1 <;> grind [lookupEntry]

theorem get?_insert (d : Dict α) (k j : Text) (v : α) :
    (d.insert k v).get? j = if j = k then some v else d.get? j :=
  lookupEntry_insertEntry k j v d.entries

@[simp] theorem get?_insert_self (d : Dict α) (k : Text) (v : α) : (d.insert k v).get? k = some v := by
  simp [get?_insert]

theorem lookupEntry_eq_some_iff {es : List (Text × α)} (h : es.Pairwise fun a b => a.1 < b.1) {k : Text}
    {v : α} : lookupEntry k es = some v ↔ (k, v) ∈ es := by
  induction es with
  | nil => simp [lookupEntry]
  | cons d ds ih =>
    obtain ⟨hd, hds⟩ := List.pairwise_cons.mp h
    rw [lookupEntry]
    split
    · next hk =>
      have : (k, v) ∉ ds := fun hw => List.lt_irrefl _ (hk ▸ hd _ hw)
      obtain ⟨dk, dv⟩ := d
      simp_all [eq_comm]
    · next hk => grind

theorem get?_eq_some_iff {d : Dict α} {k : Text} {v : α} : d.get? k = some v ↔ (k, v) ∈ d.entries :=
  lookupEntry_eq_some_iff d.sorted

theorem eq_of_mem_iff {es fs : List (Text × α)} (he : es.Pairwise fun a b => a.1 < b.1)
    (hf : fs.Pairwise fun a b => a.1 < b.1) (h : ∀ e, e ∈ es ↔ e ∈ fs) : es = fs := by
  induction es generalizing fs with
  | nil =>
    cases fs with
    | nil => rfl
    | cons f fs => exact absurd ((h f).mpr (List.mem_cons_self ..)) (by simp)
  | cons e es ih =>
    cases fs with
    | nil => exact absurd ((h e).mp (List.mem_cons_self ..)) (by simp)
    | cons f fs =>
      obtain ⟨he₁, he₂⟩ := List.pairwise_cons.mp he
      obtain ⟨hf₁, hf₂⟩ := List.pairwise_cons.mp hf
      have hef : e = f := by
        rcases List.mem_cons.mp ((h e).mp (List.mem_cons_self ..)) with hm | hm
        · exact hm
        · rcases List.mem_cons.mp ((h f).mpr (List.mem_cons_self ..)) with hn | hn
          · exact hn.symm
          · exact absurd (List.lt_trans (he₁ _ hn) (hf₁ _ hm)) (List.lt_irrefl _)
      subst hef
      refine congrArg (e :: ·) (ih he₂ hf₂ fun d => ⟨fun hd => ?_, fun hd => ?_⟩)
      · rcases List.mem_cons.mp ((h d).mp (List.mem_cons_of_mem _ hd)) with hm | hm
        · exact absurd (hm ▸ he₁ d hd) (List.lt_irrefl _)
        · exact hm
      · rcases List.mem_cons.mp ((h d).mpr (List.mem_cons_of_mem _ hd)) with hm | hm
        · exact absurd (hm ▸ hf₁ d hd) (List.lt_irrefl _)
        · exact hm

theorem eq_of_get?_eq {d e : Dict α} (h : ∀ k, d.get? k = e.get? k) : d = e := by
  have hs : d.entries = e.entries := eq_of_mem_iff d.sorted e.sorted fun p => by
    rw [← get?_eq_some_iff, ← get?_eq_some_iff, h]
  cases d
  cases e
  cases hs
  rfl

theorem contains_iff_mem_keys {d : Dict α} {k : Text} : d.contains k = true ↔ k ∈ d.keys := by
  rw [contains, Option.isSome_iff_exists]
  simp [get?_eq_some_iff, keys]

theorem keys_map (f : Text → α → β) (d : Dict α) : (d.map f).keys = d.keys := by
  simp [keys, map]

theorem keys_mapState (f : α → σ → β × σ) (d : Dict α) (s : σ) : (d.mapState f s).1.keys = d.keys :=
  map_fst_mapStateEntries f d.entries s

end Dict

end Rollout
