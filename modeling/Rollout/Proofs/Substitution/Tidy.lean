import Mathlib.Data.List.TakeWhile
import Rollout.Proofs.Substitution.Pass

/-!
Tidy texts. If all names are words over an alphabet, the longest word after a dollar sign is where a
reference can be. A text is tidy if each of these words is a visible name or does not start with
one, and no dollar sign follows right after it. A pass over a tidy text with tidy values inserts
nothing that grows together with what surrounds it: the result is tidy (`tidy_pass`), and its
references are those of the values that were inserted (`references_pass`).
-/

namespace Rollout

/-- All names are words over the alphabet, which does not have the dollar sign. -/
structure Alphabet (W : Char → Bool) (table : Dict Text) : Prop where
  /-- The dollar sign is no character of the alphabet. -/
  dollar : W '$' = false
  /-- No name is empty. -/
  ne_nil : ∀ name ∈ table.keys, name ≠ []
  /-- All characters of names are in the alphabet. -/
  word : ∀ name ∈ table.keys, ∀ c ∈ name, W c = true

/-- The longest word at the start of the text, which follows a dollar sign, is a visible name or
does not start with one, and no dollar sign comes next. -/
def TidyAfterDollar (W : Char → Bool) (table : Dict Text) (t : Text) : Prop :=
  (t.dropWhile W).head? ≠ some '$' ∧
    (t.takeWhile W ∈ table.keys ∨ ∀ name ∈ table.keys, ¬ name <+: t.takeWhile W)

/-- After each dollar sign the text is tidy. -/
def Tidy (W : Char → Bool) (table : Dict Text) : Text → Prop
  | [] => True
  | c :: cs => (c = '$' → TidyAfterDollar W table cs) ∧ Tidy W table cs

/-- The names that the text refers to, in order: the visible ones among the longest words after
dollar signs. -/
def references (W : Char → Bool) (table : Dict Text) : Text → List Text
  | [] => []
  | c :: cs =>
    if c = '$' ∧ cs.takeWhile W ∈ table.keys then cs.takeWhile W :: references W table cs
    else references W table cs

instance (W : Char → Bool) (table : Dict Text) : Decidable (Alphabet W table) :=
  decidable_of_iff (W '$' = false ∧ ∀ name ∈ table.keys, name ≠ [] ∧ name.all W = true)
    ⟨fun ⟨hd, h⟩ => ⟨hd, fun n hn => (h n hn).1, fun n hn => List.all_eq_true.mp (h n hn).2⟩,
      fun h => ⟨h.dollar, fun n hn => ⟨h.ne_nil n hn, List.all_eq_true.mpr (h.word n hn)⟩⟩⟩

instance (W : Char → Bool) (table : Dict Text) (t : Text) : Decidable (TidyAfterDollar W table t) :=
  inferInstanceAs (Decidable (_ ∧ _))

instance decidableTidy (W : Char → Bool) (table : Dict Text) : ∀ t, Decidable (Tidy W table t)
  | [] => .isTrue trivial
  | c :: cs =>
    have := decidableTidy W table cs
    inferInstanceAs (Decidable ((c = '$' → TidyAfterDollar W table cs) ∧ Tidy W table cs))

/-- The text is empty or starts with a character that ends every word and starts no key. -/
def Bounded (W : Char → Bool) (t : Text) : Prop := ∀ c ∈ t.head?, W c = false ∧ c ≠ '$'

variable {W : Char → Bool} {table table' : Dict Text} {t u v cs : Text}

/-- What holds of the empty text holds of all texts if it passes on over a character other than the
dollar sign, and over a dollar sign with the longest word after it. -/
@[elab_as_elim] theorem segment_induction (W : Char → Bool) {motive : Text → Prop}
    (nil : motive []) (plain : ∀ c cs, c ≠ '$' → motive cs → motive (c :: cs))
    (dollar : ∀ cs, motive (cs.dropWhile W) → motive ('$' :: cs)) : ∀ t, motive t
  | [] => nil
  | c :: cs => by
    by_cases hc : c = '$'
    · have := (List.dropWhile_suffix W (l := cs)).length_le
      rw [hc]
      exact dollar cs (segment_induction W nil plain dollar (cs.dropWhile W))
    · exact plain c cs hc (segment_induction W nil plain dollar cs)
termination_by t => t.length
decreasing_by all_goals simp_wf; try omega

/-! ### Words and what bounds them -/

theorem takeWhile_append_of_bounded (hu : Bounded W u) (t : Text) :
    (t ++ u).takeWhile W = t.takeWhile W := by
  induction t with
  | nil =>
    cases u with
    | nil => rfl
    | cons d u => simp [(hu d rfl).1]
  | cons c cs ih =>
    rw [List.cons_append, List.takeWhile_cons, List.takeWhile_cons, ih]

theorem dropWhile_append_of_bounded (hu : Bounded W u) (t : Text) :
    (t ++ u).dropWhile W = t.dropWhile W ++ u := by
  induction t with
  | nil =>
    cases u with
    | nil => rfl
    | cons d u => simp [(hu d rfl).1]
  | cons c cs ih =>
    rw [List.cons_append, List.dropWhile_cons, List.dropWhile_cons, ih]
    split <;> rfl

/-- A longest word stays the longest one in front of a bounded text. -/
theorem takeWhile_takeWhile_append (hu : Bounded W u) (t : Text) :
    (t.takeWhile W ++ u).takeWhile W = t.takeWhile W := by
  rw [takeWhile_append_of_bounded hu, List.takeWhile_idem]

theorem dropWhile_takeWhile_append (hu : Bounded W u) (t : Text) :
    (t.takeWhile W ++ u).dropWhile W = u := by
  rw [dropWhile_append_of_bounded hu,
    List.dropWhile_eq_nil_iff.mpr fun _ => List.mem_takeWhile_imp, List.nil_append]

theorem dollar_notMem_takeWhile (hW : W '$' = false) (t : Text) : '$' ∉ t.takeWhile W := fun h => by
  rw [List.mem_takeWhile_imp h] at hW
  cases hW

theorem TidyAfterDollar.bounded (h : TidyAfterDollar W table t) : Bounded W (t.dropWhile W) :=
  fun c hc => by
    refine ⟨?_, fun hd => h.1 (hd ▸ hc)⟩
    have hn := List.head?_dropWhile_not W t
    rw [hc] at hn
    exact hn

theorem Bounded.separated (hW : Alphabet W table) (hu : Bounded W u) : Separated table u :=
  fun c hc => by
    obtain ⟨hw, hd⟩ := hu c hc
    refine ⟨hd, fun name hn hm => ?_⟩
    rw [hW.word name hn c hm] at hw
    cases hw

/-- A word is a prefix of a text if it is one of the longest word that the text starts with. -/
theorem prefix_takeWhile {name : Text} (hw : ∀ c ∈ name, W c = true) (h : name <+: t) :
    name <+: t.takeWhile W := by
  obtain ⟨rest, rfl⟩ := h
  rw [List.takeWhile_append_of_pos hw]
  exact List.prefix_append ..

/-- No dollar sign is skipped with a word. -/
theorem tidy_append_of_notMem {n : Text} (hn : '$' ∉ n) (t : Text) :
    Tidy W table (n ++ t) ↔ Tidy W table t := by
  induction n with
  | nil => rfl
  | cons c n ih =>
    obtain ⟨hc, hn⟩ := not_or.mp (List.mem_cons.not.mp hn)
    rw [List.cons_append, Tidy, ih hn]
    exact and_iff_right fun h => absurd h.symm hc

theorem references_append_of_notMem {n : Text} (hn : '$' ∉ n) (t : Text) :
    references W table (n ++ t) = references W table t := by
  induction n with
  | nil => rfl
  | cons c n ih =>
    obtain ⟨hc, hn⟩ := not_or.mp (List.mem_cons.not.mp hn)
    rw [List.cons_append, references, ih hn]
    exact if_neg fun h => hc h.1.symm

/-- A text without dollar signs is tidy. -/
theorem tidy_of_notMem (h : '$' ∉ t) : Tidy W table t := by
  rw [← List.append_nil t, tidy_append_of_notMem h]
  trivial

theorem references_of_notMem (h : '$' ∉ t) : references W table t = [] := by
  rw [← List.append_nil t, references_append_of_notMem h]
  rfl

/-! ### The parts of a tidy text -/

theorem tidy_plain {c : Char} (hc : c ≠ '$') : Tidy W table (c :: cs) ↔ Tidy W table cs :=
  and_iff_right fun h => absurd h hc

theorem tidy_dollar (hW : W '$' = false) : Tidy W table ('$' :: cs) ↔
    TidyAfterDollar W table cs ∧ Tidy W table (cs.dropWhile W) := by
  rw [← tidy_append_of_notMem (dollar_notMem_takeWhile hW cs) (cs.dropWhile W),
    List.takeWhile_append_dropWhile]
  simp [Tidy]

theorem references_plain {c : Char} (hc : c ≠ '$') :
    references W table (c :: cs) = references W table cs :=
  if_neg fun h => hc h.1

theorem references_dollar (hW : W '$' = false) : references W table ('$' :: cs) =
    if cs.takeWhile W ∈ table.keys then
      cs.takeWhile W :: references W table (cs.dropWhile W)
    else references W table (cs.dropWhile W) := by
  rw [← references_append_of_notMem (dollar_notMem_takeWhile hW cs) (cs.dropWhile W),
    List.takeWhile_append_dropWhile]
  simp [references]

/-- The longest word is a reference if it is a visible name. -/
theorem pass_reference (hW : Alphabet W table) (hv : table.get? (cs.takeWhile W) = some v) :
    pass table ('$' :: cs) = v ++ pass table (cs.dropWhile W) := by
  have hk : '$' :: cs = key (cs.takeWhile W) ++ cs.dropWhile W := by
    rw [key, List.cons_append, List.takeWhile_append_dropWhile]
  rw [hk, pass_of_longestAt hv]
  refine ⟨List.prefix_append .., fun name hn hp => ?_⟩
  rw [List.takeWhile_append_dropWhile] at hp
  exact (prefix_takeWhile (hW.word name hn) hp).length_le

/-- A word that does not start with a visible name is left alone. -/
theorem pass_undefined (hW : Alphabet W table)
    (hu : ∀ name ∈ table.keys, ¬ name <+: cs.takeWhile W) :
    pass table ('$' :: cs) = '$' :: (cs.takeWhile W ++ pass table (cs.dropWhile W)) := by
  have hk : NoKeyAt table ('$' :: cs) := fun name hn hp =>
    hu name hn (prefix_takeWhile (hW.word name hn) (key_prefix_cons.mp hp).2)
  rw [pass_of_noKeyAt hk, ← pass_append_of_notMem (dollar_notMem_takeWhile hW.dollar cs),
    List.takeWhile_append_dropWhile]

theorem mem_keys_of_mem_references {name : Text} : ∀ {t : Text}, name ∈ references W table t →
    name ∈ table.keys
  | c :: cs, h => by
    rw [references] at h
    split at h
    · next hc =>
      rcases List.mem_cons.mp h with rfl | h
      · exact hc.2
      · exact mem_keys_of_mem_references h
    · exact mem_keys_of_mem_references h

/-- A reference is a key in the text. -/
theorem key_infix_of_mem_references {name : Text} : ∀ {t : Text}, name ∈ references W table t →
    key name <:+: t
  | c :: cs, h => by
    rw [references] at h
    split at h
    · next hc =>
      rcases List.mem_cons.mp h with rfl | h
      · exact (key_prefix_cons.mpr ⟨hc.1, List.takeWhile_prefix W⟩).isInfix
      · exact List.infix_cons (key_infix_of_mem_references h)
    · exact List.infix_cons (key_infix_of_mem_references h)

/-! ### Putting tidy texts together -/

/-- Tidy texts do not grow together where the second one is bounded. -/
theorem tidy_append_iff (hb : Bounded W u) :
    ∀ {t : Text}, Tidy W table (t ++ u) ↔ Tidy W table t ∧ Tidy W table u
  | [] => (and_iff_right trivial).symm
  | c :: cs => by
    have hd : TidyAfterDollar W table (cs ++ u) ↔ TidyAfterDollar W table cs := by
      rw [TidyAfterDollar, TidyAfterDollar, takeWhile_append_of_bounded hb,
        dropWhile_append_of_bounded hb]
      refine and_congr_left fun _ => ?_
      cases cs.dropWhile W with
      | nil => exact ⟨fun _ => by simp, fun _ h => (hb _ h).2 rfl⟩
      | cons d ds => rfl
    rw [List.cons_append, Tidy, Tidy, tidy_append_iff hb, hd, and_assoc]

theorem references_append (hu : Bounded W u) : ∀ t : Text,
    references W table (t ++ u) = references W table t ++ references W table u
  | [] => rfl
  | c :: cs => by
    rw [List.cons_append, references, references, takeWhile_append_of_bounded hu,
      references_append hu cs]
    split <;> rfl

theorem Bounded.pass (hu : Bounded W u) : Bounded W (pass table u) := by
  cases u with
  | nil => exact hu
  | cons c cs =>
    rw [pass_of_noKeyAt (noKeyAt_of_ne (hu c rfl).2)]
    exact hu

/-- A tidy text holds a key only where it has a reference. -/
theorem Tidy.keyFree_iff (hW : Alphabet W table) : ∀ {t : Text}, Tidy W table t →
    (KeyFree table t ↔ references W table t = [])
  | [], _ => ⟨fun _ => rfl, fun _ => keyFree_nil table⟩
  | c :: cs, ⟨hc, hcs⟩ => by
    rw [keyFree_cons, hcs.keyFree_iff hW, references]
    by_cases hd : c = '$'
    · subst hd
      rcases (hc rfl).2 with hmem | hno
      · have hk : ¬ NoKeyAt table ('$' :: cs) := fun h =>
          h _ hmem (key_prefix_cons.mpr ⟨rfl, List.takeWhile_prefix W⟩)
        simp [hk, hmem]
      · have hk : NoKeyAt table ('$' :: cs) := fun name hn hp =>
          hno name hn (prefix_takeWhile (hW.word name hn) (key_prefix_cons.mp hp).2)
        have hmem : cs.takeWhile W ∉ table.keys := fun h => hno _ h (List.prefix_refl _)
        simp [hk, hmem]
    · simp [noKeyAt_of_ne hd, hd]

/-- A pass with tidy values keeps a text tidy, also with regard to other names. -/
theorem tidy_pass (hW : Alphabet W table) (hvalues : ∀ v ∈ table.values, Tidy W table' v)
    (ht : Tidy W table t) (ht' : Tidy W table' t) : Tidy W table' (pass table t) := by
  induction t using segment_induction W with
  | nil => trivial
  | plain c cs hc ih =>
    rw [pass_of_noKeyAt (noKeyAt_of_ne hc)]
    exact (tidy_plain hc).mpr (ih ((tidy_plain hc).mp ht) ((tidy_plain hc).mp ht'))
  | dollar cs ih =>
    obtain ⟨hd, hrest⟩ := (tidy_dollar hW.dollar).mp ht
    obtain ⟨hd', hrest'⟩ := (tidy_dollar hW.dollar).mp ht'
    have hb : Bounded W (pass table (cs.dropWhile W)) := hd.bounded.pass
    rcases hd.2 with hmem | hno
    · obtain ⟨v, hv⟩ := Dict.mem_keys_iff.mp hmem
      rw [pass_reference hW hv]
      exact (tidy_append_iff hb).mpr ⟨hvalues v (Dict.mem_values_iff.mpr ⟨_, hv⟩), ih hrest hrest'⟩
    · rw [pass_undefined hW hno, tidy_dollar hW.dollar, TidyAfterDollar,
        takeWhile_takeWhile_append hb, dropWhile_takeWhile_append hb]
      exact ⟨⟨fun h => (hb _ h).2 rfl, hd'.2⟩, ih hrest hrest'⟩

/-- The references of a pass are those of the values that it inserts. -/
theorem references_pass (hW : Alphabet W table) (ht : Tidy W table t) :
    references W table (pass table t) = (references W table t).flatMap fun name =>
      references W table ((table.get? name).getD []) := by
  induction t using segment_induction W with
  | nil => rfl
  | plain c cs hc ih =>
    rw [pass_of_noKeyAt (noKeyAt_of_ne hc), references_plain hc, references_plain hc,
      ih ((tidy_plain hc).mp ht)]
  | dollar cs ih =>
    obtain ⟨hd, hrest⟩ := (tidy_dollar hW.dollar).mp ht
    have hb : Bounded W (pass table (cs.dropWhile W)) := hd.bounded.pass
    rw [references_dollar hW.dollar]
    rcases hd.2 with hmem | hno
    · obtain ⟨v, hv⟩ := Dict.mem_keys_iff.mp hmem
      rw [pass_reference hW hv, references_append hb, ih hrest, if_pos hmem, List.flatMap_cons, hv,
        Option.getD_some]
    · have hmem : cs.takeWhile W ∉ table.keys := fun h => hno _ h (List.prefix_refl _)
      rw [pass_undefined hW hno, references_dollar hW.dollar, takeWhile_takeWhile_append hb,
        dropWhile_takeWhile_append hb, if_neg hmem, if_neg hmem, ih hrest]

end Rollout
