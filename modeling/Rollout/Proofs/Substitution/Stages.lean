import Rollout.Proofs.Substitution.Convergence
import Rollout.Proofs.Substitution.Separation

/-!
Substitution in two stages, of which the second one knows one name more. If no name of the first
stage starts the late name, the first stage leaves its references alone; what it expands to is
expanded by one more pass to what both tables together would give (`Late.expansion`), and this pass
goes over the pieces of the text one by one (`Late.split_pass`).
-/

namespace Rollout

/-- A name that comes late: the table of the first stage does not have it. -/
structure Late (W : Char → Bool) (table : Dict Text) (name value : Text) : Prop where
  /-- All names, the late one too, are words over the alphabet. -/
  alphabet : Alphabet W (table.insert name value)
  /-- The values of the first stage are tidy with regard to all names. -/
  values : ∀ v ∈ table.values, Tidy W (table.insert name value) v
  /-- No name of the first stage starts the late one. -/
  apart : ∀ n ∈ table.keys, ¬ n <+: name
  /-- The late value refers to nothing. -/
  plain : '$' ∉ value

instance (W : Char → Bool) (table : Dict Text) (name value : Text) :
    Decidable (Late W table name value) :=
  decidable_of_iff (Alphabet W (table.insert name value) ∧
      (∀ v ∈ table.values, Tidy W (table.insert name value) v) ∧
      (∀ n ∈ table.keys, ¬ n <+: name) ∧ '$' ∉ value)
    ⟨fun ⟨hW, hv, hn, hd⟩ => ⟨hW, hv, hn, hd⟩,
      fun h => ⟨h.alphabet, h.values, h.apart, h.plain⟩⟩

variable {W : Char → Bool} {table : Dict Text} {name value n v t e r : Text} {c : Char}

namespace Late

theorem notMem (h : Late W table name value) : name ∉ table.keys := fun hn =>
  h.apart name hn (List.prefix_refl name)

/-- The first stage knows names by the same values. -/
theorem get?_of_mem (h : Late W table name value) (hn : n ∈ table.keys) :
    (table.insert name value).get? n = table.get? n := by
  rw [Dict.get?_insert, if_neg]
  rintro rfl
  exact h.notMem hn

theorem alphabet_table (h : Late W table name value) : Alphabet W table where
  dollar := h.alphabet.dollar
  ne_nil n hn := h.alphabet.ne_nil n (Dict.mem_keys_insert.mpr (.inr hn))
  word n hn := h.alphabet.word n (Dict.mem_keys_insert.mpr (.inr hn))

/-- What is tidy with regard to all names is tidy for the first stage. -/
theorem tidy_table (h : Late W table name value) : ∀ {t : Text},
    Tidy W (table.insert name value) t → Tidy W table t
  | [], _ => trivial
  | c :: cs, ⟨hc, hcs⟩ => by
    refine ⟨fun hd => ⟨(hc hd).1, ?_⟩, h.tidy_table hcs⟩
    rcases (hc hd).2 with hmem | hno
    · rcases Dict.mem_keys_insert.mp hmem with he | hmem
      · exact .inr (he ▸ h.apart)
      · exact .inl hmem
    · exact .inr fun n hn => hno n (Dict.mem_keys_insert.mpr (.inr hn))

theorem tidyTable_table (h : Late W table name value) : TidyTable W table where
  toAlphabet := h.alphabet_table
  values v hv := h.tidy_table (h.values v hv)

theorem tidyTable (h : Late W table name value) : TidyTable W (table.insert name value) where
  toAlphabet := h.alphabet
  values v hv := by
    obtain ⟨n, hn⟩ := Dict.mem_values_iff.mp hv
    rw [Dict.get?_insert] at hn
    split at hn
    · cases hn
      exact tidy_of_notMem h.plain
    · exact h.values v (Dict.mem_values_iff.mpr ⟨n, hn⟩)

/-- The first stage keeps texts tidy with regard to all names. -/
theorem tidy_iterate (h : Late W table name value) (ht : Tidy W (table.insert name value) t) :
    ∀ k, Tidy W (table.insert name value) ((pass table)^[k] t)
  | 0 => ht
  | k + 1 => by
    rw [Function.iterate_succ_apply']
    have hk := h.tidy_iterate ht k
    exact tidy_pass h.alphabet_table h.values (h.tidy_table hk) hk

theorem references_subset (h : Late W table name value) : ∀ {t : Text},
    n ∈ references W table t → n ∈ references W (table.insert name value) t
  | c :: cs, hn => by
    rw [references] at hn ⊢
    split at hn
    · next hc =>
      rw [if_pos ⟨hc.1, Dict.mem_keys_insert.mpr (.inr hc.2)⟩]
      rcases List.mem_cons.mp hn with rfl | hn
      · exact List.mem_cons_self ..
      · exact List.mem_cons_of_mem _ (h.references_subset hn)
    · split
      · exact List.mem_cons_of_mem _ (h.references_subset hn)
      · exact h.references_subset hn

/-- The chains of the first stage are chains of the whole table. -/
theorem chain (h : Late W table name value) : ∀ {t : Text} {chain : List Text},
    ReferenceChain W table t chain → ReferenceChain W (table.insert name value) t chain
  | _, [], _ => trivial
  | _, _ :: _, ⟨hn, w, hw, hrest⟩ =>
    ⟨h.references_subset hn, w,
      (h.get?_of_mem (mem_keys_of_mem_references hn)).trans hw, h.chain hrest⟩

/-- One more pass takes the expansion of the first stage to that of the whole table. -/
theorem expansion (h : Late W table name value) (he : Expansion W table t e)
    (ht : Tidy W (table.insert name value) t) :
    Expansion W (table.insert name value) t (pass (table.insert name value) e) := by
  induction he with
  | done => exact .done
  | plain hc _ ih =>
    rw [pass_of_noKeyAt (noKeyAt_of_ne hc)]
    exact .plain hc (ih ((tidy_plain hc).mp ht))
  | @undefined cs r hn hr ih =>
    obtain ⟨hd, hrest⟩ := (tidy_dollar h.alphabet.dollar).mp ht
    have hb : Bounded W r := hr.bounded hd.bounded
    have htake := takeWhile_takeWhile_append hb cs
    have hdrop := dropWhile_takeWhile_append hb cs
    by_cases he : cs.takeWhile W = name
    · have hv : (table.insert name value).get? (cs.takeWhile W) = some value := by
        rw [he, Dict.get?_insert_self]
      rw [pass_reference h.alphabet (htake.symm ▸ hv), hdrop]
      exact .reference hv
        (expansion_of_keyFree h.tidyTable (tidy_of_notMem h.plain)
          (((tidy_of_notMem h.plain).keyFree_iff h.alphabet).mpr (references_of_notMem h.plain)))
        (ih hrest)
    · have hv : (table.insert name value).get? (cs.takeWhile W) = none := by
        rw [Dict.get?_insert, if_neg he, hn]
      have hno := hd.2.resolve_left (Dict.get?_eq_none_iff.mp hv)
      rw [pass_undefined h.alphabet (htake.symm ▸ hno), htake, hdrop]
      exact .undefined hv (ih hrest)
  | @reference cs v e r hn hv hr ihv ih =>
    obtain ⟨hd, hrest⟩ := (tidy_dollar h.alphabet.dollar).mp ht
    have hb : Bounded W r := hr.bounded hd.bounded
    rw [pass_append (hb.separated h.alphabet)]
    refine .reference ?_ (ihv (h.values v (Dict.mem_values_iff.mpr ⟨_, hn⟩))) (ih hrest)
    exact (h.get?_of_mem (Dict.mem_keys_iff.mpr ⟨v, hn⟩)).trans hn

/-! ### Texts that the first stage has expanded -/

/-- Only the late name is left to be referenced. -/
theorem eq_of_mem_references (hf : KeyFree table t)
    (hn : n ∈ references W (table.insert name value) t) : n = name := by
  refine (Dict.mem_keys_insert.mp (mem_keys_of_mem_references hn)).resolve_right fun hmem => ?_
  exact hf n hmem (key_infix_of_mem_references hn)

/-- One pass of the second stage leaves nothing to be expanded. -/
theorem keyFree_pass (h : Late W table name value) (ht : Tidy W (table.insert name value) t)
    (hf : KeyFree table t) :
    KeyFree (table.insert name value) (pass (table.insert name value) t) := by
  rw [(tidy_pass h.alphabet h.tidyTable.values ht ht).keyFree_iff h.alphabet,
    references_pass h.alphabet ht, List.flatMap_eq_nil_iff]
  intro n hn
  rw [eq_of_mem_references hf hn, Dict.get?_insert_self]
  exact references_of_notMem h.plain

/-- The pieces of the second stage are what it makes of the pieces of the first. -/
theorem split_pass (h : Late W table name value) (hc : W c = false ∧ c ≠ '$') (hv : c ∉ value)
    (ht : Tidy W (table.insert name value) t) (hf : KeyFree table t) :
    Text.split c (pass (table.insert name value) t) =
      (Text.split c t).map (pass (table.insert name value)) := by
  have hs : Separates (table.insert name value) c := by
    refine ⟨hc.2, fun n hn hm => ?_⟩
    rw [h.alphabet.word n hn c hm] at hc
    cases hc.1
  refine Rollout.split_pass hs fun piece hp hm => ?_
  rcases mem_pass h.alphabet (ht.of_mem_split hc piece hp) hm with hm | ⟨n, hn, v, hget, hm⟩
  · exact Text.not_mem_of_mem_split hp hm
  · rw [eq_of_mem_references (hf.of_mem_split piece hp) hn, Dict.get?_insert_self] at hget
    cases hget
    exact hv hm

/-- A piece is blank in the second stage if and only if it was blank in the first. -/
theorem isBlankText_pass (h : Late W table name value) (hv : Text.isBlankText value = false)
    (ht : Tidy W (table.insert name value) t) (hf : KeyFree table t) :
    Text.isBlankText (pass (table.insert name value) t) = Text.isBlankText t := by
  cases hrefs : references W (table.insert name value) t with
  | nil => rw [((ht.keyFree_iff h.alphabet).mpr hrefs).pass_eq_self]
  | cons n ns =>
    -- the dollar sign is not blank, and neither is the value that takes its place
    have hn : n ∈ references W (table.insert name value) t := hrefs ▸ List.mem_cons_self ..
    obtain ⟨d, hd, hblank⟩ := List.all_eq_false.mp hv
    have hget : (table.insert name value).get? n = some value := by
      rw [eq_of_mem_references hf hn, Dict.get?_insert_self]
    have hdollar : '$' ∈ t :=
      (key_infix_of_mem_references hn).subset (List.mem_cons_self ..)
    have hpass : Text.isBlankText (pass (table.insert name value) t) = false :=
      List.all_eq_false.mpr ⟨d, mem_pass_of_reference h.alphabet ht hn hget hd, hblank⟩
    rw [hpass]
    exact (List.all_eq_false.mpr ⟨'$', hdollar, by decide⟩).symm

end Late

end Rollout
