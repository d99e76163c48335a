import Mathlib.Data.List.Forall2
import Rollout.Proofs.Substitution.Rounds
import Rollout.Proofs.Substitution.Tidy
import Rollout.Proofs.Text

/-!
Substitution is local. A character that no key contains cuts a text into parts that are expanded
apart from each other: the whole expands exactly if its parts do, and then to what they expand to
(`substitute_separated`). The parts need not come to their ends after equally many passes, and their
values may bring in further cuts. A single pass goes over the pieces one by one (`pass_join`), the
pieces of a tidy text are tidy (`Tidy.of_mem_split`), and if no value brings in a further cut, the
pieces of a pass are the passes over the pieces (`split_pass`).
-/

namespace Rollout

variable {W : Char → Bool} {table vars : Dict Text} {s : Scope} {t u : Text} {c : Char} {r : Text}

/-! ### A pass over the pieces -/

theorem pass_join (hc : Separates table c) : ∀ ts : List Text,
    pass table (Text.join [c] ts) = Text.join [c] (ts.map (pass table))
  | [] => rfl
  | [_] => rfl
  | t :: u :: ts => by
    rw [Text.join_cons_cons, pass_append_sep_cons hc, pass_join hc (u :: ts)]
    simp only [List.map_cons, Text.join_cons_cons]

/-- If the passes over the pieces hold no separator, they are the pieces of the pass. -/
theorem split_pass (hc : Separates table c)
    (h : ∀ piece ∈ Text.split c t, c ∉ pass table piece) :
    Text.split c (pass table t) = (Text.split c t).map (pass table) := by
  have hne : (Text.split c t).map (pass table) ≠ [] :=
    fun h => Text.split_ne_nil c t (List.map_eq_nil_iff.mp h)
  rw [← Text.split_join hne (List.forall_mem_map.mpr h), ← pass_join hc, Text.join_split]

theorem KeyFree.of_mem_split (h : KeyFree table t) :
    ∀ piece ∈ Text.split c t, KeyFree table piece := by
  refine Text.forall_mem_split (fun t u h => ⟨fun name hn hp => h name hn ?_,
    fun name hn hp => h name hn ?_⟩) h
  · exact hp.trans (List.prefix_append ..).isInfix
  · exact hp.trans ((List.suffix_cons c u).trans (List.suffix_append ..)).isInfix

/-- The pieces of a tidy text are tidy. -/
theorem Tidy.of_mem_split (hc : W c = false ∧ c ≠ '$') (h : Tidy W table t) :
    ∀ piece ∈ Text.split c t, Tidy W table piece := by
  refine Text.forall_mem_split (fun t u h => ?_) h
  have hb : Bounded W (c :: u) := fun d hd => by
    cases hd
    exact hc
  obtain ⟨ht, hu⟩ := (tidy_append_iff hb).mp h
  exact ⟨ht, (tidy_plain hc.2).mp hu⟩

/-- A pass brings in nothing but values of references. -/
theorem mem_pass (hW : Alphabet W table) (ht : Tidy W table t) (h : c ∈ pass table t) :
    c ∈ t ∨ ∃ name ∈ references W table t, ∃ v, table.get? name = some v ∧ c ∈ v := by
  induction t using segment_induction W with
  | nil => exact .inl h
  | plain d cs hd ih =>
    rw [pass_of_noKeyAt (noKeyAt_of_ne hd)] at h
    rw [references_plain hd]
    rcases List.mem_cons.mp h with rfl | h
    · exact .inl (List.mem_cons_self ..)
    · exact (ih ((tidy_plain hd).mp ht) h).imp_left (List.mem_cons_of_mem d)
  | dollar cs ih =>
    obtain ⟨hd, hrest⟩ := (tidy_dollar hW.dollar).mp ht
    have hdrop : c ∈ cs.dropWhile W → c ∈ '$' :: cs := fun h =>
      List.mem_cons_of_mem _ ((List.dropWhile_suffix W).subset h)
    rw [references_dollar hW.dollar]
    rcases hd.2 with hmem | hno
    · obtain ⟨v, hv⟩ := Dict.mem_keys_iff.mp hmem
      rw [pass_reference hW hv] at h
      rw [if_pos hmem]
      rcases List.mem_append.mp h with h | h
      · exact .inr ⟨_, List.mem_cons_self .., v, hv, h⟩
      · exact (ih hrest h).imp hdrop fun ⟨name, hname, hv⟩ =>
          ⟨name, List.mem_cons_of_mem _ hname, hv⟩
    · rw [pass_undefined hW hno] at h
      rw [if_neg fun hmem => hno _ hmem (List.prefix_refl _)]
      rcases List.mem_cons.mp h with rfl | h
      · exact .inl (List.mem_cons_self ..)
      · rcases List.mem_append.mp h with h | h
        · exact .inl (List.mem_cons_of_mem _ ((List.takeWhile_prefix W).subset h))
        · exact (ih hrest h).imp_left hdrop

/-- The value of every reference is brought in. -/
theorem mem_pass_of_reference (hW : Alphabet W table) (ht : Tidy W table t) {name v : Text}
    (hname : name ∈ references W table t) (hv : table.get? name = some v) (hc : c ∈ v) :
    c ∈ pass table t := by
  induction t using segment_induction W with
  | nil => cases hname
  | plain d cs hd ih =>
    rw [references_plain hd] at hname
    rw [pass_of_noKeyAt (noKeyAt_of_ne hd)]
    exact List.mem_cons_of_mem d (ih ((tidy_plain hd).mp ht) hname)
  | dollar cs ih =>
    obtain ⟨hd, hrest⟩ := (tidy_dollar hW.dollar).mp ht
    rw [references_dollar hW.dollar] at hname
    rcases hd.2 with hmem | hno
    · obtain ⟨w, hw⟩ := Dict.mem_keys_iff.mp hmem
      rw [if_pos hmem] at hname
      rw [pass_reference hW hw]
      rcases List.mem_cons.mp hname with rfl | hname
      · rw [hv] at hw
        cases hw
        exact List.mem_append_left _ hc
      · exact List.mem_append_right _ (ih hrest hname)
    · rw [if_neg fun hmem => hno _ hmem (List.prefix_refl _)] at hname
      rw [pass_undefined hW hno]
      exact List.mem_cons_of_mem _ (List.mem_append_right _ (ih hrest hname))

/-! ### Rounds of passes over the parts -/

theorem iterate_pass_append_sep_cons (hc : Separates table c) (a b : Text) : ∀ k,
    (pass table)^[k] (a ++ c :: b) = (pass table)^[k] a ++ c :: (pass table)^[k] b
  | 0 => rfl
  | k + 1 => by
    rw [Function.iterate_succ_apply', Function.iterate_succ_apply', Function.iterate_succ_apply',
      iterate_pass_append_sep_cons hc a b k, pass_append_sep_cons hc]

/-- Two parts may need different numbers of passes; the one that is done first stays as it is. -/
theorem substitute_append_sep_cons (hc : Separates (s.visible vars) c) (a b : Text) :
    substitute vars s (a ++ c :: b) = .ok r ↔
      ∃ x y, substitute vars s a = .ok x ∧ substitute vars s b = .ok y ∧ r = x ++ c :: y := by
  simp only [substitute_eq_ok_iff]
  constructor
  · rintro ⟨k, hk, rfl, hf⟩
    rw [iterate_pass_append_sep_cons hc] at hf ⊢
    obtain ⟨ha, hb⟩ := (keyFree_append_sep_cons hc _ _).mp hf
    exact ⟨_, _, ⟨k, hk, rfl, ha⟩, ⟨k, hk, rfl, hb⟩, rfl⟩
  · rintro ⟨x, y, ⟨i, hi, hx, hfx⟩, ⟨j, hj, hy, hfy⟩, rfl⟩
    refine ⟨max i j, max_le hi hj, ?_, (keyFree_append_sep_cons hc _ _).mpr ⟨hfx, hfy⟩⟩
    rw [iterate_pass_append_sep_cons hc, hfx.iterate_pass_of_le hx (le_max_left i j),
      hfy.iterate_pass_of_le hy (le_max_right i j)]

/-- Joined texts expand exactly if each of them does. -/
theorem substitute_join (hc : Separates (s.visible vars) c) : ∀ {ts : List Text} {r : Text},
    ts ≠ [] → (substitute vars s (Text.join [c] ts) = .ok r ↔
      ∃ rs, List.Forall₂ (fun line x => substitute vars s line = .ok x) ts rs ∧
        r = Text.join [c] rs)
  | [t], r, _ => by
    constructor
    · exact fun h => ⟨[r], .cons h .nil, rfl⟩
    · rintro ⟨rs, hrs, rfl⟩
      obtain ⟨x, _, hx, hnil, rfl⟩ := List.forall₂_cons_left_iff.mp hrs
      obtain rfl := List.forall₂_nil_left_iff.mp hnil
      exact hx
  | t :: u :: ts, r, _ => by
    rw [Text.join_cons_cons, substitute_append_sep_cons hc]
    constructor
    · rintro ⟨x, y, hx, hy, rfl⟩
      obtain ⟨rs, hrs, rfl⟩ := (substitute_join hc (List.cons_ne_nil u ts)).mp hy
      obtain ⟨v, vs, hv, hvs, rfl⟩ := List.forall₂_cons_left_iff.mp hrs
      exact ⟨x :: v :: vs, .cons hx hrs, (Text.join_cons_cons ..).symm⟩
    · rintro ⟨rs, hrs, rfl⟩
      obtain ⟨x, _, hx, hrest, rfl⟩ := List.forall₂_cons_left_iff.mp hrs
      obtain ⟨v, vs, hv, hvs, rfl⟩ := List.forall₂_cons_left_iff.mp hrest
      exact ⟨x, _, hx, (substitute_join hc (List.cons_ne_nil u ts)).mpr ⟨_, hrest, rfl⟩,
        Text.join_cons_cons ..⟩

/-- A text with a separator expands exactly if the texts on its two sides do, and then to what they
expand to with the separator between them. So a text of many lines expands line by line, and its
expansion is cut into the lines that its lines expand to. -/
theorem substitute_separated (hc : Separates (s.visible vars) c) :
    (∀ a b r, substitute vars s (a ++ c :: b) = .ok r ↔
      ∃ x y, substitute vars s a = .ok x ∧ substitute vars s b = .ok y ∧ r = x ++ c :: y) ∧
    ∀ t r, substitute vars s t = .ok r ↔
      ∃ rs, List.Forall₂ (fun line x => substitute vars s line = .ok x) (Text.split c t) rs ∧
        r = Text.join [c] rs ∧ Text.split c r = rs.flatMap (Text.split c) := by
  refine ⟨fun a b r => substitute_append_sep_cons hc a b, fun t r => ?_⟩
  have hjoin := substitute_join hc (r := r) (Text.split_ne_nil c t)
  rw [Text.join_split] at hjoin
  rw [hjoin]
  constructor
  · rintro ⟨rs, hrs, rfl⟩
    refine ⟨rs, hrs, rfl, Text.split_join_eq_flatMap ?_⟩
    rintro rfl
    exact Text.split_ne_nil c t (List.forall₂_nil_right_iff.mp hrs)
  · rintro ⟨rs, hrs, rfl, -⟩
    exact ⟨rs, hrs, rfl⟩

/-! ### A value of two lines -/

/-- A scope in which one name stands for two lines, of which the second takes one pass more. -/
def salutation : Scope := (Scope.ofUpfile ⟨.empty, []⟩).withValue "both" "$first\n$second"

/-- What the lines refer to. -/
def salutationVars : Dict Text := .ofList [("first", "hello"), ("second", "$first again")]

/-- The value of one line brings in a further cut, and each line takes its own number of passes. -/
theorem substitute_separated_salutation :
    Separates (salutation.visible salutationVars) '\n' ∧
      substitute salutationVars salutation "$both\n$first" = .ok "hello\nhello again\nhello" ∧
      ∃ rs, List.Forall₂ (fun line x => substitute salutationVars salutation line = .ok x)
        ["$both", "$first"] rs ∧ rs.flatMap (Text.split '\n') = ["hello", "hello again", "hello"] := by
  have hc : Separates (salutation.visible salutationVars) '\n' := ⟨by decide, by decide +kernel⟩
  obtain ⟨happend, hlines⟩ := substitute_separated hc
  have h : substitute salutationVars salutation "$both\n$first" = .ok "hello\nhello again\nhello" :=
    (happend "$both" "$first" _).mpr
      ⟨"hello\nhello again", "hello", by decide +kernel, by decide +kernel, rfl⟩
  obtain ⟨rs, hrs, -, hsplit⟩ := (hlines _ _).mp h
  exact ⟨hc, h, rs, hrs, hsplit.symm⟩

end Rollout
