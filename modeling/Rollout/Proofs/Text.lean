import Mathlib.Data.List.Basic
import Mathlib.Data.List.TakeWhile
import Rollout.Text.Basic

/-!
Laws of text. Pieces that do not hold the separator are found again in what they are joined to
(`split_join`), so such a text determines its pieces (`join_inj`); they are the stretches between
separators (`mem_split_iff`). Trimming takes blanks away at the two ends, and nothing else
(`trim_eq_iff`).
-/

namespace Rollout

theorem head?_dropWhile {p : Char → Bool} {t : Text} :
    ∀ d ∈ (t.dropWhile p).head?, p d = false := fun d hd => by
  have h := List.head?_dropWhile_not p t
  rw [hd] at h
  exact h

namespace Text

/-! ### Cutting and joining -/

/-- The lines of a text that are not blank. -/
def inkedLines (t : Text) : List Text := (split '\n' t).filter fun l => !isBlankText l

variable {sep : Char} {t u : Text}

theorem join_cons_cons (sep : Char) (t u : Text) (ts : List Text) :
    join [sep] (t :: u :: ts) = t ++ sep :: join [sep] (u :: ts) := by
  rw [join, List.append_assoc, List.singleton_append]

theorem split_of_notMem (h : sep ∉ t) : split sep t = [t] := by
  induction t with
  | nil => rfl
  | cons c cs ih =>
    obtain ⟨hc, hcs⟩ := not_or.mp (List.mem_cons.not.mp h)
    rw [split, if_neg (Ne.symm hc), ih hcs]

/-- A text is cut at a separator, and further in the parts on its two sides. -/
theorem split_append_sep_cons (sep : Char) (u : Text) : ∀ t : Text,
    split sep (t ++ sep :: u) = split sep t ++ split sep u
  | [] => by simp [split]
  | c :: cs => by
    rw [List.cons_append, split, split, split_append_sep_cons sep u cs]
    by_cases hc : c = sep
    · rw [if_pos hc, if_pos hc, List.cons_append]
    · rw [if_neg hc, if_neg hc]
      cases hs : split sep cs with
      | nil => exact absurd hs (split_ne_nil sep cs)
      | cons piece pieces => rfl

theorem split_append_cons (h : sep ∉ t) : split sep (t ++ sep :: u) = t :: split sep u := by
  rw [split_append_sep_cons, split_of_notMem h, List.singleton_append]

/-- Joined texts are cut where they were joined, and further in the texts. -/
theorem split_join_eq_flatMap : ∀ {ts : List Text}, ts ≠ [] →
    split sep (join [sep] ts) = ts.flatMap (split sep)
  | [t], _ => by simp [join]
  | t :: u :: ts, _ => by
    rw [join_cons_cons, split_append_sep_cons, split_join_eq_flatMap (List.cons_ne_nil u ts)]
    rfl

/-- Pieces without the separator are found again. -/
theorem split_join : ∀ {ts : List Text}, ts ≠ [] → (∀ t ∈ ts, sep ∉ t) →
    split sep (join [sep] ts) = ts
  | [t], _, h => split_of_notMem (h t (List.mem_singleton_self t))
  | t :: u :: ts, _, h => by
    obtain ⟨ht, hts⟩ := List.forall_mem_cons.mp h
    rw [join_cons_cons, split_append_cons ht, split_join (List.cons_ne_nil u ts) hts]

theorem join_inj {ts us : List Text} (hts : ts ≠ []) (hus : us ≠ []) (ht : ∀ t ∈ ts, sep ∉ t)
    (hu : ∀ t ∈ us, sep ∉ t) (h : join [sep] ts = join [sep] us) : ts = us := by
  rw [← split_join hts ht, h, split_join hus hu]

/-- A joined text holds nothing but the separator and what its pieces hold. -/
theorem mem_join {c : Char} : ∀ {ts : List Text}, c ∈ join [sep] ts → c = sep ∨ ∃ t ∈ ts, c ∈ t
  | [t], h => .inr ⟨t, List.mem_singleton_self t, h⟩
  | t :: u :: ts, h => by
    rw [join_cons_cons, List.mem_append, List.mem_cons] at h
    rcases h with h | rfl | h
    · exact .inr ⟨t, List.mem_cons_self .., h⟩
    · exact .inl rfl
    · exact (mem_join h).imp_right fun ⟨v, hv, hc⟩ => ⟨v, List.mem_cons_of_mem t hv, hc⟩

/-- What holds of a text passes on to its pieces if it passes on to the two sides of a separator. -/
theorem forall_mem_split {P : Text → Prop} (hP : ∀ t u, P (t ++ sep :: u) → P t ∧ P u) (h : P t) :
    ∀ piece ∈ split sep t, P piece := by
  have hjoin : ∀ {ts : List Text}, P (join [sep] ts) → ∀ piece ∈ ts, P piece := by
    intro ts
    induction ts with
    | nil => exact fun _ => nofun
    | cons t ts ih =>
      cases ts with
      | nil => exact fun h => List.forall_mem_singleton.mpr h
      | cons u ts =>
        intro h
        rw [join_cons_cons] at h
        exact List.forall_mem_cons.mpr ⟨(hP _ _ h).1, ih (hP _ _ h).2⟩
  rw [← join_split sep t] at h
  exact hjoin h

/-- The text has such a stretch, bounded on both sides by a separator or an end of the text. -/
def HasStretch (sep : Char) (t piece : Text) : Prop :=
  ∃ before after, t = before ++ piece ++ after ∧ (∀ c ∈ before.getLast?, c = sep) ∧
    ∀ c ∈ after.head?, c = sep

theorem HasStretch.cut {u v : Text} (h : HasStretch sep t (u ++ sep :: v)) :
    HasStretch sep t u ∧ HasStretch sep t v := by
  obtain ⟨before, after, ht, hb, ha⟩ := h
  exact ⟨⟨before, sep :: v ++ after, by simp [ht], hb, by simp⟩,
    ⟨before ++ u ++ [sep], after, by simp [ht], by simp, ha⟩⟩

/-- The pieces are the stretches without separators. -/
theorem mem_split_iff {piece : Text} :
    piece ∈ split sep t ↔ sep ∉ piece ∧ HasStretch sep t piece := by
  constructor
  · intro h
    have hall : HasStretch sep t t := ⟨[], [], by simp⟩
    exact ⟨not_mem_of_mem_split h, forall_mem_split (fun _ _ => HasStretch.cut) hall piece h⟩
  · rintro ⟨hs, before, after, rfl, hb, ha⟩
    have hafter : piece ∈ split sep (piece ++ after) := by
      cases after with
      | nil =>
        rw [List.append_nil, split_of_notMem hs]
        exact List.mem_singleton_self piece
      | cons c after =>
        obtain rfl := ha c rfl
        rw [split_append_cons hs]
        exact List.mem_cons_self
    rcases List.eq_nil_or_concat before with rfl | ⟨before, c, rfl⟩
    · simpa using hafter
    · obtain rfl := hb c (by simp)
      rw [List.concat_eq_append, List.append_assoc, List.append_assoc, List.singleton_append,
        split_append_sep_cons]
      exact List.mem_append_right _ hafter

theorem head?_join (ht : t ≠ []) (ts : List Text) : (join [sep] (t :: ts)).head? = t.head? := by
  cases ts with
  | nil => rfl
  | cons u ts => rw [join_cons_cons, List.head?_append_of_ne_nil t ht]

theorem join_ne_nil (ht : t ≠ []) (ts : List Text) : join [sep] (t :: ts) ≠ [] := by
  intro h
  have hhead : (join [sep] (t :: ts)).head? = t.head? := head?_join ht ts
  rw [h] at hhead
  exact ht (List.head?_eq_none_iff.mp hhead.symm)

/-- Where no text is empty, what holds of the last character of each holds of the last character of
what they are joined to. -/
theorem forall_getLast?_join {P : Char → Prop} : ∀ {ts : List Text},
    (∀ t ∈ ts, t ≠ [] ∧ ∀ c ∈ t.getLast?, P c) → ∀ c ∈ (join [sep] ts).getLast?, P c
  | [], _ => nofun
  | [t], h => (h t (List.mem_singleton_self t)).2
  | t :: u :: ts, h => by
    have hrest := (List.forall_mem_cons.mp h).2
    have hne : join [sep] (u :: ts) ≠ [] := join_ne_nil (hrest u (List.mem_cons_self ..)).1 ts
    rw [join_cons_cons, List.append_cons, List.getLast?_append_of_ne_nil _ hne]
    exact forall_getLast?_join hrest

/-! ### Blanks at the ends -/

theorem trimStart_eq_self (h : ∀ c ∈ t.head?, isBlank c = false) : trimStart t = t := by
  cases t with
  | nil => rfl
  | cons c cs => exact List.dropWhile_cons_of_neg (by simp [h c rfl])

theorem isPrefix_trimEnd (t : Text) : trimEnd t <+: t := by
  rw [trimEnd, ← List.reverse_suffix, List.reverse_reverse]
  exact List.dropWhile_suffix _

theorem getLast?_trimEnd {c : Char} (h : c ∈ (trimEnd t).getLast?) : isBlank c = false := by
  rw [trimEnd, List.getLast?_reverse] at h
  exact head?_dropWhile c h

theorem trimEnd_eq_self (h : ∀ c ∈ t.getLast?, isBlank c = false) : trimEnd t = t := by
  rw [trimEnd]
  cases hr : t.reverse with
  | nil => simpa using hr.symm
  | cons c cs =>
    have hc : isBlank c = false := h c (by rw [← List.head?_reverse, hr]; rfl)
    rw [List.dropWhile_cons_of_neg (by simp [hc]), ← hr, List.reverse_reverse]

/-- A text with no blank at either end. -/
structure Trimmed (t : Text) : Prop where
  /-- It does not start with a blank. -/
  head : ∀ c ∈ t.head?, isBlank c = false
  /-- It does not end in a blank. -/
  last : ∀ c ∈ t.getLast?, isBlank c = false

theorem trimmed_trim (t : Text) : Trimmed (trim t) := by
  refine ⟨fun c hc => ?_, fun c => getLast?_trimEnd⟩
  obtain ⟨rest, hrest⟩ := isPrefix_trimEnd (trimStart t)
  refine head?_dropWhile (p := isBlank) (t := t) c ?_
  change c ∈ (trimStart t).head?
  rw [← hrest]
  exact List.mem_head?_append_of_mem_head? hc

/-- All blanks that trimming takes away are at the ends. -/
theorem exists_eq_append_trim (t : Text) : ∃ left right,
    t = left ++ trim t ++ right ∧ isBlankText left = true ∧ isBlankText right = true := by
  refine ⟨t.takeWhile isBlank, ((trimStart t).reverse.takeWhile isBlank).reverse, ?_, ?_, ?_⟩
  · rw [trim, trimEnd, List.append_assoc, ← List.reverse_append, List.takeWhile_append_dropWhile,
      List.reverse_reverse, trimStart, List.takeWhile_append_dropWhile]
  · exact List.all_takeWhile
  · rw [isBlankText, List.all_reverse]
    exact List.all_takeWhile

/-- Blanks at the ends are taken away. -/
theorem Trimmed.trim_append (ht : Trimmed t) {left right : Text} (hl : isBlankText left = true)
    (hr : isBlankText right = true) : trim (left ++ t ++ right) = t := by
  rw [isBlankText, List.all_eq_true] at hl hr
  rw [trim, trimStart, List.append_assoc, List.dropWhile_append_of_pos hl]
  cases t with
  | nil => rw [List.nil_append, List.dropWhile_eq_nil_iff.mpr hr]; rfl
  | cons c cs =>
    have hstart : (c :: cs ++ right).dropWhile isBlank = c :: cs ++ right :=
      trimStart_eq_self ht.head
    rw [hstart, trimEnd, List.reverse_append,
      List.dropWhile_append_of_pos fun d hd => hr d (List.mem_reverse.mp hd)]
    exact trimEnd_eq_self ht.last

/-- Trimming leaves what stands between blanks at the two ends. -/
theorem trim_eq_iff : trim t = u ↔ Trimmed u ∧ ∃ left right,
    t = left ++ u ++ right ∧ isBlankText left = true ∧ isBlankText right = true := by
  constructor
  · rintro rfl
    exact ⟨trimmed_trim t, exists_eq_append_trim t⟩
  · rintro ⟨hu, left, right, rfl, hl, hr⟩
    exact hu.trim_append hl hr

end Text

end Rollout
