import Rollout.Inventory.Basic
import Rollout.Proofs.Dict
import Rollout.Proofs.Text

/-!
Selections have a normal form. What a list of tags is read as depends on nothing but the set of the
tags that it names (`parse_congr`), and a selection is displayed as a list that names the same tags
(`names_display_iff`). So a selection is read back from its display, and two selections are the same
just if they are displayed alike (`parse_normal_form`).
-/

namespace Rollout.TagSelection

/-! ### The tags that a list names -/

/-- A text that a list can name. -/
structure IsTag (tag : Text) : Prop where
  /-- It has a character. -/
  ne_nil : tag ≠ []
  /-- It neither starts nor ends with a blank. -/
  trimmed : Text.Trimmed tag
  /-- It is not cut. -/
  no_comma : ',' ∉ tag

/-- The list names the tag: between commas and the ends of the list it stands alone, but for blanks
on its two sides. -/
def Names (list tag : Text) : Prop :=
  IsTag tag ∧ ∃ left right, Text.isBlankText left = true ∧ Text.isBlankText right = true ∧
    Text.HasStretch ',' list (left ++ tag ++ right)

theorem comma_notMem_of_isBlankText {t : Text} (h : Text.isBlankText t = true) : ',' ∉ t :=
  fun hm => absurd (List.all_eq_true.mp h ',' hm) (by decide)

theorem mem_pieces_iff {list tag : Text} : tag ∈ pieces list ↔ Names list tag := by
  simp only [pieces, List.mem_filter, List.mem_map, decide_eq_true_eq]
  constructor
  · rintro ⟨⟨piece, hp, rfl⟩, hne⟩
    obtain ⟨hc, hstretch⟩ := Text.mem_split_iff.mp hp
    obtain ⟨left, right, heq, hl, hr⟩ := Text.exists_eq_append_trim piece
    rw [heq] at hc hstretch
    refine ⟨⟨hne, Text.trimmed_trim piece, fun hm => hc ?_⟩, left, right, hl, hr, hstretch⟩
    exact List.mem_append_left _ (List.mem_append_right _ hm)
  · rintro ⟨⟨hne, htrimmed, hc⟩, left, right, hl, hr, hstretch⟩
    refine ⟨⟨_, Text.mem_split_iff.mpr ⟨?_, hstretch⟩, htrimmed.trim_append hl hr⟩, hne⟩
    simp [comma_notMem_of_isBlankText hl, comma_notMem_of_isBlankText hr, hc]

/-! ### Reading a list -/

theorem mem_keys_tagSet {tags : List Text} {tag : Text} :
    tag ∈ (tagSet tags).keys ↔ tag ∈ tags := by
  rw [tagSet, Dict.ofList, Dict.mem_keys_insertAll]
  simp [Dict.keys, Dict.empty]

/-- Lists that name the same tags are read alike. -/
theorem parse_congr {list list' : Text} (h : ∀ tag, Names list tag ↔ Names list' tag) :
    parse list = parse list' := by
  have hset : tagSet (pieces list) = tagSet (pieces list') := Dict.eq_of_mem_keys_iff fun tag => by
    rw [mem_keys_tagSet, mem_keys_tagSet, mem_pieces_iff, mem_pieces_iff, h]
  rw [parse, parse, hset]

/-- What a list is read as that names those tags. -/
inductive ReadAs (named : Text → Prop) : Except SelectionError TagSelection → Prop
  | noTags (hnone : ∀ tag, ¬ named tag) : ReadAs named (.error .noTags)
  | allAmongOthers (hall : named allTag) (hother : ∃ tag, tag ≠ allTag ∧ named tag) :
    ReadAs named (.error .allAmongOthers)
  | all (hall : ∀ tag, named tag ↔ tag = allTag) : ReadAs named (.ok .all)
  | only {wanted : Dict Unit} (hkeys : ∀ tag, tag ∈ wanted.keys ↔ named tag)
    (hne : ∃ tag, named tag) (hall : ¬ named allTag) : ReadAs named (.ok (.only wanted))

/-- A second member shows in the length. -/
theorem one_lt_length_iff {ts : List Text} {t : Text} (hn : ts.Nodup) (ht : t ∈ ts) :
    1 < ts.length ↔ ∃ u, u ≠ t ∧ u ∈ ts := by
  match ts, hn, ht with
  | [u], _, ht =>
    obtain rfl := List.mem_singleton.mp ht
    simp
  | u :: v :: ts, hn, _ =>
    have huv : u ≠ v := fun h => (List.nodup_cons.mp hn).1 (h ▸ List.mem_cons_self)
    refine ⟨fun _ => ?_, fun _ => by simp⟩
    by_cases hu : u = t
    · exact ⟨v, hu ▸ huv.symm, List.mem_cons_of_mem u List.mem_cons_self⟩
    · exact ⟨u, hu, List.mem_cons_self⟩

theorem readAs_parse (list : Text) : ReadAs (Names list) (parse list) := by
  have hkeys : ∀ tag, tag ∈ (tagSet (pieces list)).keys ↔ Names list tag := fun tag => by
    rw [mem_keys_tagSet, mem_pieces_iff]
  rw [parse]
  generalize tagSet (pieces list) = tags at hkeys
  by_cases hempty : tags.keys = []
  · have hentries : tags.isEmpty = true := List.isEmpty_iff.mpr (List.map_eq_nil_iff.mp hempty)
    rw [if_pos hentries]
    exact .noTags fun tag h => List.not_mem_nil (hempty ▸ (hkeys tag).mpr h)
  obtain ⟨tag, htag⟩ := List.exists_mem_of_ne_nil _ hempty
  rw [if_neg (by simp [Dict.isEmpty_eq_false_of_mem_keys htag])]
  by_cases hall : allTag ∈ tags.keys
  · -- another tag among those named shows only in how many there are
    rw [if_pos (Dict.contains_iff_mem_keys.mpr hall)]
    have hlength := one_lt_length_iff tags.nodup_keys hall
    simp only [hkeys] at hlength
    by_cases hother : ∃ tag, tag ≠ allTag ∧ Names list tag
    · rw [if_pos (hlength.mpr hother)]
      exact .allAmongOthers ((hkeys allTag).mp hall) hother
    · rw [if_neg (mt hlength.mp hother)]
      refine .all fun tag => ⟨fun h => ?_, fun h => h ▸ (hkeys allTag).mp hall⟩
      exact Classical.byContradiction fun hne => hother ⟨tag, hne, h⟩
  · rw [if_neg (mt Dict.contains_iff_mem_keys.mp hall)]
    exact .only hkeys ⟨tag, (hkeys tag).mp htag⟩ (mt (hkeys allTag).mpr hall)

/-! ### Displaying a selection -/

/-- A blank at the start of a list makes no difference. -/
theorem pieces_cons_blank {c : Char} (hc : Text.isBlank c = true) (list : Text) :
    pieces (c :: list) = pieces list := by
  have hcomma : c ≠ ',' := by
    rintro rfl
    exact absurd hc (by decide)
  rw [pieces, pieces, Text.split, if_neg hcomma]
  cases hs : Text.split ',' list with
  | nil => exact absurd hs (Text.split_ne_nil ',' list)
  | cons piece rest =>
    have htrim : Text.trim (c :: piece) = Text.trim piece := by
      rw [Text.trim, Text.trim, Text.trimStart, List.dropWhile_cons_of_pos hc]
      rfl
    simp only [List.map_cons, htrim]

theorem IsTag.trim_eq {tag : Text} (h : IsTag tag) : Text.trim tag = tag :=
  Text.trim_eq_iff.mpr ⟨h.trimmed, [], [], by simp, rfl, rfl⟩

/-- The tags of a list are found again, though the list has blanks behind its commas. -/
theorem pieces_commaList : ∀ {tags : List Text}, (∀ tag ∈ tags, IsTag tag) →
    pieces (Text.commaList tags) = tags
  | [], _ => rfl
  | [tag], h => by
    have htag := h tag (List.mem_singleton_self tag)
    rw [Text.commaList, Text.join, pieces, Text.split_of_notMem htag.no_comma]
    simp [htag.trim_eq, htag.ne_nil]
  | tag :: next :: tags, h => by
    obtain ⟨htag, htags⟩ := List.forall_mem_cons.mp h
    have hjoin : Text.commaList (tag :: next :: tags) =
        tag ++ ',' :: ' ' :: Text.commaList (next :: tags) := by
      simp [Text.commaList, Text.join]
    have hrest : pieces (' ' :: Text.commaList (next :: tags)) = next :: tags := by
      rw [pieces_cons_blank rfl, pieces_commaList htags]
    rw [pieces] at hrest
    rw [hjoin, pieces, Text.split_append_cons htag.no_comma, List.map_cons, htag.trim_eq,
      List.filter_cons_of_pos (by simpa using htag.ne_nil), hrest]

/-- A selection is displayed as a list that names the tags of the list it was read from. -/
theorem names_display_iff {list : Text} {selected : TagSelection}
    (h : parse list = .ok selected) (tag : Text) :
    Names selected.display tag ↔ Names list tag := by
  have hread := readAs_parse list
  rw [h] at hread
  cases hread with
  | all hall =>
    have hpieces : pieces allTag = [allTag] := by decide
    rw [hall, display, ← mem_pieces_iff, hpieces, List.mem_singleton]
  | only hkeys hne hall =>
    rw [display, ← mem_pieces_iff, pieces_commaList fun t ht => ((hkeys t).mp ht).1, hkeys]

/-! ### The normal form -/

/-- What a list of tags is read as depends only on the set of the tags that it names; it is refused
just if it names none, or the tag for all tags and another one. A selection that was read from a
list contains the tags that the list names, or every tag if that is the tag for all tags, and is
read back from its display, in which it differs from all other selections that are read from
lists. -/
theorem parse_normal_form (list : Text) :
    (∀ list', (∀ tag, Names list tag ↔ Names list' tag) → parse list = parse list') ∧
    (∀ e, parse list = .error e ↔
      e = .noTags ∧ (∀ tag, ¬ Names list tag) ∨
      e = .allAmongOthers ∧ Names list allTag ∧ ∃ tag, tag ≠ allTag ∧ Names list tag) ∧
    ∀ selected, parse list = .ok selected →
      parse selected.display = .ok selected ∧
      (∀ tag, selected.contains tag = true ↔
        Names list tag ∨ ∀ t, Names list t ↔ t = allTag) ∧
      ∀ list' selected', parse list' = .ok selected' →
        (selected.display = selected'.display ↔ selected = selected') := by
  have hback : ∀ {list selected}, parse list = .ok selected →
      parse selected.display = .ok selected := fun h =>
    (parse_congr (names_display_iff h)).trans h
  have hread := readAs_parse list
  refine ⟨fun _ => parse_congr, fun e => ?_, fun selected h => ⟨hback h, fun tag => ?_,
    fun list' selected' h' => ⟨fun hd => ?_, fun hs => hs ▸ rfl⟩⟩⟩
  · generalize parse list = r at hread
    cases hread with
    | noTags hnone => simp [hnone, eq_comm]
    | allAmongOthers hall hother =>
      have hsome : ¬ ∀ tag, ¬ Names list tag := fun hnone => hnone allTag hall
      simp [hsome, hall, hother, eq_comm]
    | all hall => simp [hall]
    | only hkeys hne hall => simp [hne, hall]
  · rw [h] at hread
    cases hread with
    | all hall => simp [contains, hall]
    | only hkeys hne hall =>
      have hnot : ¬ ∀ t, Names list t ↔ t = allTag := fun hnamed => hall ((hnamed allTag).mpr rfl)
      rw [contains, Dict.contains_iff_mem_keys, hkeys, or_iff_left hnot]
  · exact Except.ok.inj ((hback h).symm.trans ((congrArg parse hd).trans (hback h')))

end Rollout.TagSelection
