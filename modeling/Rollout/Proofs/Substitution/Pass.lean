import Mathlib.Data.List.Infix
import Rollout.Proofs.Dict
import Rollout.Substitution

/-!
One pass of a substitution is a scan from left to right: where a key starts, the longest one is
replaced by its value, and elsewhere a character is copied (`scansTo_iff`). A text without keys
stays as it is (`KeyFree.pass_eq_self`), and a text that is cut where no key can reach across is
passed over piece by piece (`pass_append`).
-/

namespace Rollout

/-! ### Keys -/

/-- How a name is referred to. -/
def key (name : Text) : Text := '$' :: name

/-- No key occurs in the text. -/
def KeyFree (table : Dict Text) (t : Text) : Prop := ∀ name ∈ table.keys, ¬ key name <:+: t

/-- No key starts the text. -/
def NoKeyAt (table : Dict Text) (t : Text) : Prop := ∀ name ∈ table.keys, ¬ key name <+: t

/-- No visible name is longer and starts the text too. -/
def LongestAt (table : Dict Text) (name t : Text) : Prop :=
  name <+: t ∧ ∀ name' ∈ table.keys, name' <+: t → name'.length ≤ name.length

variable {table : Dict Text} {name value t u : Text}

theorem key_prefix_cons {c : Char} {cs : Text} :
    key name <+: c :: cs ↔ c = '$' ∧ name <+: cs := by
  rw [key, List.cons_prefix_cons, eq_comm]

theorem keyFree_nil (table : Dict Text) : KeyFree table [] := by
  intro name _ h
  cases List.infix_nil.mp h

theorem keyFree_cons {c : Char} {cs : Text} :
    KeyFree table (c :: cs) ↔ NoKeyAt table (c :: cs) ∧ KeyFree table cs := by
  simp only [KeyFree, NoKeyAt, List.infix_cons_iff, not_or, forall_and]

theorem noKeyAt_of_ne {c : Char} {cs : Text} (hc : c ≠ '$') : NoKeyAt table (c :: cs) :=
  fun _ _ h => hc (key_prefix_cons.mp h).1

/-! ### The longest name -/

theorem longestName?_concat (es : List (Text × Text)) (e : Text × Text) (t : Text) :
    longestName? (es ++ [e]) t =
      if e.1.isPrefixOf t && (longestName? es t).all (fun b => b.1.length < e.1.length) then some e
      else longestName? es t := by
  rw [longestName?, List.foldl_append]
  rfl

/-- The search either finds an entry of greatest length or no name starts the text. -/
theorem longestName?_cases (t : Text) (es : List (Text × Text)) :
    (longestName? es t = none ∧ ∀ e ∈ es, ¬ e.1 <+: t) ∨
      ∃ e, longestName? es t = some e ∧ e ∈ es ∧ e.1 <+: t ∧
        ∀ e' ∈ es, e'.1 <+: t → e'.1.length ≤ e.1.length := by
  induction es using List.reverseRecOn with
  | nil => exact .inl ⟨rfl, nofun⟩
  | append_singleton es e ih =>
    simp only [longestName?_concat, List.forall_mem_append, List.forall_mem_singleton]
    by_cases he : e.1 <+: t
    · rcases ih with ⟨hn, hno⟩ | ⟨b, hb, hmem, hpre, hmax⟩
      · exact .inr ⟨e, by simp [hn, he], by simp, he, fun e' he' hp => absurd hp (hno e' he'),
          fun _ => le_rfl⟩
      · by_cases hlt : b.1.length < e.1.length
        · exact .inr ⟨e, by simp [hb, he, hlt], by simp, he,
            fun e' he' hp => ((hmax e' he' hp).trans_lt hlt).le, fun _ => le_rfl⟩
        · exact .inr ⟨b, by simp [hb, hlt], by simp [hmem], hpre, hmax,
            fun _ => Nat.le_of_not_lt hlt⟩
    · have hskip : (e.1.isPrefixOf t && (longestName? es t).all fun b => b.1.length < e.1.length) =
          false := by simp [he]
      rw [hskip]
      rcases ih with ⟨hn, hno⟩ | ⟨b, hb, hmem, hpre, hmax⟩
      · exact .inl ⟨by simpa using hn, hno, he⟩
      · exact .inr ⟨b, by simpa using hb, by simp [hmem], hpre, hmax, fun hp => absurd hp he⟩

theorem longestName?_eq_none_iff :
    longestName? table.entries t = none ↔ ∀ name ∈ table.keys, ¬ name <+: t := by
  rw [Dict.forall_mem_keys]
  rcases longestName?_cases t table.entries with ⟨hn, hno⟩ | ⟨e, he, hmem, hpre, -⟩
  · exact ⟨fun _ => hno, fun _ => hn⟩
  · rw [he]
    exact ⟨nofun, fun h => absurd hpre (h e hmem)⟩

/-- Names that start the same text and are of one length are equal, so the search finds the one
entry of greatest length. -/
theorem longestName?_eq_some_iff :
    longestName? table.entries t = some (name, value) ↔
      table.get? name = some value ∧ LongestAt table name t := by
  have hsound : ∀ {n v}, longestName? table.entries t = some (n, v) →
      table.get? n = some v ∧ LongestAt table n t := by
    intro n v h
    rcases longestName?_cases t table.entries with ⟨hn, -⟩ | ⟨e, he, hmem, hpre, hmax⟩
    · rw [hn] at h
      cases h
    · rw [he] at h
      cases h
      exact ⟨Dict.get?_eq_some_iff.mpr hmem, hpre, Dict.forall_mem_keys.mpr hmax⟩
  refine ⟨hsound, fun ⟨hv, hpre, hmax⟩ => ?_⟩
  have hmem : name ∈ table.keys := Dict.mem_keys_iff.mpr ⟨value, hv⟩
  cases hs : longestName? table.entries t with
  | none => exact absurd hpre (longestName?_eq_none_iff.mp hs name hmem)
  | some e =>
    obtain ⟨n, v⟩ := e
    obtain ⟨hv', hpre', hmax'⟩ := hsound hs
    have hle : name.length ≤ n.length := hmax' name hmem hpre
    have hge : n.length ≤ name.length := hmax n (Dict.mem_keys_iff.mpr ⟨v, hv'⟩) hpre'
    obtain rfl : name = n :=
      (List.prefix_of_prefix_length_le hpre hpre' hle).eq_of_length (hle.antisymm hge)
    rw [hv] at hv'
    cases hv'
    rfl

/-- A text starts with no key, or with a longest one. -/
theorem noKeyAt_or_longestAt (table : Dict Text) (c : Char) (cs : Text) :
    NoKeyAt table (c :: cs) ∨
      ∃ name value, c = '$' ∧ table.get? name = some value ∧ LongestAt table name cs := by
  by_cases hc : c = '$'
  · cases hs : longestName? table.entries cs with
    | none =>
      exact .inl fun n hn hp => longestName?_eq_none_iff.mp hs n hn (key_prefix_cons.mp hp).2
    | some e => exact .inr ⟨e.1, e.2, hc, longestName?_eq_some_iff.mp hs⟩
  · exact .inl (noKeyAt_of_ne hc)

/-! ### Passing over a text -/

theorem hasReference_eq_false_iff : ∀ {t : Text}, hasReference table t = false ↔ KeyFree table t
  | [] => ⟨fun _ => keyFree_nil table, fun _ => rfl⟩
  | c :: cs => by
    rw [keyFree_cons, ← hasReference_eq_false_iff, hasReference, Bool.or_eq_false_iff]
    refine and_congr_left fun _ => ?_
    simp only [Bool.and_eq_false_iff, decide_eq_false_iff_not, Option.isSome_eq_false_iff,
      Option.isNone_iff_eq_none, longestName?_eq_none_iff, NoKeyAt, key_prefix_cons, not_and]
    exact ⟨fun h n hn hc => h.resolve_left (not_not_intro hc) n hn,
      fun h => or_iff_not_imp_left.mpr fun hc n hn => h n hn (not_not.mp hc)⟩

/-- Where no key starts a character is copied. -/
theorem pass_of_noKeyAt {c : Char} {cs : Text} (h : NoKeyAt table (c :: cs)) :
    pass table (c :: cs) = c :: pass table cs := by
  rw [pass, replaceReferences]
  split
  · next hc =>
    have hn : longestName? table.entries cs = none :=
      longestName?_eq_none_iff.mpr fun n hn hp => h n hn (key_prefix_cons.mpr ⟨hc, hp⟩)
    rw [hn]
    rfl
  · rfl

theorem replaceReferences_skip (table : Dict Text) (rest : Text) :
    ∀ name : Text, replaceReferences table name.length (name ++ rest) = pass table rest
  | [] => rfl
  | _ :: name => replaceReferences_skip table rest name

/-- The longest key is replaced by its value, and the scan goes on behind it. -/
theorem pass_of_longestAt {rest : Text} (hv : table.get? name = some value)
    (hl : LongestAt table name (name ++ rest)) :
    pass table (key name ++ rest) = value ++ pass table rest := by
  have hs := longestName?_eq_some_iff.mpr ⟨hv, hl⟩
  rw [← replaceReferences_skip table rest name]
  simp [pass, key, replaceReferences, hs]

/-- The scan from left to right: the longest key that starts somewhere is replaced by its value, and
the scan goes on behind it; where none starts, a character is copied. -/
inductive ScansTo (table : Dict Text) : Text → Text → Prop
  | done : ScansTo table [] []
  | copied {c : Char} {cs r : Text} (h : ∀ name ∈ table.keys, ¬ key name <+: c :: cs)
    (hr : ScansTo table cs r) : ScansTo table (c :: cs) (c :: r)
  | replaced {name value rest r : Text} (hv : table.get? name = some value)
    (hl : ∀ name' ∈ table.keys, key name' <+: key name ++ rest → name'.length ≤ name.length)
    (hr : ScansTo table rest r) : ScansTo table (key name ++ rest) (value ++ r)

/-- A pass scans every text. -/
theorem scansTo_pass (table : Dict Text) : ∀ t : Text, ScansTo table t (pass table t)
  | [] => .done
  | c :: cs => by
    rcases noKeyAt_or_longestAt table c cs with h | ⟨name, value, rfl, hv, hl⟩
    · rw [pass_of_noKeyAt h]
      exact .copied h (scansTo_pass table cs)
    · obtain ⟨rest, rfl⟩ := hl.1
      have hlen : rest.length < (name ++ rest).length + 1 := by
        rw [List.length_append]
        omega
      rw [show '$' :: (name ++ rest) = key name ++ rest from rfl, pass_of_longestAt hv hl]
      refine .replaced hv (fun n hn hp => hl.2 n hn ?_) (scansTo_pass table rest)
      exact (key_prefix_cons.mp hp).2
termination_by t => t.length

/-- The scan of a text is the pass over it, and there is no other. -/
theorem scansTo_iff : ScansTo table t u ↔ pass table t = u := by
  refine ⟨fun h => ?_, fun h => h ▸ scansTo_pass table t⟩
  induction h with
  | done => rfl
  | copied h _ ih => rw [pass_of_noKeyAt h, ih]
  | replaced hv hl _ ih =>
    rw [pass_of_longestAt hv ⟨List.prefix_append .., fun n hn hp => hl n hn ?_⟩, ih]
    exact key_prefix_cons.mpr ⟨rfl, hp⟩

/-- A pass brings in nothing but values of names whose keys occur in the text. -/
theorem mem_pass_cases {c : Char} (h : c ∈ pass table t) :
    c ∈ t ∨ ∃ name value, table.get? name = some value ∧ key name <:+: t ∧ c ∈ value := by
  have hs := scansTo_pass table t
  generalize pass table t = r at h hs
  induction hs with
  | done => exact .inl h
  | @copied d cs _ _ _ ih =>
    rcases List.mem_cons.mp h with rfl | h
    · exact .inl (List.mem_cons_self ..)
    · refine (ih h).imp (List.mem_cons_of_mem d) fun ⟨name, value, hv, hkey, hc⟩ => ?_
      exact ⟨name, value, hv, hkey.trans (List.suffix_cons d cs).isInfix, hc⟩
  | @replaced name value rest _ hv _ _ ih =>
    rcases List.mem_append.mp h with h | h
    · exact .inr ⟨name, value, hv, (List.prefix_append ..).isInfix, h⟩
    · refine (ih h).imp (List.mem_append_right _) fun ⟨name', value', hv', hkey, hc⟩ => ?_
      exact ⟨name', value', hv', hkey.trans (List.suffix_append ..).isInfix, hc⟩

/-- A text without keys stays as it is. -/
theorem KeyFree.pass_eq_self : ∀ {t : Text}, KeyFree table t → pass table t = t
  | [], _ => rfl
  | c :: cs, h => by
    obtain ⟨hc, hcs⟩ := keyFree_cons.mp h
    rw [pass_of_noKeyAt hc, hcs.pass_eq_self]

/-! ### Texts without dollar signs -/

/-- A text without dollar signs stays as it is in front of any text. -/
theorem pass_append_of_notMem {n : Text} (hn : '$' ∉ n) (t : Text) :
    pass table (n ++ t) = n ++ pass table t := by
  induction n with
  | nil => rfl
  | cons c n ih =>
    obtain ⟨hc, hn⟩ := not_or.mp (List.mem_cons.not.mp hn)
    rw [List.cons_append, pass_of_noKeyAt (noKeyAt_of_ne (Ne.symm hc)), ih hn, List.cons_append]

theorem keyFree_append_of_notMem {n : Text} (hn : '$' ∉ n) (t : Text) :
    KeyFree table (n ++ t) ↔ KeyFree table t := by
  induction n with
  | nil => rfl
  | cons c n ih =>
    obtain ⟨hc, hn⟩ := not_or.mp (List.mem_cons.not.mp hn)
    rw [List.cons_append, keyFree_cons, ih hn]
    exact and_iff_right (noKeyAt_of_ne (Ne.symm hc))

theorem keyFree_of_notMem (h : '$' ∉ t) : KeyFree table t := by
  rw [← List.append_nil t, keyFree_append_of_notMem h]
  exact keyFree_nil table

/-! ### Cutting a text -/

/-- No key contains the character. -/
def Separates (table : Dict Text) (c : Char) : Prop := c ≠ '$' ∧ ∀ name ∈ table.keys, c ∉ name

/-- The text is empty or starts with a character that no key contains. -/
def Separated (table : Dict Text) (t : Text) : Prop := ∀ c ∈ t.head?, Separates table c

theorem Separates.separated {c : Char} (hc : Separates table c) (t : Text) :
    Separated table (c :: t) := fun d hd => by
  cases hd
  exact hc

/-- A prefix without the character that a text is cut at does not reach across the cut. -/
theorem prefix_of_prefix_append {n : Text} (h : n <+: t ++ u) (hu : ∀ c ∈ u.head?, c ∉ n) :
    n <+: t := by
  rcases List.prefix_or_prefix_of_prefix h (List.prefix_append t u) with h' | ⟨s, rfl⟩
  · exact h'
  · cases s with
    | nil => rw [List.append_nil]
    | cons d s =>
      obtain ⟨v, rfl⟩ := (List.prefix_append_right_inj t).mp h
      exact absurd (List.mem_append_right t (List.mem_cons_self ..)) (hu d rfl)

theorem Separated.notMem_key (hu : Separated table u) {n : Text} (hn : n ∈ table.keys) :
    ∀ c ∈ u.head?, c ∉ key n := fun c hc hm => by
  obtain ⟨hd, hnames⟩ := hu c hc
  rcases List.mem_cons.mp hm with rfl | hm
  · exact hd rfl
  · exact hnames n hn hm

/-- A text that is cut where no key can reach across is passed over piece by piece. -/
theorem pass_append (hu : Separated table u) (t : Text) :
    pass table (t ++ u) = pass table t ++ pass table u := by
  have hs := scansTo_pass table t
  generalize pass table t = r at hs
  induction hs with
  | done => rfl
  | copied h _ ih =>
    rw [List.cons_append, List.cons_append, pass_of_noKeyAt, ih]
    exact fun n hn hp => h n hn (prefix_of_prefix_append hp (hu.notMem_key hn))
  | @replaced name value rest r hv hl _ ih =>
    rw [List.append_assoc, pass_of_longestAt hv ⟨List.prefix_append .., fun n hn hp => ?_⟩, ih,
      List.append_assoc]
    refine hl n hn (prefix_of_prefix_append (u := u) ?_ (hu.notMem_key hn))
    rw [List.append_assoc]
    exact key_prefix_cons.mpr ⟨rfl, hp⟩

/-- The two sides of a separator are passed over one by one. -/
theorem pass_append_sep_cons {c : Char} (hc : Separates table c) (t u : Text) :
    pass table (t ++ c :: u) = pass table t ++ c :: pass table u := by
  rw [pass_append (hc.separated u), pass_of_noKeyAt (noKeyAt_of_ne hc.1)]

/-- No key reaches across a separator. -/
theorem keyFree_append_sep_cons {c : Char} (hc : Separates table c) (u : Text) : ∀ t : Text,
    KeyFree table (t ++ c :: u) ↔ KeyFree table t ∧ KeyFree table u
  | [] => by
    rw [List.nil_append, keyFree_cons]
    exact ⟨fun h => ⟨keyFree_nil table, h.2⟩, fun h => ⟨noKeyAt_of_ne hc.1, h.2⟩⟩
  | d :: t => by
    have hhead : NoKeyAt table (d :: t ++ c :: u) ↔ NoKeyAt table (d :: t) :=
      forall₂_congr fun name hn => not_congr
        ⟨fun hp => prefix_of_prefix_append hp ((hc.separated u).notMem_key hn),
          fun hp => hp.trans (List.prefix_append ..)⟩
    rw [List.cons_append, keyFree_cons, keyFree_cons, keyFree_append_sep_cons hc u t, ← hhead,
      and_assoc, List.cons_append]

end Rollout
