import Rollout.Proofs.Text
import Rollout.Proofs.Upfile.Lines

/-!
The tokens of a line. A line without NULs before its comment is cut into runs of spaces, tabs and
words, and a comment may follow (`cut_code`); each piece is what is read next, whatever comes after
it (`Token.IsLexeme.lexes`).
-/

namespace Rollout.Upfile

theorem mem_takeWhile {p : Char → Bool} {t : Text} {d : Char} (h : d ∈ t.takeWhile p) :
    p d = true :=
  List.all_eq_true.mp List.all_takeWhile d h

theorem takeWhile_append_of_head {p : Char → Bool} {s t : Text} (hs : ∀ d ∈ s, p d = true)
    (ht : ∀ d ∈ t.head?, p d = false) : (s ++ t).takeWhile p = s := by
  rw [List.takeWhile_append_of_pos hs]
  cases t with
  | nil => simp
  | cons d t => simp [ht d rfl]

theorem dropWhile_append_of_head {p : Char → Bool} {s t : Text} (hs : ∀ d ∈ s, p d = true)
    (ht : ∀ d ∈ t.head?, p d = false) : (s ++ t).dropWhile p = t := by
  have h := List.takeWhile_append_dropWhile (p := p) (l := s ++ t)
  rw [takeWhile_append_of_head hs ht] at h
  exact List.append_cancel_left h

/-! ### Cutting a line -/

/-- A word as it stands in a text: it does not start with a `#`, for that starts a comment. -/
structure IsWord (w : Text) : Prop where
  /-- It has a character. -/
  ne_nil : w ≠ []
  /-- It is no comment. -/
  head_ne : w.head? ≠ some '#'
  /-- Its characters do not end it. -/
  isWordChar : ∀ d ∈ w, isWordChar d = true

/-- How a line is cut into the tokens of its code and a comment after them. -/
inductive Cut : Text → Text → Prop
  | nil : Cut [] []
  | comment {cs : Text} (hcs : ∀ d ∈ cs, isLineEnd d = false) : Cut ('#' :: cs) []
  | spaces {s line c : Text} (hs : ∀ d ∈ s, d = ' ') (hl : line.head? ≠ some ' ') (h : Cut line c) :
    Cut (' ' :: (s ++ line)) (' ' :: (s ++ c))
  | tab {line c : Text} (h : Cut line c) : Cut ('\t' :: line) ('\t' :: c)
  | word {w line c : Text} (hw : IsWord w) (hl : ∀ d ∈ line.head?, isInked d = false)
    (h : Cut line c) : Cut (w ++ line) (w ++ c)

theorem isWordChar_iff {d : Char} :
    isWordChar d = true ↔ isInked d = true ∧ isLineEnd d = false ∧ d ≠ '\x00' := by
  simp [isWordChar, isInked, and_assoc]

theorem IsWord.isInked {w : Text} (hw : IsWord w) : ∀ d ∈ w, isInked d = true :=
  fun d hd => (isWordChar_iff.mp (hw.isWordChar d hd)).1

/-- Code starts as its line does, unless there is none. -/
theorem Cut.head? {line c : Text} (h : Cut line c) : c = [] ∨ c.head? = line.head? := by
  cases h with
  | nil => exact .inl rfl
  | comment => exact .inl rfl
  | spaces => exact .inr rfl
  | tab => exact .inr rfl
  | @word w line c hw hl h =>
    obtain ⟨a, w', rfl⟩ := List.exists_cons_of_ne_nil hw.ne_nil
    exact .inr rfl

/-- Where no comment starts, it does not matter whether one could. -/
theorem codeFrom_of_head {t : Text} (h : t.head? ≠ some '#') (b b' : Bool) :
    codeFrom b t = codeFrom b' t := by
  cases t with
  | nil => rfl
  | cons c cs =>
    have hc : c ≠ '#' := fun hc => h (congrArg some hc)
    simp [codeFrom, hc]

theorem isPrefix_codeFrom : ∀ (b : Bool) (t : Text), codeFrom b t <+: t
  | _, [] => List.prefix_rfl
  | b, c :: cs => by
    rw [codeFrom]
    split
    · exact List.nil_prefix
    · exact List.cons_prefix_cons.mpr ⟨rfl, isPrefix_codeFrom _ cs⟩

theorem codeFrom_spaces : ∀ {s : Text},
    (∀ d ∈ s, d = ' ') → ∀ t : Text, codeFrom true (s ++ t) = s ++ codeFrom true t
  | [], _, _ => rfl
  | d :: s, h, t => by
    obtain ⟨rfl, hs⟩ := List.forall_mem_cons.mp h
    simp [codeFrom, codeFrom_spaces hs t]

theorem codeFrom_inked : ∀ {w : Text}, (∀ d ∈ w, isInked d = true) → ∀ t : Text,
    codeFrom false (w ++ t) = w ++ codeFrom false t
  | [], _, _ => rfl
  | d :: w, h, t => by
    obtain ⟨hd, hw⟩ := List.forall_mem_cons.mp h
    have hd : (decide (d = ' ') || decide (d = '\t')) = false := by simpa [isInked] using hd
    simp [codeFrom, hd, codeFrom_inked hw t]

/-- A word that is followed by a blank is code, whatever it is followed by. -/
theorem code_inked {w t : Text} (hne : w ≠ []) (hh : w.head? ≠ some '#')
    (hw : ∀ d ∈ w, isInked d = true) (ht : ∀ d ∈ t.head?, isInked d = false) :
    code (w ++ t) = w ++ code t := by
  obtain ⟨a, w', rfl⟩ := List.exists_cons_of_ne_nil hne
  have hth : t.head? ≠ some '#' := fun h => absurd (ht '#' h) (by decide)
  have hwh : (a :: w' ++ t).head? ≠ some '#' := hh
  rw [code, codeFrom_of_head hwh true false, codeFrom_inked hw, code, codeFrom_of_head hth]

/-- The code of a line is cut into tokens, unless a NUL stands in it. -/
theorem cut_code : ∀ line : Text,
    (∀ d ∈ line, isLineEnd d = false) → '\x00' ∉ code line → Cut line (code line)
  | [], _, _ => .nil
  | a :: cs, hl, hn => by
    have hcs : ∀ d ∈ cs, isLineEnd d = false := fun d hd => hl d (List.mem_cons_of_mem a hd)
    by_cases hc : a = '#'
    · subst hc
      exact .comment hcs
    by_cases ht : a = '\t'
    · subst ht
      have hcode : code ('\t' :: cs) = '\t' :: code cs := rfl
      rw [hcode] at hn ⊢
      exact .tab (cut_code cs hcs fun h => hn (List.mem_cons_of_mem _ h))
    -- spaces and words are taken off as a whole, so the rest of the line is not just its tail
    have hlen (p : Char → Bool) : (cs.dropWhile p).length < (a :: cs).length :=
      Nat.lt_succ_of_le ((List.dropWhile_sublist p).length_le)
    by_cases hs : a = ' '
    · subst hs
      have hall : ∀ d ∈ cs.takeWhile (· = ' '), d = ' ' := fun d hd => by
        simpa using mem_takeWhile hd
      have hsplit := List.takeWhile_append_dropWhile (p := (· = ' ')) (l := cs)
      have hcode :
          code (' ' :: cs) = ' ' :: (cs.takeWhile (· = ' ') ++ code (cs.dropWhile (· = ' '))) := by
        change ' ' :: codeFrom true cs = _
        rw [code, ← codeFrom_spaces hall, hsplit]
      rw [hcode] at hn ⊢
      have hhead : (cs.dropWhile (· = ' ')).head? ≠ some ' ' :=
        fun h => by simpa using head?_dropWhile _ h
      have := hlen (· = ' ')
      have h := Cut.spaces hall hhead
        (cut_code (cs.dropWhile (· = ' ')) (fun d hd => hcs d (List.dropWhile_subset _ hd))
          fun h => hn (by simp [h]))
      rwa [hsplit] at h
    · have hall : ∀ d ∈ a :: cs.takeWhile isInked, isInked d = true :=
        List.forall_mem_cons.mpr ⟨by simp [isInked, ht, hs], fun d hd => mem_takeWhile hd⟩
      have hsplit : a :: cs = (a :: cs.takeWhile isInked) ++ cs.dropWhile isInked := by
        rw [List.cons_append, List.takeWhile_append_dropWhile]
      have hcode : code (a :: cs) = (a :: cs.takeWhile isInked) ++ code (cs.dropWhile isInked) := by
        rw [hsplit, code_inked (by simp) (by simpa using hc) hall head?_dropWhile]
      have hline : ∀ d ∈ a :: cs.takeWhile isInked, isLineEnd d = false :=
        List.forall_mem_cons.mpr
          ⟨hl a (List.mem_cons_self ..), fun d hd => hcs d (List.takeWhile_subset _ hd)⟩
      rw [hcode] at hn ⊢
      have hw : IsWord (a :: cs.takeWhile isInked) :=
        ⟨by simp, by simpa using hc, fun d hd => isWordChar_iff.mpr
          ⟨hall d hd, hline d hd, fun h => hn (List.mem_append_left _ (h ▸ hd))⟩⟩
      have := hlen isInked
      rw [hsplit]
      exact .word hw head?_dropWhile (cut_code (cs.dropWhile isInked)
        (fun d hd => hcs d (List.dropWhile_subset _ hd)) fun h => hn (List.mem_append_right _ h))
  termination_by line => line.length
  decreasing_by
    · exact Nat.lt_succ_self _
    · assumption
    · assumption

/-! ### Words of a header -/

theorem words_nil : words [] = [] := rfl

/-- Spaces in front of the words do not matter. -/
theorem words_spaces : ∀ {s : Text}, (∀ d ∈ s, d = ' ') → ∀ t : Text, words (s ++ t) = words t
  | [], _, _ => rfl
  | d :: s, h, t => by
    obtain ⟨rfl, hs⟩ := List.forall_mem_cons.mp h
    rw [← words_spaces hs t, words, List.cons_append, List.splitOnP_cons_eq_if_modifyHead]
    rfl

/-- The first word is the one that the text starts with. -/
theorem words_word {w t : Text} (hne : w ≠ []) (hw : ∀ d ∈ w, isInked d = true)
    (ht : ∀ d ∈ t.head?, d = ' ') : words (w ++ t) = w :: words t := by
  have hw : ∀ d ∈ w, decide (d = ' ') = false := fun d hd => by
    have := hw d hd
    grind [isInked]
  cases t with
  | nil => simp [words, List.splitOnP_eq_singleton hw, hne]
  | cons d t =>
    obtain rfl := ht d rfl
    rw [words, List.splitOnP_append_cons_of_forall_mem hw ' ' (by simp),
      List.filter_cons_of_pos (by simpa using hne)]
    exact congrArg (w :: ·) (words_spaces (s := [' ']) (by simp) t).symm

/-! ### Lexemes -/

/-- What a token may cover. -/
inductive Token.IsLexeme : Token → Prop
  | space {s : Text} (hs : ∀ c ∈ s, c = ' ') : IsLexeme ⟨.space, ' ' :: s⟩
  | tab : IsLexeme ⟨.tab, ['\t']⟩
  | newline {c : Char} (hc : isLineEnd c = true) : IsLexeme ⟨.newline, [c]⟩
  | text {w : Text} (hw : IsWord w) (hk : w ≠ "inventory".toList) : IsLexeme ⟨.text, w⟩
  | inventory : IsLexeme ⟨.inventory, "inventory".toList⟩
  | comment {cs : Text} (hcs : ∀ c ∈ cs, isLineEnd c = false) : IsLexeme ⟨.comment, '#' :: cs⟩

/-- Does a token of the kind go on with the character? -/
def TokenKind.goesOn : TokenKind → Char → Bool
  | .space, c => c = ' '
  | .text, c | .inventory, c => isWordChar c
  | .comment, c => !isLineEnd c
  | _, _ => false

/-- A token of the kind does not reach into the text. -/
def TokenKind.Stops (k : TokenKind) (rest : Text) : Prop := ∀ c ∈ rest.head?, k.goesOn c = false

theorem isWord_inventory : IsWord "inventory".toList :=
  ⟨by decide, by decide, List.all_eq_true.mp (by decide)⟩

/-- A word is a text or the keyword. -/
theorem wordKind_eq (w : Text) : wordKind w = .text ∨ wordKind w = .inventory := by
  unfold wordKind
  split <;> simp

theorem isLexeme_word {w : Text} (hw : IsWord w) : Token.IsLexeme ⟨wordKind w, w⟩ := by
  unfold wordKind
  split
  · next hk => exact hk ▸ .inventory
  · next hk => exact .text hw hk

theorem stops_wordKind_iff {w rest : Text} :
    (wordKind w).Stops rest ↔ ∀ c ∈ rest.head?, isWordChar c = false := by
  rcases wordKind_eq w with h | h <;> rw [h] <;> rfl

theorem longest_word {c : Char} {cs rest : Text} (hw : IsWord (c :: cs))
    (hr : ∀ d ∈ rest.head?, isWordChar d = false) :
    c ≠ '\x00' ∧ Token.longest c (cs ++ rest) = ⟨wordKind (c :: cs), c :: cs⟩ := by
  obtain ⟨hc, hcs⟩ := List.forall_mem_cons.mp hw.isWordChar
  obtain ⟨hi, he, hn⟩ := isWordChar_iff.mp hc
  have hb : c ≠ ' ' ∧ c ≠ '\t' := by simpa [isInked] using hi
  have hh : c ≠ '#' := by simpa using hw.head_ne
  exact ⟨hn, by simp [Token.longest, takeWhile_append_of_head hcs hr, he, hh, hb]⟩

/-- A token that does not reach into what comes after it is the longest one there. -/
theorem Token.IsLexeme.longest {t : Token} {rest : Text} (ht : t.IsLexeme)
    (hr : t.kind.Stops rest) :
    ∃ c cs, t.text = c :: cs ∧ c ≠ '\x00' ∧ Token.longest c (cs ++ rest) = t := by
  cases ht with
  | @space s hs =>
    have htake : (s ++ rest).takeWhile (· = ' ') = s :=
      takeWhile_append_of_head (by simpa using hs) hr
    exact ⟨' ', s, rfl, by decide, by simp [Token.longest, htake]⟩
  | tab => exact ⟨'\t', [], rfl, by decide, by simp [Token.longest]⟩
  | @newline c hc =>
    rcases Bool.or_eq_true _ _ ▸ hc with h | h <;> obtain rfl := of_decide_eq_true h <;>
      exact ⟨_, [], rfl, by decide, by simp [Token.longest, isLineEnd]⟩
  | @text w hw hk =>
    obtain ⟨c, cs, rfl⟩ := List.exists_cons_of_ne_nil hw.ne_nil
    obtain ⟨hn, hl⟩ := longest_word hw hr
    exact ⟨c, cs, rfl, hn, by rw [hl, wordKind, if_neg hk]⟩
  | inventory =>
    obtain ⟨hn, hl⟩ := longest_word isWord_inventory hr
    exact ⟨_, _, rfl, hn, hl⟩
  | @comment cs hcs =>
    have htake : (cs ++ rest).takeWhile (fun d => !isLineEnd d) = cs :=
      takeWhile_append_of_head (by simpa using hcs) hr
    have he : isLineEnd '#' = false := rfl
    exact ⟨'#', cs, rfl, by decide, by simp [Token.longest, htake, he]⟩

/-- What is the longest token at a place does not reach into what comes after it. -/
theorem isLexeme_longest {c : Char} (cs : Text) (hc : c ≠ '\x00') :
    ∃ rest, c :: cs = (Token.longest c cs).text ++ rest ∧ (Token.longest c cs).IsLexeme ∧
      (Token.longest c cs).kind.Stops rest := by
  have hcut (p : Char → Bool) : c :: cs = c :: cs.takeWhile p ++ cs.dropWhile p := by
    rw [List.cons_append, List.takeWhile_append_dropWhile]
  unfold Token.longest
  split
  · next hs =>
    subst hs
    exact ⟨_, hcut _, .space fun d hd => by simpa using mem_takeWhile hd, head?_dropWhile⟩
  next hs =>
  split
  · next ht =>
    subst ht
    exact ⟨cs, rfl, .tab, fun _ _ => rfl⟩
  next ht =>
  split
  · next he => exact ⟨cs, rfl, .newline he, fun _ _ => rfl⟩
  next he =>
  split
  · next hh =>
    subst hh
    exact ⟨_, hcut _, .comment fun d hd => by simpa using mem_takeWhile hd, head?_dropWhile⟩
  next hh =>
  have hw : IsWord (c :: cs.takeWhile isWordChar) := by
    refine ⟨by simp, by simpa using hh, List.forall_mem_cons.mpr ⟨?_, fun d => mem_takeWhile⟩⟩
    exact isWordChar_iff.mpr ⟨by simp [isInked, hs, ht], by simpa using he, hc⟩
  exact ⟨_, hcut _, isLexeme_word hw, stops_wordKind_iff.mpr head?_dropWhile⟩

theorem Token.IsLexeme.next {t : Token} {rest : Text} (ht : t.IsLexeme) (hr : t.kind.Stops rest)
    (offset : Nat) : (Lexer.mk (t.text ++ rest) offset false none).next =
      some (t, ⟨rest, offset + byteLength t.text, false, none⟩) := by
  obtain ⟨c, cs, hc, hn, hl⟩ := ht.longest hr
  have hdrop : (t.text ++ rest).drop t.text.length = rest := List.drop_left
  rw [hc, List.cons_append] at hdrop ⊢
  simp only [Lexer.next, Bool.false_eq_true, if_false, if_neg hn, hl]
  rw [hc, hdrop]

/-! ### What is read next -/

/-- The place before a text that is still to be read. -/
def Cursor.before (offset : Nat) (text : Text) : Cursor := ⟨none, ⟨text, offset, false, none⟩⟩

/-- The token is what is read next in the text, and the rest is what comes after it. -/
def Lexes (text : Text) (t : Token) (rest : Text) : Prop :=
  ∀ offset, ∃ offset', Machine.read (.before offset text) = .ok (t, .before offset' rest)

/-- Nothing more stands in the line. -/
def AtLineEnd (text : Text) : Prop := ∀ d ∈ text.head?, isLineEnd d = true

theorem Token.IsLexeme.kind_ne {t : Token} (ht : t.IsLexeme) : t.kind ≠ .eof ∧ t.kind ≠ .error := by
  cases ht <;> exact ⟨nofun, nofun⟩

/-- The token is what is read next. -/
theorem Token.IsLexeme.lexes {t : Token} {rest : Text} (ht : t.IsLexeme) (hr : t.kind.Stops rest) :
    Lexes (t.text ++ rest) t rest := fun offset => by
  refine ⟨offset + byteLength t.text, ?_⟩
  simp only [Machine.read, Cursor.read, Cursor.before, ht.next hr, if_neg ht.kind_ne.2]

theorem lexes_tab (rest : Text) : Lexes ('\t' :: rest) ⟨.tab, ['\t']⟩ rest :=
  Token.IsLexeme.tab.lexes fun _ _ => rfl

theorem lexes_lineEnd {e : Char} (he : isLineEnd e = true) (rest : Text) :
    Lexes (e :: rest) ⟨.newline, [e]⟩ rest :=
  (Token.IsLexeme.newline he).lexes fun _ _ => rfl

theorem lexes_spaces {s rest : Text} (hs : ∀ d ∈ s, d = ' ') (hr : rest.head? ≠ some ' ') :
    Lexes (' ' :: (s ++ rest)) ⟨.space, ' ' :: s⟩ rest :=
  (Token.IsLexeme.space hs).lexes fun _ hd => decide_eq_false fun h => hr (h ▸ hd)

theorem lexes_comment {cs rest : Text} (hcs : ∀ d ∈ cs, isLineEnd d = false) (hr : AtLineEnd rest) :
    Lexes ('#' :: (cs ++ rest)) ⟨.comment, '#' :: cs⟩ rest :=
  (Token.IsLexeme.comment hcs).lexes fun d hd => by simp [TokenKind.goesOn, hr d hd]

theorem lexes_word {w rest : Text} (hw : IsWord w) (hr : ∀ d ∈ rest.head?, isWordChar d = false) :
    Lexes (w ++ rest) ⟨wordKind w, w⟩ rest :=
  (isLexeme_word hw).lexes (stops_wordKind_iff.mpr hr)

end Rollout.Upfile
