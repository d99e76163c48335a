import Mathlib.Data.List.Chain
import Mathlib.Data.List.Induction
import Rollout.Proofs.Upfile.Tokens
import Rollout.Proofs.Utf8

/-!
Lexing is the inverse of putting tokens together (`drain_ofText`). A text is cut into tokens up to
its end or to the first NUL outside of comments, and tokens that can be told apart are found again
in what they cover. Where a NUL stands is told by the text alone (`InComment`).
-/

namespace Rollout.Upfile

/-! ### Cutting a whole text -/

/-- The text that the tokens cover. -/
def covered (ts : List Token) : Text := ts.flatMap (·.text)

/-- The text is cut into the tokens and what is left of it, and no token reaches into what comes
after it. -/
inductive CutInto (left : Text) : Text → List Token → Prop
  | nil : CutInto left left []
  | cons {t : Token} {rest : Text} {ts : List Token} (ht : t.IsLexeme) (hr : t.kind.Stops rest)
      (h : CutInto left rest ts) : CutInto left (t.text ++ rest) (t :: ts)

variable {left text : Text} {t : Token} {ts : List Token}

theorem CutInto.eq (h : CutInto left text ts) : text = covered ts ++ left := by
  induction h with
  | nil => rfl
  | cons ht hr h ih => rw [ih, covered, covered, List.flatMap_cons, List.append_assoc]

/-- Every text is cut into tokens up to its end or to a NUL. -/
theorem exists_cutInto : ∀ text : Text,
    ∃ left ts, CutInto left text ts ∧ ∀ c ∈ left.head?, c = '\x00'
  | [] => ⟨[], [], .nil, nofun⟩
  | c :: cs => by
    by_cases hc : c = '\x00'
    · exact ⟨c :: cs, [], .nil, by simpa using hc⟩
    · obtain ⟨rest, hcut, ht, hr⟩ := isLexeme_longest cs hc
      have hlt : rest.length < (c :: cs).length := by
        have := List.length_pos_iff.mpr (Lexer.text_longest_ne_nil c cs)
        rw [hcut, List.length_append]
        omega
      obtain ⟨left, ts, h, hleft⟩ := exists_cutInto rest
      exact ⟨left, _, hcut ▸ h.cons ht hr, hleft⟩
  termination_by text => text.length
  decreasing_by exact hlt

/-! ### All tokens of a text -/

namespace Lexer

theorem drain_of_next {l l' : Lexer} (h : l.next = some (t, l')) :
    l.drain = (t :: l'.drain.1, l'.drain.2) := by
  rw [drain]
  split <;> simp_all

theorem drain_of_next_eq_none {l : Lexer} (h : l.next = none) : l.drain = ([], l) := by
  rw [drain]
  split <;> simp_all

theorem drain_nil (offset : Nat) :
    (Lexer.mk [] offset false none).drain = ([⟨.eof, []⟩], ⟨[], offset, true, none⟩) := by
  rw [drain_of_next rfl, drain_of_next_eq_none rfl]

theorem drain_nul (rest : Text) (offset : Nat) :
    (Lexer.mk ('\x00' :: rest) offset false none).drain =
      ([⟨.error, []⟩], ⟨rest, offset + 1, true, some offset⟩) := by
  rw [drain_of_next rfl, drain_of_next_eq_none rfl]

end Lexer

theorem byteLength_append (t u : Text) : byteLength (t ++ u) = byteLength t + byteLength u := by
  induction t with
  | nil => simp [byteLength]
  | cons c t ih =>
    simp only [byteLength, List.cons_append, List.foldr_cons] at ih ⊢
    omega

theorem byteLength_eq (t : Text) : byteLength t = (Utf8.encode t).length := by
  induction t with
  | nil => rfl
  | cons c t ih =>
    rw [Utf8.encode_cons, List.length_append, String.length_utf8EncodeChar, ← ih]
    rfl

/-- The tokens of the cut come first. -/
theorem CutInto.drain (h : CutInto left text ts) (offset : Nat) :
    (Lexer.mk text offset false none).drain =
      (ts ++ (Lexer.mk left (offset + byteLength (covered ts)) false none).drain.1,
        (Lexer.mk left (offset + byteLength (covered ts)) false none).drain.2) := by
  induction h generalizing offset with
  | nil => rfl
  | cons ht hr h ih =>
    rw [Lexer.drain_of_next (ht.next hr offset), ih, covered, covered, List.flatMap_cons,
      byteLength_append, Nat.add_assoc, List.cons_append]

/-! ### Neighbours -/

/-- Which tokens can be told apart where one follows the other. -/
def TokenKind.mayPrecede : TokenKind → TokenKind → Bool
  | .space, k => k ≠ .space
  | .text, k | .inventory, k => k ∉ [.text, .inventory, .comment]
  | .comment, k => k = .newline
  | _, _ => true

/-- Tokens of which none reaches into the next. -/
structure Lexemes (ts : List Token) : Prop where
  isLexeme : ∀ t ∈ ts, t.IsLexeme
  chain : ts.IsChain fun t u => t.kind.mayPrecede u.kind = true

theorem goesOn_word {w : Text} (hw : IsWord w) {kind : TokenKind}
    (hk : kind = .text ∨ kind = .inventory) :
    ∃ c cs, w = c :: cs ∧ ∀ k : TokenKind, k.goesOn c = !k.mayPrecede kind := by
  obtain ⟨c, cs, rfl⟩ := List.exists_cons_of_ne_nil hw.ne_nil
  have hc : isWordChar c = true := hw.isWordChar c (List.mem_cons_self ..)
  obtain ⟨hi, he, -⟩ := isWordChar_iff.mp hc
  have hs : c ≠ ' ' := by
    rintro rfl
    cases hi
  refine ⟨c, cs, rfl, fun k => ?_⟩
  rcases hk with rfl | rfl <;> cases k <;>
    simp [TokenKind.goesOn, TokenKind.mayPrecede, hc, he, hs]

/-- A token goes on with the first character of another one unless it may precede it. -/
theorem Token.IsLexeme.goesOn (ht : t.IsLexeme) :
    ∃ c cs, t.text = c :: cs ∧ ∀ k : TokenKind, k.goesOn c = !k.mayPrecede t.kind := by
  cases ht with
  | @space s => exact ⟨' ', s, rfl, fun k => by cases k <;> rfl⟩
  | tab => exact ⟨'\t', [], rfl, fun k => by cases k <;> rfl⟩
  | @newline c hc =>
    refine ⟨c, [], rfl, fun k => ?_⟩
    rcases Bool.or_eq_true _ _ ▸ hc with h | h <;> obtain rfl := of_decide_eq_true h <;>
      cases k <;> rfl
  | text hw => exact goesOn_word hw (.inl rfl)
  | inventory => exact goesOn_word isWord_inventory (.inr rfl)
  | @comment cs => exact ⟨'#', cs, rfl, fun k => by cases k <;> rfl⟩

theorem stops_append_iff {k : TokenKind} (ht : t.IsLexeme) (rest : Text) :
    k.Stops (t.text ++ rest) ↔ k.mayPrecede t.kind = true := by
  obtain ⟨c, cs, hc, hk⟩ := ht.goesOn
  simp [TokenKind.Stops, hc, hk]

theorem CutInto.lexemes (h : CutInto left text ts) : Lexemes ts := by
  induction h with
  | nil => exact ⟨nofun, .nil⟩
  | @cons t rest ts ht hr h ih =>
    refine ⟨List.forall_mem_cons.mpr ⟨ht, ih.isLexeme⟩, ?_⟩
    cases h with
    | nil => exact .singleton t
    | cons hu hs h => exact .cons_cons ((stops_append_iff hu _).mp hr) ih.chain

/-- Such tokens are a cut of what they cover. -/
theorem Lexemes.cutInto : ∀ {ts : List Token}, Lexemes ts → CutInto [] (covered ts) ts
  | [], _ => .nil
  | [t], h => .cons (h.isLexeme t (List.mem_singleton_self t)) nofun .nil
  | t :: u :: ts, h => by
    obtain ⟨ht, hts⟩ := List.forall_mem_cons.mp h.isLexeme
    obtain ⟨htu, hchain⟩ := List.isChain_cons_cons.mp h.chain
    refine .cons ht ?_ (Lexemes.cutInto ⟨hts, hchain⟩)
    exact (stops_append_iff (hts u (List.mem_cons_self ..)) (covered ts)).mpr htu

theorem CutInto.stops_getLast (h : CutInto left text ts) :
    ∀ t ∈ ts.getLast?, t.kind.Stops left := by
  induction h with
  | nil => nofun
  | @cons t rest ts ht hr h ih =>
    cases h with
    | nil => simpa using hr
    | cons hu hs h => simpa using ih

/-! ### Comments -/

/-- The text ends within a comment. -/
def InComment (before : Text) : Prop :=
  ∃ s cs, before = s ++ '#' :: cs ∧ (∀ c ∈ s.getLast?, c = ' ' ∨ c = '\t' ∨ isLineEnd c = true) ∧
    ∀ c ∈ cs, isLineEnd c = false

/-- Every NUL of the text stands in a comment. -/
def NulsInComments (text : Text) : Prop :=
  ∀ before after, text = before ++ '\x00' :: after → InComment before

/-- A character that is covered stands in one of the tokens. -/
theorem exists_of_covered_eq {c : Char} {cs : Text} : ∀ {ts : List Token} {s : Text},
    covered ts = s ++ c :: cs → ∃ ts₁ t ts₂ u v, ts = ts₁ ++ t :: ts₂ ∧ t.text = u ++ c :: v ∧
      s = covered ts₁ ++ u ∧ cs = v ++ covered ts₂
  | [], s, h => absurd h.symm (by simp [covered])
  | t :: ts, s, h => by
    have hlater {a : Text} (hs : s = t.text ++ a) (h : covered ts = a ++ c :: cs) :
        ∃ ts₁ u ts₂ v w, t :: ts = ts₁ ++ u :: ts₂ ∧ u.text = v ++ c :: w ∧
          s = covered ts₁ ++ v ∧ cs = w ++ covered ts₂ := by
      obtain ⟨ts₁, u, ts₂, v, w, rfl, hu, rfl, hcs⟩ := exists_of_covered_eq h
      exact ⟨t :: ts₁, u, ts₂, v, w, rfl, hu, by simp [hs, covered], hcs⟩
    rw [covered, List.flatMap_cons] at h
    rcases List.append_eq_append_iff.mp h with ⟨a, hs, hts⟩ | ⟨_ | ⟨b, a⟩, ht, hcs⟩
    · exact hlater hs hts
    · exact hlater (a := []) (by simp [ht]) hcs.symm
    · cases hcs
      exact ⟨[], t, ts, s, a, rfl, ht, rfl, rfl⟩

/-- What a comment follows ends in a blank or a line end. -/
theorem getLast?_covered {ts₁ ts₂ : List Token} (h : Lexemes (ts₁ ++ t :: ts₂))
    (ht : t.kind = .comment) :
    ∀ c ∈ (covered ts₁).getLast?, c = ' ' ∨ c = '\t' ∨ isLineEnd c = true := by
  induction ts₁ using List.reverseRecOn with
  | nil => nofun
  | append_singleton ts₁ u =>
    have hu : u.IsLexeme := h.isLexeme u (by simp)
    have hk : u.kind.mayPrecede t.kind = true :=
      (List.isChain_append.mp h.chain).2.2 u (by simp) t (by simp)
    rw [covered, List.flatMap_append, List.flatMap_singleton]
    intro c hc
    cases hu with
    | @space s hs =>
      rw [List.getLast?_append_of_ne_nil _ (List.cons_ne_nil ' ' s)] at hc
      have hall : ∀ d ∈ ' ' :: s, d = ' ' := List.forall_mem_cons.mpr ⟨rfl, hs⟩
      exact .inl (hall c (List.mem_of_getLast? hc))
    | tab =>
      rw [List.getLast?_concat] at hc
      exact .inr (.inl (Option.some.inj hc).symm)
    | newline he =>
      rw [List.getLast?_concat] at hc
      exact .inr (.inr (Option.some.inj hc ▸ he))
    | text | inventory | comment => rw [ht] at hk; cases hk

/-- No token but a comment holds a NUL, or a `#` with a blank or nothing before it. -/
theorem Token.IsLexeme.kind_eq_comment {c : Char} {u v : Text} (ht : t.IsLexeme)
    (h : t.text = u ++ c :: v) (hc : c = '\x00' ∨ c = '#' ∧
      ∀ d ∈ u.getLast?, d = ' ' ∨ d = '\t' ∨ isLineEnd d = true) : t.kind = .comment := by
  have hm : c ∈ t.text := h ▸ List.mem_append_cons_self
  have hword (hw : IsWord t.text) : t.kind = .comment := by
    exfalso
    rcases hc with rfl | ⟨rfl, hu⟩
    · exact absurd (hw.isWordChar _ hm) (by decide)
    · cases hlast : u.getLast? with
      | none =>
        rw [List.getLast?_eq_none_iff.mp hlast] at h
        exact hw.head_ne (h ▸ rfl)
      | some d =>
        have hd := hw.isWordChar d (h ▸ List.mem_append_left _ (List.mem_of_getLast? hlast))
        obtain ⟨hi, he, -⟩ := isWordChar_iff.mp hd
        rcases hu d hlast with rfl | rfl | hle
        · cases hi
        · cases hi
        · rw [hle] at he
          cases he
  have hc : c ≠ ' ' ∧ c ≠ '\t' ∧ isLineEnd c = false := by
    rcases hc with rfl | ⟨rfl, -⟩ <;> decide
  cases ht with
  | space hs =>
    rcases List.mem_cons.mp hm with hm | hm
    · exact absurd hm hc.1
    · exact absurd (hs c hm) hc.1
  | tab => exact absurd (List.mem_singleton.mp hm) hc.2.1
  | newline he => exact absurd (List.mem_singleton.mp hm ▸ he) (by simp [hc.2.2])
  | text hw => exact hword hw
  | inventory => exact hword isWord_inventory
  | comment => rfl

theorem Lexemes.nulsInComments (h : Lexemes ts) : NulsInComments (covered ts) := by
  intro before after heq
  obtain ⟨ts₁, t, ts₂, u, v, rfl, ht, rfl, -⟩ := exists_of_covered_eq heq
  have hlex : t.IsLexeme := h.isLexeme t (by simp)
  have hk : t.kind = .comment := hlex.kind_eq_comment ht (.inl rfl)
  have hlast := getLast?_covered h hk
  cases hlex with
  | comment hcs =>
    cases u with
    | nil => cases ht
    | cons c u =>
      cases ht
      exact ⟨covered ts₁, u, rfl, hlast, fun d hd => hcs d (List.mem_append_left _ hd)⟩
  | space | tab | newline | text | inventory => cases hk

/-- Where a comment is open behind the tokens, it is the last of them. -/
theorem Lexemes.kind_getLast (h : Lexemes ts) (hc : InComment (covered ts)) :
    ∃ t ∈ ts.getLast?, t.kind = .comment := by
  obtain ⟨s, cs, heq, hs, hcs⟩ := hc
  obtain ⟨ts₁, t, ts₂, u, v, rfl, ht, rfl, rfl⟩ := exists_of_covered_eq heq
  have hlex : t.IsLexeme := h.isLexeme t (by simp)
  have hk : t.kind = .comment := by
    refine hlex.kind_eq_comment ht (.inr ⟨rfl, fun d hd => hs d ?_⟩)
    rw [List.getLast?_append, Option.mem_def.mp hd, Option.some_or]
    rfl
  cases ts₂ with
  | nil => exact ⟨t, by simp, hk⟩
  | cons n ts₂ =>
    have hn : n.IsLexeme := h.isLexeme n (by simp)
    have hp : t.kind.mayPrecede n.kind = true :=
      (List.isChain_cons_cons.mp (List.isChain_append.mp h.chain).2.1).1
    rw [hk] at hp
    cases hn with
    | @newline c hc => exact absurd hc (by simp [hcs c (by simp [covered])])
    | space | tab | text | inventory | comment => cases hp

/-! ### Lexing -/

/-- Lexing is the inverse of putting tokens together. -/
theorem drain_ofText :
    (∀ text : Text, ∃ (ts : List Token) (l : Lexer), Lexemes ts ∧ l.next = none ∧
      (NulsInComments text ∧ (Lexer.ofText text).drain = (ts ++ [⟨.eof, []⟩], l) ∧
          covered ts = text ∧ l.fault = none ∨
        ∃ before after, text = before ++ '\x00' :: after ∧ NulsInComments before ∧
          ¬ InComment before ∧ (Lexer.ofText text).drain = (ts ++ [⟨.error, []⟩], l) ∧
          covered ts = before ∧ l.fault.map Lexer.faultMessage =
            some ("unexpected NUL byte at offset " ++ Text.ofNat (Utf8.encode before).length))) ∧
    ∀ ts : List Token, Lexemes ts →
      (Lexer.ofText (covered ts)).tokens = ts ++ [⟨.eof, []⟩] := by
  refine ⟨fun text => ?_, fun ts h => ?_⟩
  · obtain ⟨left, ts, hcut, hleft⟩ := exists_cutInto text
    have hdrain := hcut.drain 0
    have hwf := hcut.lexemes
    cases left with
    | nil =>
      have htext : text = covered ts := by rw [hcut.eq, List.append_nil]
      rw [Lexer.drain_nil] at hdrain
      exact ⟨ts, _, hwf, rfl, .inl ⟨htext ▸ hwf.nulsInComments, hdrain, htext.symm, rfl⟩⟩
    | cons c after =>
      obtain rfl := hleft c rfl
      rw [Lexer.drain_nul, Nat.zero_add, byteLength_eq] at hdrain
      refine ⟨ts, _, hwf, rfl, .inr ⟨covered ts, after, hcut.eq, hwf.nulsInComments, fun hc => ?_,
        hdrain, rfl, rfl⟩⟩
      -- an open comment would have gone on over the NUL
      obtain ⟨t, ht, hk⟩ := hwf.kind_getLast hc
      have hstops := hcut.stops_getLast t ht
      rw [hk] at hstops
      exact absurd (hstops _ rfl) (by decide)
  · have hdrain := h.cutInto.drain 0
    rw [Lexer.drain_nil] at hdrain
    exact congrArg Prod.fst hdrain

end Rollout.Upfile
