import Rollout.Text.Basic

/-!
The tokens of an Upfile. A lexer hands out one token at a time and keeps what is left to read; after the
token that ends the text, or the one that tells of a stray NUL, it hands out nothing more. Every token
handed out shortens what is left (`left_next_lt`), which bounds all loops over tokens.
-/

namespace Rollout.Upfile

/-- The kinds of tokens. -/
inductive TokenKind | eof | error | space | tab | newline | text | comment | inventory
  deriving DecidableEq

/-- A token with the characters it covers. -/
structure Token where
  /-- Its kind. -/
  kind : TokenKind
  /-- The characters it covers. -/
  text : Text
  deriving DecidableEq

/-- A carriage return ends a line just as a newline does. -/
def isLineEnd (c : Char) : Bool := c = '\n' || c = '\r'

/-- A word goes on up to a blank, a tab, the end of the line or a NUL. -/
def isWordChar (c : Char) : Bool := c ≠ ' ' && c ≠ '\t' && !isLineEnd c && c ≠ '\x00'

/-- A word is a keyword only as a whole. -/
def wordKind (word : Text) : TokenKind := if word = "inventory".toList then .inventory else .text

/-- The longest token that starts with the character `c` and goes on in `cs`; the character is not NUL. -/
def Token.longest (c : Char) (cs : Text) : Token :=
  if c = ' ' then ⟨.space, c :: cs.takeWhile (· = ' ')⟩
  else if c = '\t' then ⟨.tab, [c]⟩
  else if isLineEnd c then ⟨.newline, [c]⟩
  else if c = '#' then ⟨.comment, c :: cs.takeWhile fun d => !isLineEnd d⟩
  else ⟨wordKind (c :: cs.takeWhile isWordChar), c :: cs.takeWhile isWordChar⟩

/-- The number of bytes of a text. -/
def byteLength (t : Text) : Nat := t.foldr (fun c n => c.utf8Size + n) 0

/-- A lexer in the middle of a text. -/
structure Lexer where
  /-- What is left to read. -/
  rest : Text
  /-- The number of bytes read. -/
  offset : Nat
  /-- Has the last token been handed out? -/
  done : Bool
  /-- The offset of the NUL that ended the tokens. -/
  fault : Option Nat
  deriving DecidableEq

namespace Lexer

/-- A lexer at the start of a text. -/
def ofText (t : Text) : Lexer := ⟨t, 0, false, none⟩

/-- The next token, and the lexer after it. -/
def next (l : Lexer) : Option (Token × Lexer) :=
  if l.done then none
  else match l.rest with
    | [] => some (⟨.eof, []⟩, { l with done := true })
    | c :: cs =>
      if c = '\x00' then some (⟨.error, []⟩, ⟨cs, l.offset + 1, true, some l.offset⟩)
      else
        let t := Token.longest c cs
        some (t, { l with rest := l.rest.drop t.text.length, offset := l.offset + byteLength t.text })

/-- A bound on the number of tokens to come. -/
def left (l : Lexer) : Nat := if l.done then 0 else l.rest.length + 1

theorem text_longest_ne_nil (c : Char) (cs : Text) : (Token.longest c cs).text ≠ [] := by
  grind [Token.longest]

theorem left_next_lt {l l' : Lexer} {t : Token} (h : l.next = some (t, l')) : l'.left < l.left := by
  unfold next at h
  split at h
  · cases h
  · next hd =>
    split at h
    · simp only [Option.some.injEq, Prod.mk.injEq] at h
      simp [← h.2, left, hd]
    · next c cs hr =>
      split at h
      · simp only [Option.some.injEq, Prod.mk.injEq] at h
        simp [← h.2, left, hd]
      · simp only [Option.some.injEq, Prod.mk.injEq] at h
        have := List.length_pos_iff.mpr (text_longest_ne_nil c cs)
        simp only [← h.2, left, hd, hr, List.length_drop, List.length_cons, Bool.false_eq_true, ↓reduceIte]
        omega

/-- All tokens to come with the lexer after them. -/
def drain (l : Lexer) : List Token × Lexer :=
  match h : l.next with
  | none => ([], l)
  | some (t, l') =>
    have := left_next_lt h
    let r := drain l'
    (t :: r.1, r.2)
  termination_by l.left

/-- All tokens to come, the one that ends them included. -/
def tokens (l : Lexer) : List Token := l.drain.1

/-- What an offset of a stray NUL is reported as. -/
def faultMessage (offset : Nat) : Text := "unexpected NUL byte at offset " ++ Text.ofNat offset

end Lexer

end Rollout.Upfile
