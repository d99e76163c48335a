import Rollout.Text.Printable
import Rollout.Upfile.Token

/-!
Reading tokens with one token of push-back. A cursor hands out the token put back, else the next one
of its lexer, and the end of the text for ever once the lexer has run dry. The errors that end the
reading of an Upfile stand here as well, with what they are reported as.
-/

namespace Rollout.Upfile

/-- A place between two tokens, where one token may have been put back. -/
structure Cursor where
  /-- The token put back. -/
  pending : Option Token
  /-- The tokens after it. -/
  lexer : Lexer
  deriving DecidableEq

namespace Cursor

/-- The start of a text. -/
def ofText (t : Text) : Cursor := ⟨none, .ofText t⟩

/-- The next token and the place after it. -/
def read (c : Cursor) : Token × Cursor :=
  match c.pending with
  | some t => (t, ⟨none, c.lexer⟩)
  | none => match c.lexer.next with
    | some (t, l) => (t, ⟨none, l⟩)
    | none => (⟨.eof, []⟩, c)

/-- Put a token back, which is refused while another one is pending. -/
def putBack (t : Token) (c : Cursor) : Option Cursor :=
  match c.pending with
  | some _ => none
  | none => some ⟨some t, c.lexer⟩

/-- What a token put back counts for: the end of the text counts for nothing, for it can be read without
end. -/
def pendingWeight : Option Token → Nat
  | some t => if t.kind = .eof then 0 else 1
  | none => 0

/-- A bound on the number of tokens to come before the end of the text, the pending one included. -/
def left (c : Cursor) : Nat := pendingWeight c.pending + c.lexer.left

theorem left_read_le (c : Cursor) : c.read.2.left ≤ c.left := by
  unfold read
  split
  · simp [left, pendingWeight]
  · split
    · next hl =>
      have := Lexer.left_next_lt hl
      simp only [left, pendingWeight]
      omega
    · exact Nat.le_refl _

theorem left_read_lt {c : Cursor} (h : c.read.1.kind ≠ .eof) : c.read.2.left + 1 ≤ c.left := by
  unfold read at h ⊢
  split at h
  · next hp => simp only [left, hp, pendingWeight, ite_false, h]; omega
  · next hp =>
    split at h
    · next hl =>
      have := Lexer.left_next_lt hl
      simp only [left, hp, pendingWeight]
      omega
    · exact absurd rfl h

theorem left_putBack {t : Token} {c c' : Cursor} (h : c.putBack t = some c') :
    c'.left = c.left + pendingWeight (some t) := by
  unfold putBack at h
  split at h
  · cases h
  · next hp => cases h; simp only [left, hp, pendingWeight]; omega

end Cursor

end Rollout.Upfile

/-! ### Errors -/

namespace Rollout.Upfile

/-- Why a text is no Upfile. -/
inductive ParseError
  /-- A NUL stands outside of comments. -/
  | strayNul (offset : Nat)
  /-- A body line is indented by more than one tab. -/
  | doubleIndent (command : Text)
  /-- The text ends inside a header. -/
  | unexpectedEnd (command : Text)
  /-- A header is indented. -/
  | indentedHeader (found : Text)
  /-- The header of the command holds something that is no name. -/
  | strayInHeader (found : Text) (command : Text)
  /-- A body line is indented by blanks. -/
  | spaceIndent (command : Text)
  /-- A header starts with the keyword of inventories. -/
  | inlineInventory
  /-- Two commands have one name. -/
  | duplicateCommand (command : Text)
  /-- A command has no line to run. -/
  | nothingToRun (command : Text)
  /-- A command is its own guard. -/
  | selfReference (command : Text)
  /-- A guard is no command. -/
  | undefinedGuard (command guard : Text)
  /-- There is no command at all. -/
  | noCommands
  /-- The machine has no move; no text leads here. -/
  | stuck
  deriving DecidableEq

/-- What the error is reported as. -/
def ParseError.message : ParseError → Text
  | .strayNul offset => Lexer.faultMessage offset
  | .doubleIndent c => "unexpected double indent in " ++ c
  | .unexpectedEnd c => "unexpected end of file in command line for " ++ c
  | .indentedHeader found => "unexpected " ++ Text.quoted found ++ " in command header"
  | .strayInHeader found c => "unexpected " ++ Text.quoted found ++ " in command line for " ++ c
  | .spaceIndent c => "body lines of " ++ c ++ " must be indented with a tab, not spaces"
  | .inlineInventory => "inventory blocks are not supported in an Upfile, use an inventory file"
  | .duplicateCommand c => "duplicate command " ++ c
  | .nothingToRun c => "nothing to exec for " ++ c
  | .selfReference c => c ++ " depends on itself"
  | .undefinedGuard c g => g ++ " is undefined (guard of " ++ c ++ ")"
  | .noCommands => "empty Upfile, no commands defined"
  | .stuck => "lexer error"

end Rollout.Upfile
