import Rollout.Text.Utf8

/-!
Names as messages show them: between quotes, with escapes for what cannot be printed, so that a shell would read
the name back.
-/

namespace Rollout.Unix

namespace Quotation

/-- Can the character be printed? -/
def isPrinted (c : Char) : Bool := ' ' ≤ c && c ≤ '~'

/-- A number of a byte with three octal digits. -/
def octal (c : Char) : Text :=
  let n := c.toNat
  [Nat.digitChar (n / 64 % 8), Nat.digitChar (n / 8 % 8), Nat.digitChar (n % 8)]

/-- What stands behind a backslash for a character that cannot be printed. -/
def escape (c : Char) : Text :=
  match c with
  | '\x07' => ['a']
  | '\x08' => ['b']
  | '\x0c' => ['f']
  | '\n' => ['n']
  | '\r' => ['r']
  | '\t' => ['t']
  | '\x0b' => ['v']
  | c => octal c

/-- Characters that no kind of quotation has to care for. -/
def isPlain (c : Char) : Bool := c.isAlphanum || "%+,-./:]_@".toList.contains c

/-- Must a name be quoted because of the character at this index? -/
def isSpecial (alone first : Bool) (c : Char) : Bool :=
  !isPrinted c || " !\"$&()*;<=>[^`|'\\?".toList.contains c || (first && (c = '#' || c = '~'))
    || (alone && (c = '\x7b' || c = '\x7d'))

/-- Must the name be quoted? -/
def isNeeded (t : Text) : Bool :=
  match t with
  | [] => true
  | c :: cs => isSpecial (cs = []) true c || cs.any (isSpecial false false)

/-- The characters of a name between single quotes; those that cannot be printed stand in quotes of their own,
which may be open. -/
def singleQuoted : Bool → Text → Text
  | _, [] => ['\'']
  | isOpen, c :: cs =>
    if isPrinted c then
      let reopened : Text := if isOpen then "''" else []
      reopened ++ (if c = '\'' then "'\\''".toList else [c]) ++ singleQuoted false cs
    else (if isOpen then [] else "'$'".toList) ++ '\\' :: escape c ++ singleQuoted true cs

/-- The characters of a name that stands between quotes, behind backslashes where they need it. -/
def backslashed (quote : Char) (t : Text) : Text :=
  t.flatMap fun c =>
    if c = quote || c = '\\' then ['\\', c] else if isPrinted c then [c] else '\\' :: escape c

end Quotation

open Quotation in
/-- The name between quotes from which a shell would read it. -/
def inShellQuotes (t : Text) : Text :=
  if t.contains '\'' && t.all (fun c => isPlain c || c = ' ' || c = '\'') then '"' :: t ++ ['"']
  else '\'' :: singleQuoted false t

/-- The name, in quotes if a shell would need them. -/
def nameOf (t : Text) : Text := if Quotation.isNeeded t then inShellQuotes t else t

/-- The text between quotes. -/
def inQuotes (t : Text) : Text := '\'' :: Quotation.backslashed '\'' t ++ ['\'']

end Rollout.Unix
