/-!
Text as a list of characters. Cutting at a separator and joining again are inverse to each other
(`join_split`), and the lines of a captured output are its pieces between newlines. Blank characters
are those of the Unicode property White_Space, and can be removed from the ends of a text. Characters
may be written as letters or numbers behind a backslash.
-/

namespace Rollout

/-- Text is a list of characters, ordered by code points. -/
abbrev Text := List Char

/-- A string literal stands for its characters. -/
instance : Coe String Text := ⟨String.toList⟩

namespace Text

/-- The pieces between the separators; there is always one more piece than separators. -/
def split (sep : Char) : Text → List Text
  | [] => [[]]
  | c :: cs =>
    if c = sep then [] :: split sep cs
    else match split sep cs with
      | [] => [[c]]
      | piece :: pieces => (c :: piece) :: pieces

/-- The texts in order with the separator between neighbours. -/
def join (sep : Text) : List Text → Text
  | [] => []
  | [t] => t
  | t :: u :: ts => t ++ sep ++ join sep (u :: ts)

/-- Texts separated by a comma and a blank. -/
def commaList (ts : List Text) : Text := join ", " ts

/-- Does the text occur somewhere inside the other one? -/
def occursIn (needle : Text) : Text → Bool
  | [] => needle.isEmpty
  | c :: cs => needle.isPrefixOf (c :: cs) || occursIn needle cs

/-- A natural number in decimal digits. -/
def ofNat (n : Nat) : Text := (Nat.repr n).toList

/-- An integer in decimal digits, a negative one after a minus sign. -/
def ofInt : Int → Text
  | .ofNat n => ofNat n
  | .negSucc n => '-' :: ofNat (n + 1)

/-- The number that a nonempty text of decimal digits denotes. -/
def toNat? (t : Text) : Option Nat :=
  if t ≠ [] ∧ t.all Char.isDigit then some (t.foldl (fun n c => 10 * n + (c.toNat - 48)) 0) else none

/-! ### Lines of a captured output -/

/-- A line without the carriage return that ends it. -/
def dropReturn (line : Text) : Text :=
  if line.getLast? = some '\r' then line.dropLast else line

/-- The lines among the pieces between newlines: a last empty piece is no line, and only lines that a
newline ended lose their carriage return. -/
def linesOf : List Text → List Text
  | [] => []
  | [last] => if last = [] then [] else [last]
  | line :: next :: rest => dropReturn line :: linesOf (next :: rest)

/-- The lines of a text. -/
def lines (t : Text) : List Text := linesOf (split '\n' t)

/-! ### Laws of cutting and joining -/

theorem split_ne_nil (sep : Char) (t : Text) : split sep t ≠ [] := by
  cases t with
  | nil => simp [split]
  | cons c cs => grind [split]

theorem not_mem_of_mem_split {sep : Char} {t piece : Text} (h : piece ∈ split sep t) : sep ∉ piece := by
  induction t generalizing piece with
  | nil => simp_all [split]
  | cons c cs ih =>
    rw [split] at h
    split at h
    · grind
    · split at h <;> grind

theorem join_split (sep : Char) (t : Text) : join [sep] (split sep t) = t := by
  induction t with
  | nil => rfl
  | cons c cs ih =>
    have h := split_ne_nil sep cs
    rw [split]
    split
    · next hc =>
      cases hs : split sep cs with
      | nil => exact absurd hs h
      | cons p ps => simp [join, ← hs, ih, hc]
    · cases hs : split sep cs with
      | nil => exact absurd hs h
      | cons p ps => cases ps <;> simp_all [join]

end Text

end Rollout

/-! ### Blanks -/

namespace Rollout

namespace Text

/-- The Unicode property White_Space. -/
def isBlank (c : Char) : Bool :=
  ('\t' ≤ c && c ≤ '\r') || c = ' ' || c = '\u0085' || c = '\u00a0' || c = '\u1680'
    || ('\u2000' ≤ c && c ≤ '\u200a') || c = '\u2028' || c = '\u2029' || c = '\u202f' || c = '\u205f'
    || c = '\u3000'

/-- The text without the blanks at its start. -/
def trimStart (t : Text) : Text := t.dropWhile isBlank

/-- The text without the blanks at its end. -/
def trimEnd (t : Text) : Text := (t.reverse.dropWhile isBlank).reverse

/-- The text without the blanks at its two ends. -/
def trim (t : Text) : Text := trimEnd (trimStart t)

/-- Is nothing left of the text when blanks are removed? -/
def isBlankText (t : Text) : Bool := t.all isBlank

theorem isBlank_of_isWhitespace {c : Char} (h : c.isWhitespace = true) : isBlank c = true := by
  simp only [Char.isWhitespace, Bool.or_eq_true, decide_eq_true_eq] at h
  rcases h with ((h | h) | h) | h <;> subst h <;> decide

end Text

end Rollout

/-! ### Characters behind a backslash -/

namespace Rollout.Escape

/-- The number that digits to a base denote. -/
def digitsValue (base : Nat) (ds : Text) : Nat :=
  ds.foldl (fun n c => base * n + (if c.isDigit then c.toNat - 48 else c.toLower.toNat - 87)) 0

/-- Is it an octal digit? -/
def isOctal (c : Char) : Bool := '0' ≤ c && c ≤ '7'

/-- Is it a hexadecimal digit? -/
def isHex (c : Char) : Bool := c.isDigit || ('a' ≤ c.toLower && c.toLower ≤ 'f')

/-- A number in hexadecimal digits, at least so many. -/
def hexDigits (least n : Nat) : Text :=
  let ds := Nat.toDigits 16 n
  List.replicate (least - ds.length) '0' ++ ds

/-- The character of that number if it is one of the first, and else how its number is written. -/
def encoded (n : Nat) : Text :=
  if n < 128 then [Char.ofNat n]
  else if n < 65536 then ['\\', 'u'] ++ (hexDigits 4 n).map Char.toUpper
  else ['\\', 'U'] ++ (hexDigits 8 n).map Char.toUpper

/-- What a letter stands for behind a backslash. -/
def escapeOf? : Char → Option Char
  | 'a' => some '\x07'
  | 'b' => some '\x08'
  | 'e' => some '\x1b'
  | 'E' => some '\x1b'
  | 'f' => some '\x0c'
  | 'n' => some '\n'
  | 'r' => some '\r'
  | 't' => some '\t'
  | 'v' => some '\x0b'
  | _ => none

end Rollout.Escape
