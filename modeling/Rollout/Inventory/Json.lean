import Rollout.Inventory.Basic
import Rollout.Text.Utf8

/-!
Inventories in JSON: an object of arrays of strings. Reading first turns the text into tokens, which is
where escapes in strings are undone, and then follows the brackets. Of repeated keys the last counts.
-/

namespace Rollout.Inventory

/-! ### Strings -/

/-- What stands for a character in a string: itself, or a code unit of UTF-16 in hexadecimal. -/
inductive StringUnit
  | char (c : Char)
  | code (n : Nat)

/-- The value of a hexadecimal digit. -/
def hexDigit? (c : Char) : Option Nat :=
  if '0' ≤ c ∧ c ≤ '9' then some (c.toNat - 48)
  else if 'a' ≤ c ∧ c ≤ 'f' then some (c.toNat - 87)
  else if 'A' ≤ c ∧ c ≤ 'F' then some (c.toNat - 55)
  else none

/-- The value of four hexadecimal digits. -/
def hexCode? (a b c d : Char) : Option Nat := do
  return (((← hexDigit? a) * 16 + (← hexDigit? b)) * 16 + (← hexDigit? c)) * 16 + (← hexDigit? d)

/-- The character that a letter behind a backslash stands for. -/
def escaped? : Char → Option Char
  | '"' => some '"'
  | '\\' => some '\\'
  | '/' => some '/'
  | 'b' => some '\x08'
  | 'f' => some '\x0c'
  | 'n' => some '\n'
  | 'r' => some '\r'
  | 't' => some '\t'
  | _ => none

/-- The units of a string up to its closing quote, and what follows the quote. -/
def stringUnits : Text → Option (List StringUnit × Text)
  | [] => none
  | c :: cs =>
    if c = '"' then some ([], cs)
    else if c = '\\' then
      match cs with
      | 'u' :: a :: b :: d :: e :: rest => do
        let n ← hexCode? a b d e
        let (us, r) ← stringUnits rest
        return (.code n :: us, r)
      | e :: rest => do
        let x ← escaped? e
        let (us, r) ← stringUnits rest
        return (.char x :: us, r)
      | [] => none
    else if c < ' ' then none
    else do
      let (us, r) ← stringUnits cs
      return (.char c :: us, r)

/-- The text of the units; the halves of a surrogate pair must stand together. -/
def ofUnits : List StringUnit → Option Text
  | [] => some []
  | .char c :: us => (ofUnits us).map (c :: ·)
  | .code n :: us =>
    if 0xD800 ≤ n ∧ n < 0xDC00 then
      match us with
      | .code m :: rest =>
        if 0xDC00 ≤ m ∧ m < 0xE000 then
          (ofUnits rest).map (Char.ofNat (0x10000 + (n - 0xD800) * 0x400 + (m - 0xDC00)) :: ·)
        else none
      | _ => none
    else if 0xDC00 ≤ n ∧ n < 0xE000 then none
    else (ofUnits us).map (Char.ofNat n :: ·)

theorem length_stringUnits_lt {t r : Text} {us : List StringUnit} (h : stringUnits t = some (us, r)) :
    r.length < t.length := by
  fun_induction stringUnits t generalizing us r <;>
    simp_all only [Option.bind_eq_bind, Option.bind_eq_some_iff, Option.some.injEq, Prod.mk.injEq,
      Option.pure_def, List.length_cons, reduceCtorEq]
  case case2 => omega
  case case3 ih => obtain ⟨_, _, ⟨_, _⟩, h, _, rfl⟩ := h; have := ih h; dsimp only at *; omega
  case case4 ih => obtain ⟨_, _, ⟨_, _⟩, h, _, rfl⟩ := h; have := ih h; dsimp only at *; omega
  case case7 ih => obtain ⟨⟨_, _⟩, h, _, rfl⟩ := h; have := ih h; dsimp only at *; omega

/-! ### Tokens -/

/-- The tokens that an inventory consists of. -/
inductive JsonToken
  | openBrace | closeBrace | openBracket | closeBracket | colon | comma
  | string (t : Text)

/-- The token that consists of a single character. -/
def punctuation? : Char → Option JsonToken
  | '\x7b' => some .openBrace
  | '\x7d' => some .closeBrace
  | '[' => some .openBracket
  | ']' => some .closeBracket
  | ':' => some .colon
  | ',' => some .comma
  | _ => none

/-- The blanks between tokens. -/
def isJsonBlank (c : Char) : Bool := c = ' ' || c = '\n' || c = '\r' || c = '\t'

/-- The tokens of a text, if it has no others. -/
def jsonTokens : Text → Option (List JsonToken)
  | [] => some []
  | c :: cs =>
    if isJsonBlank c then jsonTokens cs
    else if c = '"' then
      match h : stringUnits cs with
      | none => none
      | some (us, rest) =>
        have := length_stringUnits_lt h
        match ofUnits us, jsonTokens rest with
        | some t, some ts => some (.string t :: ts)
        | _, _ => none
    else match punctuation? c, jsonTokens cs with
      | some p, some ts => some (p :: ts)
      | _, _ => none
  termination_by t => t.length

/-! ### Arrays and objects -/

/-- The strings of an array behind one of them. -/
def moreStrings : List JsonToken → Option (List Text × List JsonToken)
  | .closeBracket :: ts => some ([], ts)
  | .comma :: .string s :: ts => (moreStrings ts).map fun (ss, r) => (s :: ss, r)
  | _ => none

/-- The strings of an array behind its opening bracket. -/
def arrayStrings : List JsonToken → Option (List Text × List JsonToken)
  | .closeBracket :: ts => some ([], ts)
  | .string s :: ts => (moreStrings ts).map fun (ss, r) => (s :: ss, r)
  | _ => none

/-- A key with its array. -/
def member : List JsonToken → Option ((Text × List Text) × List JsonToken)
  | .string k :: .colon :: .openBracket :: ts => (arrayStrings ts).map fun (ss, r) => ((k, ss), r)
  | _ => none

theorem length_moreStrings_lt {ts r : List JsonToken} {ss : List Text} (h : moreStrings ts = some (ss, r)) :
    r.length < ts.length := by
  fun_induction moreStrings ts generalizing ss r with
  | case1 ts => simp only [Option.some.injEq, Prod.mk.injEq] at h; simp [← h.2]
  | case2 s ts ih =>
    obtain ⟨⟨_, _⟩, h, he⟩ := Option.map_eq_some_iff.mp h
    simp only [Prod.mk.injEq] at he
    have := ih h
    simp only [List.length_cons, ← he.2]
    omega
  | case3 => cases h

theorem length_member_lt {ts r : List JsonToken} {m : Text × List Text} (h : member ts = some (m, r)) :
    r.length < ts.length := by
  unfold member at h
  split at h
  · next k ts =>
    obtain ⟨⟨_, _⟩, h, he⟩ := Option.map_eq_some_iff.mp h
    simp only [Prod.mk.injEq] at he
    unfold arrayStrings at h
    split at h
    · simp only [Option.some.injEq, Prod.mk.injEq] at h
      simp [← he.2, ← h.2]
      omega
    · obtain ⟨⟨_, _⟩, h, he'⟩ := Option.map_eq_some_iff.mp h
      simp only [Prod.mk.injEq] at he'
      have := length_moreStrings_lt h
      simp only [List.length_cons, ← he.2, ← he'.2]
      omega
    · cases h
  · cases h

/-- The members of an object from a key on to its closing brace, which ends the text. -/
def members (ts : List JsonToken) : Option (List (Text × List Text)) :=
  match h : member ts with
  | some (m, .comma :: rest) =>
    have := length_member_lt h
    (members rest).map (m :: ·)
  | some (m, [.closeBrace]) => some [m]
  | _ => none
  termination_by ts.length
  decreasing_by simp at this; omega

/-- The inventory of the tokens. -/
def ofTokens? : List JsonToken → Option Inventory
  | [.openBrace, .closeBrace] => some ⟨.empty⟩
  | .openBrace :: ts => (members ts).map fun ms => ⟨.ofList ms⟩
  | _ => none

/-- The bytes are no inventory. -/
structure DecodeError where
  deriving DecidableEq

/-- What the error is reported as. -/
def DecodeError.message (_ : DecodeError) : Text := "Failed to decode inventory"

/-- The inventory that a file holds. -/
def decode (bytes : Bytes) : Except DecodeError Inventory :=
  match (Utf8.decode? bytes).bind fun t => (jsonTokens t).bind ofTokens? with
  | some inv => .ok inv
  | none => .error {}

end Rollout.Inventory
