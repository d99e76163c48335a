import Rollout.Machine.Program.Input

/-!
Sizes as programs show them: in units of so many bytes, or in the greatest unit that makes them readable, rounded up.
-/

namespace Rollout.Program

open Unix

/-- How sizes are shown. -/
inductive Scale
  /-- In units of so many bytes, with a text behind the number. -/
  | units (n : Nat) (suffix : Text)
  /-- In the greatest unit that fits, which is a power of a number. -/
  | readable (base : Nat)

namespace Scale

/-- The letters of units that are powers of a number. -/
def letters (base : Nat) : Text := (if base = 1000 then ['k'] else ['K']) ++ "MGTPEZY"

/-- A size in the first of units in which it takes few digits. -/
def readableFrom (base n : Nat) : Nat → Text → Text
  | _, [] => Text.ofNat n
  | unit, letter :: rest =>
    let tenths := (n * 10 + unit - 1) / unit
    let whole := (n + unit - 1) / unit
    if tenths < 100 then Text.ofNat (tenths / 10) ++ '.' :: Text.ofNat (tenths % 10) ++ [letter]
    else if whole < base || rest = [] then Text.ofNat whole ++ [letter]
    else readableFrom base n (unit * base) rest

/-- A number of bytes as it is shown. -/
def text (s : Scale) (bytes : Nat) : Text :=
  match s with
  | .units n suffix => Text.ofNat ((bytes + n - 1) / n) ++ suffix
  | .readable base => if bytes < base then Text.ofNat bytes else readableFrom base bytes base (letters base)

/-- The bytes of a unit, and how it is written. -/
def unit? (t : Text) : Option (Nat × Text) :=
  let find (base : Nat) (c : Char) : Option (Nat × Char) :=
    ("KMGTPEZY".toList.idxOf? c.toUpper).map fun i => (Nat.pow base (i + 1), (letters base).getD i c)
  match t with
  | [c] => (find 1024 c).map fun (n, c) => (n, [c])
  | [c, 'i', 'B'] => (find 1024 c).map fun (n, c) => (n, [c, 'i', 'B'])
  | [c, 'B'] => (find 1000 c).map fun (n, c) => (n, [c, 'B'])
  | _ => none

/-- The scale that a text describes: a word, or a number of bytes, perhaps with a unit. -/
def read? (t : Text) : Option Scale :=
  let t := match t with
    | '\'' :: t => t
    | t => t
  let digits := t.takeWhile Char.isDigit
  let rest := t.drop digits.length
  if 2 < t.length && t.isPrefixOf "human-readable".toList then some (.readable 1024)
  else if t = "si".toList then some (.readable 1000)
  else match Text.toNat? digits, rest with
    | some 0, _ => none
    | some n, [] => some (.units n [])
    | some n, ['b'] => some (.units (512 * n) [])
    | some n, ['B'] => some (.units n [])
    | some n, rest => (unit? rest).map fun u => .units (n * u.1) []
    | none, rest => if digits = [] then (unit? rest).map fun u => .units u.1 u.2 else none

end Scale

end Rollout.Program
