import Rollout.Machine.Number.Rounded
import Rollout.Machine.Unix.Flag

/-!
What programs read: files that are named one after another, a dash standing for the standard input, and the
lines in them; values of options that are one of several words, which may be shortened as long as it is clear
what is meant; and the names of files that stand in a file.
-/

namespace Rollout.Program

open Unix

/-! ### Lines -/

/-- The pieces of a text that end with a character, which they keep; the last may lack it. -/
def piecesEndingWith (stop : Char) (t : Text) : List Text :=
  match t with
  | [] => []
  | c :: cs =>
    if c = stop then [stop] :: piecesEndingWith stop cs
    else match piecesEndingWith stop cs with
      | [] => [[c]]
      | p :: ps => (c :: p) :: ps

/-- The lines of a text with the newlines that end them. -/
def fullLines (t : Text) : List Text := piecesEndingWith '\n' t

/-- The piece without the character at its end. -/
def withoutEnd (stop : Char) (t : Text) : Text := if t.getLast? = some stop then t.dropLast else t

/-- The lines of a text. -/
def linesOf (t : Text) : List Text := (fullLines t).map (withoutEnd '\n')

/-! ### Files -/

/-- The content of a file or of the standard input. -/
def contentOf (path : Text) : Act (Except Text Text) := do
  if path ≠ ['-'] then readPath path
  else match (← get).inputFault? 0 with
    | some e => return .error e
    | none => return .ok (← readAll)

/-- The files that are read: without any, the standard input. -/
def orInput (paths : List Text) : List Text := if paths = [] then [['-']] else paths

/-- The contents of files one after another, and the worst status; what cannot be read is reported. -/
def contents (status : Nat) : List Text → Act (List (Text × Text) × Nat)
  | [] => return ([], 0)
  | path :: paths => do
    match ← contentOf path with
    | .ok t => do
      let (ts, worst) ← contents status paths
      return ((path, t) :: ts, worst)
    | .error e => do
      grumble (nameOf path ++ ": " ++ e)
      let (ts, worst) ← contents status paths
      return (ts, max status worst)

/-- All that files hold, one after another. -/
def joined (files : List (Text × Text)) : Text := files.flatMap (·.2)

/-! ### Numbers -/

/-- The number of bytes of a unit behind a number: powers of 1024, or of 1000 before a B. -/
def unitOf? (t : Text) : Option Nat :=
  let power (base : Nat) (c : Char) : Option Nat :=
    if c = 'k' || c = 'm' then some (if c = 'k' then base else base * base)
    else ("KMGTPEZY".toList.idxOf? c).map fun i => Nat.pow base (i + 1)
  match t with
  | [] => some 1
  | ['b'] => some 512
  | [c] => power 1024 c
  | [c, 'B'] => power 1000 c
  | [c, 'D'] => power 1000 c
  | [c, 'i', 'B'] => power 1024 c
  | _ => none

/-- The number that digits denote, perhaps in units. -/
def sizeOf? (t : Text) : Option Nat :=
  let ds := t.takeWhile Char.isDigit
  match Text.toNat? ds, unitOf? (t.drop ds.length) with
  | some n, some unit => some (n * unit)
  | _, _ => none

/-- The greatest number that programs count with. -/
def maxCount : Nat := 18446744073709551615

/-- The number that a text denotes, perhaps in units; what is no number, or too great, ends the process. -/
def countFrom (what : String) (t : Text) : Act Nat := do
  match sizeOf? t with
  | some n =>
    if maxCount < n then
      giveUp 1 ("invalid " ++ what.toList ++ ": " ++ inQuotes t ++ ": Value too large for defined data type")
    else return n
  | none => giveUp 1 ("invalid " ++ what.toList ++ ": " ++ inQuotes t)

/-- The number at the start of a text, and what follows it: hexadecimal or octal behind their marks; tells whether
there are digits. -/
def markedNumber (t : Text) : Nat × Bool × Text :=
  let (base, rest) : Nat × Text := match t with
    | '0' :: x :: d :: rest =>
      if (x = 'x' || x = 'X') && Rounded.isHex d then (16, d :: rest) else (8, t)
    | '0' :: _ => (8, t)
    | _ => (10, t)
  let ds := rest.takeWhile fun c => if base = 16 then Rounded.isHex c else c.isDigit && Rounded.hexValue c < base
  (ds.foldl (fun n c => base * n + Rounded.hexValue c) 0, !ds.isEmpty, rest.drop ds.length)

/-- The number that an option has, perhaps in units; what is none ends the process. -/
def optionCount (option t : Text) : Act Nat := do
  let start := t.dropWhile fun c => c = ' ' || ('\t' ≤ c && c ≤ '\r')
  let (n, hasDigits, rest) := markedNumber (if start.head? = some '+' then start.drop 1 else start)
  let about : Text := option ++ " argument " ++ inQuotes t
  match unitOf? rest with
  | none => giveUp 1 ((if hasDigits then "invalid suffix in " else "invalid ").toList ++ about)
  | some unit =>
    let n := if hasDigits then n * unit else unit
    if !hasDigits && rest.isEmpty then giveUp 1 ("invalid " ++ about)
    else if maxCount < n then giveUp 1 (about ++ " too large")
    else return n

/-- A text with blanks in front, at least so long. -/
def padLeft (n : Nat) (t : Text) : Text := List.replicate (n - t.length) ' ' ++ t

/-- A text with blanks behind it, at least so long. -/
def padRight (n : Nat) (t : Text) : Text := t ++ List.replicate (n - t.length) ' '

/-! ### Choices -/

/-- Say that a value is none of those that an option may have, which stand in groups of the same meaning. -/
def refuseChoice {α : Type} (status : Nat) (problem : String) (value option : Text) (choices : List (List String)) :
    Act α := do
  grumble (problem ++ " argument " ++ inQuotes value ++ " for " ++ inQuotes option)
  complain "Valid arguments are:"
  choices.forM fun group => complain ("  - " ++ Text.commaList (group.map fun c => inQuotes c.toList))
  seeHelp status

/-- The number of the group of the word that a value of an option stands for. -/
def chooseGroup (status : Nat) (option : String) (choices : List (List String)) (value : Text) : Act Nat := do
  let spelled (p : Text → Bool) : List Nat :=
    (choices.zipIdx.filter fun (group, _) => group.any fun c => p c.toList).map (·.2)
  match spelled (· = value), spelled value.isPrefixOf with
  | i :: _, _ => return i
  | [], [i] => return i
  | [], [] => refuseChoice status "invalid" value option.toList choices
  | [], _ => refuseChoice status "ambiguous" value option.toList choices

/-- The first word of the group that a value of an option stands for. -/
def choose (status : Nat) (option : String) (choices : List (List String)) (value : Text) : Act String := do
  let i ← chooseGroup status option choices value
  return (choices.getD i []).headD ""

/-- The files that a file names, each before a null character, with their numbers. -/
def namedFiles (status : Nat) (list : Text) (operands : List Text) : Act (List (Nat × Text)) := do
  match operands with
  | [] => pure ()
  | t :: _ => do
    grumble ("extra operand " ++ inQuotes t)
    complain "file operands cannot be combined with --files0-from"
    seeHelp status
  match ← contentOf list with
  | .error e => giveUp status ((if status = 2 then "open failed: ".toList ++ nameOf list else
      "cannot open ".toList ++ inShellQuotes list ++ " for reading") ++ ": " ++ e)
  | .ok t => return ((piecesEndingWith '\x00' t).map (withoutEnd '\x00')).zipIdx 1 |>.map fun (t, n) => (n, t)

/-- What is said about a name with a number in a file of names, if it cannot be used. -/
def nameFault? (list : Text) (named : Nat × Text) : Option Text :=
  if named.2 = [] then some (nameOf list ++ ':' :: Text.ofNat named.1 ++ ": invalid zero-length file name")
  else if named.2 = ['-'] && list = ['-'] then
    some "when reading file names from stdin, no file name of '-' allowed"
  else none

end Rollout.Program
