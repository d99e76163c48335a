import Rollout.Machine.Program.Searching

/-!
Comparing files byte by byte, up to the first difference or all of them.
-/

namespace Rollout.Program

open Unix

/-- A byte as it is shown: with a caret for a control character, and a mark for one of the upper half. -/
def byteName (c : Char) : Text :=
  let n := c.toNat
  let low (n : Nat) : Text :=
    if n < 32 then ['^', Char.ofNat (n + 64)] else if n = 127 then ['^', '?'] else [Char.ofNat n]
  if n < 128 then low n else 'M' :: '-' :: low (n - 128)

/-- A number of a byte in octal digits, with blanks in front. -/
def octalByte (c : Char) : Text := padLeft 3 (Nat.toDigits 8 c.toNat)

/-- How files are compared byte by byte. -/
structure Inspection where
  /-- Are all differences listed? -/
  all : Bool
  /-- Is nothing said? -/
  silent : Bool
  /-- Are the bytes shown as characters, too? -/
  named : Bool

/-- The places at which two texts differ, counted from a place on. -/
def differences : Nat → Text → Text → List (Nat × Char × Char)
  | n, c :: cs, d :: ds => (if c = d then [] else [(n, c, d)]) ++ differences (n + 1) cs ds
  | _, _, _ => []

/-- A difference in the list of all. -/
def Inspection.listed (i : Inspection) (width : Nat) (place : Nat) (c d : Char) : Text :=
  padLeft width (Text.ofNat place) ++ ' ' :: octalByte c
    ++ (if i.named then ' ' :: padRight 4 (byteName c) else [])
    ++ ' ' :: octalByte d ++ (if i.named then ' ' :: byteName d else [])

/-- Say that one of two files ends within the other one. -/
def endsEarly (i : Inspection) (name : Text) (t : Text) : Act Unit := do
  let lines := t.count '\n'
  let where? : Text := if i.all then []
    else if t.getLast? = some '\n' then ", line " ++ Text.ofNat lines
    else ", in line " ++ Text.ofNat (lines + 1)
  grumble ("EOF on " ++ name ++ if t = [] then " which is empty".toList
    else " after byte " ++ Text.ofNat t.length ++ where?)

/-- Compare two texts with their names byte by byte; gives the status. -/
def Inspection.compare (i : Inspection) (a b : Text × Text) : Act Nat := do
  let found := differences 1 a.2 b.2
  let isShort := a.2.length ≠ b.2.length
  let shorter := if a.2.length < b.2.length then a else b
  let width := (Text.ofNat shorter.2.length).length
  match found with
  | (place, c, d) :: _ => do
    if i.all then
      found.forM fun (place, c, d) => sayLine (i.listed width place c d)
      if isShort then endsEarly i shorter.1 shorter.2
    else if !i.silent then
      let line := (a.2.take (place - 1)).count '\n' + 1
      let unit : Text := if i.named then "byte " else "char "
      let shown : Text := if i.named then
          " is " ++ octalByte c ++ ' ' :: byteName c ++ ' ' :: octalByte d ++ ' ' :: byteName d
        else []
      sayLine (a.1 ++ ' ' :: b.1 ++ " differ: " ++ unit ++ Text.ofNat place ++ ", line " ++ Text.ofNat line ++ shown)
    return 1
  | [] => do
    if !isShort then return 0
    if !i.silent then endsEarly i shorter.1 shorter.2
    return 1

/-- The numbers of bytes to skip in two files. -/
def skips? (t : Text) : Option (Nat × Nat) :=
  match Text.split ':' t with
  | [n] => (sizeOf? n).map fun n => (n, n)
  | [n, m] => (sizeOf? n).bind fun n => (sizeOf? m).map fun m => (n, m)
  | _ => none

/-- What can be read of two files; the second is not read again if it is the standard input, too. -/
def bothContents (first second : Text) : Act (Except Text Text × Except Text Text) := do
  let a ← contentOf first
  if first = ['-'] && second = ['-'] then return (a, a) else return (a, ← contentOf second)

/-- End because of arguments that make no sense. -/
def refuseUse {α : Type} (t : Text) : Act α := do
  grumble t
  giveUp 2 ("Try '" ++ (← get).name ++ " --help' for more information.")

/-- The options and operands of a program that compares. -/
def comparedArguments (flags : List Flag) (ts : List Text) : Act Arguments := do
  match ← givenArguments (.plain 'v' "version" :: flags) true ts with
  | .ok a => if a.has "v" then Manual.tell "version" else return a
  | .error e => refuseUse e

/-- Compare two files byte by byte. -/
def cmp : Routine := fun ts => do
  let a ← comparedArguments [.plain 'b' "print-bytes", .plain 'c' "", .valued 'i' "ignore-initial", .plain 'l' "verbose",
    .valued 'n' "bytes", ⟨some 's', some "silent".toList, .none⟩, .wordOnly "quiet"] ts
  let i : Inspection := ⟨a.has "l", a.has "s" || a.has "quiet", a.has "b" || a.has "c"⟩
  let wrong (what v : Text) : Act (Nat × Nat) := refuseUse ("invalid --" ++ what ++ " value " ++ inQuotes v)
  let skip ← match a.value? "i" with
    | none => pure (0, 0)
    | some v => match skips? v with
      | some p => pure p
      | none => wrong "ignore-initial" v
  let limit ← match a.value? "n" with
    | none => pure none
    | some v => match sizeOf? v with
      | some n => pure (some n)
      | none => do
        let _ ← wrong "bytes" v
        pure none
  if i.all && i.silent then refuseUse "options -l and -s are incompatible"
  let number (t : Text) : Act Nat := match sizeOf? t with
    | some n => return n
    | none => do
      let _ ← wrong "ignore-initial" t
      return 0
  let compare (first second : Text) (skip : Nat × Nat) : Act Nat := do
    let (c, d) ← bothContents first second
    let unreadable (path e : Text) : Act Nat := do
      if !i.silent || e = "Is a directory".toList then grumble (nameOf path ++ ": " ++ e)
      return 2
    match c, d with
    | .error e, _ => unreadable first e
    | _, .error e => unreadable second e
    | .ok t, .ok u =>
      let cut (t : Text) : Text := match limit with
        | some n => t.take n
        | none => t
      i.compare (first, cut (t.drop skip.1)) (second, cut (u.drop skip.2))
  match a.operands with
  | [] => refuseUse ("missing operand after " ++ inQuotes (← get).name)
  | [f] => compare f ['-'] skip
  | [f, g] => compare f g skip
  | [f, g, s] => do
    let n ← number s
    compare f g (max skip.1 n, skip.2)
  | [f, g, s, t] => do
    let n ← number s
    let m ← number t
    compare f g (max skip.1 n, max skip.2 m)
  | _ :: _ :: _ :: _ :: extra :: _ => refuseUse ("extra operand " ++ inQuotes extra)

end Rollout.Program
