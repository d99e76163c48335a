import Rollout.Machine.Program.Input
import Rollout.Machine.Regex.Basic

/-!
Programs that work inside of lines: cutting out fields, putting files side by side, replacing characters, and
breaking long lines.
-/

namespace Rollout.Program

open Unix

/-! ### Cutting -/

/-- A range of positions from 1 on; without end it goes on. -/
abbrev Positions := List (Nat × Option Nat)

/-- Is the position in the list? -/
def isListed (ps : Positions) (n : Nat) : Bool :=
  ps.any fun (first, last) => first ≤ n && (match last with
    | some m => n ≤ m
    | none => true)

/-- Why a text is no list of positions. -/
inductive ListFault
  | zero
  | invalid (t : Text)
  | decreasing
  | noEnds

/-- A range of positions. -/
def readRange (t : Text) : Except ListFault (Nat × Option Nat) :=
  let number (t : Text) (default : Nat) : Except ListFault Nat :=
    if t = [] then .ok default
    else match Text.toNat? t with
      | some 0 => .error .zero
      | some n => .ok n
      | none => .error (.invalid t)
  let first := t.takeWhile (· ≠ '-')
  match t.drop first.length with
  | [] => do
    if first = [] then throw .zero
    let n ← number first 1
    return (n, some n)
  | _ :: last => do
    if first = [] && last = [] then throw .noEnds
    let a ← number first 1
    if last = [] then return (a, none)
    let b ← number last 1
    if b < a then throw .decreasing
    return (a, some b)

/-- The elements whose positions are listed, counted from 1. -/
def selectListed {α : Type} (ps : Positions) (complement : Bool) (ts : List α) : List α :=
  (ts.zipIdx 1).filterMap fun (t, n) => if isListed ps n != complement then some t else none

/-- The runs of characters whose positions are listed one after another. -/
def listedRuns (ps : Positions) (complement : Bool) : Nat → Bool → Text → List Text
  | _, _, [] => []
  | n, inside, c :: cs =>
    if isListed ps n != complement then
      let starts := !inside || ps.any (·.1 = n)
      match starts, listedRuns ps complement (n + 1) true cs with
      | _, [] => [[c]]
      | _, r :: rs =>
        if cs ≠ [] && (isListed ps (n + 1) != complement) && !(ps.any (·.1 = n + 1) && !complement) then (c :: r) :: rs
        else [c] :: r :: rs
    else listedRuns ps complement (n + 1) false cs

/-- The fields of a line. -/
def fieldsOf (delimiter : Char) (line : Text) : List Text := Text.split delimiter line

/-- The positions that a list gives, of fields or of characters. -/
def positionsOf (byField : Bool) (list : Text) : Act Positions :=
  (Text.split ',' (list.map fun c => if c = ' ' then ',' else c)).mapM fun r => match readRange r with
    | .ok p => pure p
    | .error e =>
      let what : Text := match e, byField with
        | .zero, true => "fields are numbered from 1"
        | .zero, false => "byte/character positions are numbered from 1"
        | .invalid t, true => "invalid field value " ++ inQuotes t
        | .invalid t, false => "invalid byte/character position " ++ inQuotes t
        | .decreasing, _ => "invalid decreasing range"
        | .noEnds, _ => "invalid range with no endpoint: -"
      misused 1 what

/-- Write parts of lines. -/
def cut : Routine := fun ts => do
  let a ← arguments [.valued 'b' "bytes", .valued 'c' "characters", .valued 'd' "delimiter", .valued 'f' "fields",
    .plain 'n' "", .plain 's' "only-delimited", .plain 'z' "zero-terminated", .wordOnly "complement",
    .valuedWord "output-delimiter"] true 1 ts
  let lists := a.values "b" ++ a.values "c" ++ a.values "f"
  let byField := a.has "f"
  let list ← match lists with
    | [] => misused 1 "you must specify a list of bytes, characters, or fields"
    | [l] => pure l
    | _ => misused 1 "only one list may be specified"
  let delimiter ← match a.value? "d" with
    | none => pure '\t'
    | some [c] => pure c
    | some [] => pure '\x00'
    | some _ => misused 1 "the delimiter must be a single character"
  if !byField && (a.value? "d").isSome then
    misused 1 "an input delimiter may be specified only when operating on fields"
  if !byField && a.has "s" then
    misused 1 "suppressing non-delimited lines makes sense\n\tonly when operating on fields"
  let ps ← positionsOf byField list
  let complement := a.has "complement"
  let stop := if a.has "z" then '\x00' else '\n'
  let (files, status) ← contents 1 (orInput a.operands)
  for (_, t) in files do
    for line in (piecesEndingWith stop t).map (withoutEnd stop) do
      if byField then
        if !line.contains delimiter then
          if !a.has "s" then say (line ++ [stop])
        else
          say (Text.join ((a.value? "output-delimiter").getD [delimiter])
            (selectListed ps complement (fieldsOf delimiter line)) ++ [stop])
      else match a.value? "output-delimiter" with
        | some d => say (Text.join d (listedRuns ps complement 1 false line) ++ [stop])
        | none => say (selectListed ps complement line ++ [stop])
  return status

/-! ### Side by side -/

/-- The characters of a list of delimiters. -/
def delimitersOf : Text → List Text
  | [] => []
  | '\\' :: c :: cs => (match c with
    | 'n' => ['\n']
    | 't' => ['\t']
    | '0' => []
    | c => [c]) :: delimitersOf cs
  | c :: cs => [c] :: delimitersOf cs

/-- Texts with delimiters between them, which are used in turn. -/
def joinWith (all : List Text) : List Text → List Text → Text
  | _, [] => []
  | _, [t] => t
  | d :: ds, t :: ts => t ++ d ++ joinWith all (if ds = [] then all else ds) ts
  | [], t :: ts => t ++ joinWith all all ts

/-- The first lines of lists together, then the second ones, as long as there are any. -/
def rowsOf : Nat → List (List Text) → List (List Text)
  | 0, _ => []
  | n + 1, columns =>
    if columns.all List.isEmpty then []
    else columns.map (·.head?.getD []) :: rowsOf n (columns.map (·.drop 1))

/-- Write lines of files side by side. -/
def paste : Routine := fun ts => do
  let a ← arguments [.valued 'd' "delimiters", .plain 's' "serial", .plain 'z' "zero-terminated"] true 1 ts
  let ds := match (a.value? "d").map delimitersOf with
    | none => [['\t']]
    | some [] => [[]]
    | some ds => ds
  let (files, status) ← contents 1 (orInput a.operands)
  if status ≠ 0 then return status
  let columns := files.map fun f => linesOf f.2
  let dashes := (files.filter (·.1 = ['-'])).length
  let shared := (columns.zip files).flatMap fun (c, f) => if f.1 = ['-'] then c else []
  let columns := if dashes > 1 && !a.has "s" then
      (files.zipIdx).map fun (f, _) => if f.1 = ['-'] then [] else linesOf f.2
    else columns
  if a.has "s" then
    say (columns.flatMap fun c => joinWith ds ds c ++ ['\n'])
  else if dashes > 1 then
    let step := dashes
    let rows := (List.range ((shared.length + step - 1) / step)).map fun i => (shared.drop (i * step)).take step
    let place (row : List Text) : List Text :=
      row ++ List.replicate (step - row.length) []
    say (rows.flatMap fun r => joinWith ds ds (place r) ++ ['\n'])
  else
    let longest := columns.foldl (fun n c => max n c.length) 0
    say ((rowsOf longest columns).flatMap fun r => joinWith ds ds r ++ ['\n'])
  return 0

/-! ### Replacing characters -/

/-- A part of a set of characters. -/
inductive SetPart
  /-- Characters. -/
  | chars (t : Text)
  /-- A character, so many times; as often as it takes if no number is given. -/
  | repeated (c : Char) (n : Option Nat)

/-- A character of a set, which may stand behind a backslash. -/
def setChar (t : Text) : Option (Char × Text) :=
  match t with
  | [] => none
  | '\\' :: c :: cs =>
    let isOctal (c : Char) : Bool := '0' ≤ c && c ≤ '7'
    if isOctal c then
      let three := ((c :: cs).take 3).takeWhile isOctal
      let value (ds : Text) : Nat := ds.foldl (fun n d => 8 * n + (d.toNat - '0'.toNat)) 0
      let ds := if 255 < value three then three.take 2 else three
      some (Char.ofNat (value ds), (c :: cs).drop ds.length)
    else some (match c with
      | 'a' => '\x07'
      | 'b' => '\x08'
      | 'f' => '\x0c'
      | 'n' => '\n'
      | 'r' => '\r'
      | 't' => '\t'
      | 'v' => '\x0b'
      | c => c, cs)
  | c :: cs => some (c, cs)

/-- The characters of a range. -/
def charRange (a b : Char) : Text := (List.range (b.toNat + 1 - a.toNat)).map fun i => Char.ofNat (a.toNat + i)

/-- All bytes. -/
def allChars : Text := charRange '\x00' (Char.ofNat 255)

/-- The parts of a set. -/
def setParts : Nat → Text → Except Text (List SetPart)
  | 0, _ => .ok []
  | _, [] => .ok []
  | fuel + 1, t => do
    let single (t : Text) : Except Text (List SetPart) := match setChar t with
      | none => .ok []
      | some (a, rest) => match rest with
        | '-' :: after => match setChar after with
          | none => do return .chars [a] :: (← setParts fuel rest)
          | some (b, rest) =>
            if b < a then
              .error ("range-endpoints of " ++ inQuotes (t.take (t.length - rest.length))
                ++ " are in reverse collating sequence order")
            else do return .chars (charRange a b) :: (← setParts fuel rest)
        | rest => do return .chars [a] :: (← setParts fuel rest)
    match t with
    | '[' :: ':' :: rest =>
      let name := rest.takeWhile (· ≠ ':')
      match rest.drop name.length with
      | ':' :: ']' :: after => match CharSet.named? name with
        | some rs => do
          let members := allChars.filter fun c => rs.any fun r => r.1 ≤ c && c ≤ r.2
          return .chars members :: (← setParts fuel after)
        | none => .error ("invalid character class " ++ inQuotes name)
      | _ => single t
    | '[' :: '=' :: c :: '=' :: ']' :: after => do return .chars [c] :: (← setParts fuel after)
    | '[' :: rest => match setChar rest with
      | some (c, '*' :: after) =>
        let ds := after.takeWhile Char.isDigit
        match after.drop ds.length with
        | ']' :: after =>
          let n := if ds = [] then none
            else if ds.head? = some '0' then
              some (ds.foldl (fun n d => 8 * n + (d.toNat - '0'.toNat)) 0)
            else Text.toNat? ds
          do return .repeated c (if n = some 0 then none else n) :: (← setParts fuel after)
        | _ => single t
      | _ => single t
    | t => single t

/-- The characters of a set that is to be so long. -/
def setChars (length : Nat) (parts : List SetPart) : Text :=
  let fixed := parts.foldl (fun n p => n + match p with
    | .chars t => t.length
    | .repeated _ m => m.getD 0) 0
  parts.flatMap fun p => match p with
    | .chars t => t
    | .repeated c (some n) => List.replicate n c
    | .repeated c none => List.replicate (length - fixed) c

/-- A text without all but the first of equal characters of a set that follow each other. -/
def squeeze (set : Text) : Option Char → Text → Text
  | _, [] => []
  | last, c :: cs => if last = some c && set.contains c then squeeze set last cs else c :: squeeze set (some c) cs

/-- Replace, remove or squeeze characters of the standard input. -/
def tr : Routine := fun ts => do
  let a ← arguments [.plain 'c' "complement", .plain 'C' "", .plain 'd' "delete", .plain 's' "squeeze-repeats",
    .plain 't' "truncate-set1"] false 1 ts
  let deletes := a.has "d"
  let squeezes := a.has "s"
  let (first, second) ← match a.operands with
    | [] => misused 1 "missing operand"
    | [x] =>
      if deletes && squeezes then do
        grumble ("missing operand after " ++ inQuotes x)
        complain "Two strings must be given when both deleting and squeezing repeats."
        seeHelp 1
      else if !deletes && !squeezes then do
        grumble ("missing operand after " ++ inQuotes x)
        complain "Two strings must be given when translating."
        seeHelp 1
      else pure (x, none)
    | [x, y] =>
      if deletes && !squeezes then do
        grumble ("extra operand " ++ inQuotes y)
        complain "Only one string may be given when deleting without squeezing repeats."
        seeHelp 1
      else pure (x, some y)
    | _ :: _ :: z :: _ => misused 1 ("extra operand " ++ inQuotes z)
  let parse (t : Text) : Act (List SetPart) := match setParts (t.length + 1) t with
    | .ok ps => pure ps
    | .error e => giveUp 1 e
  let firstParts ← parse first
  let secondParts ← parse (second.getD [])
  let plain := setChars 0 firstParts
  let complement := a.has "c" || a.has "C"
  let set := if complement then allChars.filter (!plain.contains ·) else plain
  let input ← readAll
  if deletes then
    let kept := input.filter (!set.contains ·)
    say (if squeezes then squeeze (setChars 0 secondParts) none kept else kept)
    return 0
  match second with
  | none =>
    say (squeeze set none input)
    return 0
  | some t => do
    if t = [] && !a.has "t" then giveUp 1 "when not truncating set1, string2 must be non-empty"
    let target := setChars set.length secondParts
    let filled := if a.has "t" then target
      else target ++ List.replicate (set.length - target.length) (target.getLast?.getD ' ')
    let pairs := set.zip filled
    let table : Array Char := (Array.range 256).map fun n =>
      ((pairs.reverse.find? (·.1.toNat = n)).map (·.2)).getD (Char.ofNat n)
    let replaced := input.map fun c => table.getD c.toNat c
    say (if squeezes then squeeze target none replaced else replaced)
    return 0

end Rollout.Program
