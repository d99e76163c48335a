import Rollout.Machine.Program.Perl.Machine
import Rollout.Machine.Program.Perl.Operator

/-!
Where texts match expressions, and what is made of the parts: texts are cut where something matches, and characters are
replaced by others.
-/

namespace Rollout.Program.Perl

open Regex

/-! ### Expressions -/

/-- What comes before and after the parenthesis that is not closed, if there is one. -/
def openParenthesis : Text → Text → List (Text × Text) → Option (Text × Text)
  | _, [], opened => opened.head?
  | before, '\\' :: c :: rest, opened => openParenthesis (c :: '\\' :: before) rest opened
  | before, '(' :: rest, opened => openParenthesis ('(' :: before) rest (('(' :: before, rest) :: opened)
  | before, ')' :: rest, opened => openParenthesis (')' :: before) rest (opened.drop 1)
  | before, c :: rest, opened => openParenthesis (c :: before) rest opened

/-- What comes before and after the first character for which there is nothing. -/
def firstStray (stray : Option Char → Char → Bool) : Text → Text → Option (Text × Text)
  | _, [] => none
  | before, '\\' :: c :: rest => firstStray stray (c :: '\\' :: before) rest
  | before, c :: rest =>
    if stray before.head? c then some (c :: before, rest) else firstStray stray (c :: before) rest

/-- What is said about an expression that makes no sense. -/
def patternMistake (reason t : Text) : Text :=
  let here (what : String) (place : Option (Text × Text)) : Text :=
    let (before, after) := place.getD (t.reverse, [])
    what ++ " in regex; marked by <-- HERE in m/" ++ before.reverse ++ " <-- HERE " ++ after ++ ['/']
  match String.ofList reason with
  | "missing closing parenthesis" => here "Unmatched (" (openParenthesis [] t [])
  | "unmatched closing parenthesis" => here "Unmatched )" (firstStray (fun _ c => c = ')') [] t)
  | "missing terminating ] for character class" => here "Unmatched [" (firstStray (fun _ c => c = '[') [] t)
  | "quantifier does not follow a repeatable item" =>
    here "Quantifier follows nothing"
      (firstStray (fun before c => "*+?".toList.contains c && (before.isNone || before = some '(' || before = some '|')) [] t)
  | "reference to non-existent subpattern" => here "Reference to nonexistent group" none
  | _ => here (String.ofList reason) none

/-- What the letters behind an expression change. -/
def switchesOf (letters : Text) : Rich.Switches :=
  ⟨letters.contains 'i', letters.contains 'm', letters.contains 's', letters.contains 'x'⟩

/-- An expression that was read, with the names of its groups; whether it has to match where the last match ended is told
by the letters. -/
def compiled (letters t : Text) : Doing (Compiled × List (Text × Nat)) := do
  let key := letters.filter "imsx".toList.contains ++ '/' :: t
  let known ← Doing.looking fun m => m.patterns[key]?
  match known with
  | some c => return c
  | none => match Rich.compile (switchesOf letters) t with
    | .error e => dieHere (patternMistake e t)
    | .ok c => do
      modify fun m => { m with patterns := m.patterns.insert key c }
      return c

/-- The text of an expression that is to be matched; a part that is an expression by itself keeps its letters. -/
def patternOf (v : Value) : Doing Text := do
  match v with
  | .pattern t letters => return Value.patternText t letters
  | v => textOf v

/-- The first match from a place on that is not an empty one at another place. -/
def matchFrom (c : Compiled) (s : Spot) (avoided : Option Nat) : Option Match :=
  searchFrom c.mode c.regex (fun _ m => !(m.text.isEmpty && some m.finish = avoided)) (s.rest.length + 2) s

/-- All matches from a place on, none of which overlaps another one. -/
def matchesFrom (c : Compiled) : Nat → Spot → Option Nat → List Match
  | 0, _, _ => []
  | fuel + 1, s, avoided => match matchFrom c s avoided with
    | none => []
    | some m =>
      m :: matchesFrom c fuel (s.skip (m.finish - s.pos)) (if m.text.isEmpty then some m.finish else none)

/-- All matches in a text. -/
def allMatches (c : Compiled) (t : Text) (start : Nat) : List Match :=
  matchesFrom c (2 * t.length + 2) (spotAt t start) none

/-- A match that was found. -/
def foundIn (c : Compiled) (names : List (Text × Nat)) (t : Text) (m : Match) : Found := ⟨t, m, names, c.regex.groups⟩

/-- The value of a part of a match. -/
def Found.group (f : Found) (n : Nat) : Value :=
  match f.whole.group? n with
  | some t => .text t
  | none => .absent

/-- The values of all groups. -/
def Found.all (f : Found) : List Value := (List.range f.groups).map fun i => f.group (i + 1)

/-- The value of a variable that tells about the last match, if it is one. -/
def matchVariable? (name : Text) : Option (Option Found → Value) :=
  let given (f : Found → Value) : Option (Option Found → Value) := some fun found => match found with
    | some found => f found
    | none => .absent
  match name with
  | ['&'] => given fun f => .text f.whole.text
  | ['\x60'] => given fun f => .text (f.text.take f.whole.start)
  | ['\''] => given fun f => .text (f.text.drop f.whole.finish)
  | ['+'] => given fun f => ((List.range f.groups).reverse.findSome? fun i => match f.group (i + 1) with
      | .absent => none
      | v => some v).getD .absent
  | c :: cs =>
    if c.isDigit && c ≠ '0' then
      let n := (Text.toNat? (c :: cs)).getD 0
      given fun f => f.group n
    else none
  | [] => none

/-! ### Cutting -/

/-- The fields between matches, with what their groups have matched. -/
def fieldsBetween (c : Compiled) (t : Text) : Nat → Nat → List Match → List Value
  | _, start, [] => [.text (t.drop start)]
  | 0, start, _ => [.text (t.drop start)]
  | 1, start, _ => [.text (t.drop start)]
  | limit + 1, start, m :: ms =>
    let f := foundIn c [] t m
    .text ((t.drop start).take (m.start - start)) :: f.all ++ fieldsBetween c t limit m.finish ms

/-- The fields of a text: at most so many, or all of them without those at the end that hold nothing. -/
def splitText (c : Compiled) (t : Text) (limit : Int) : List Value :=
  if t.isEmpty then []
  else
    let ms := (allMatches c t 0).filter fun m => !(m.text.isEmpty && (m.start = 0 || t.length ≤ m.start))
    let fields := fieldsBetween c t (if 0 < limit then limit.toNat else t.length + 3) 0 ms
    if limit = 0 then
      (fields.reverse.dropWhile fun v => match v with
        | .text [] => true
        | .absent => true
        | _ => false).reverse
    else fields

/-! ### Replacing characters -/

/-- The characters that a text describes, with ranges. -/
def charactersOf : Nat → Text → Text
  | 0, _ => []
  | fuel + 1, t =>
    let one (t : Text) : Option (Char × Text) := match t with
      | '\\' :: '-' :: rest => some ('-', rest)
      | '\\' :: rest => match escapedAt rest with
        | (c :: _, rest) => some (c, rest)
        | ([], _) => none
      | c :: rest => some (c, rest)
      | [] => none
    match one t with
    | none => []
    | some (a, '-' :: rest) => match one rest with
      | some (b, rest) =>
        ((List.range (b.toNat + 1 - a.toNat)).map fun i => Char.ofNat (a.toNat + i)) ++ charactersOf fuel rest
      | none => [a, '-']
    | some (a, rest) => a :: charactersOf fuel rest

/-- A text with other characters, and how many were found. -/
def translated (old new letters : Text) (t : Text) : Text × Nat :=
  let older := charactersOf (old.length + 1) old
  let newer := charactersOf (new.length + 1) new
  let turned := letters.contains 'c'
  let removes := letters.contains 'd'
  let newer := if newer.isEmpty && !removes then (if turned then [] else older) else newer
  let found (c : Char) : Option (Option Char) :=
    if turned then
      if older.contains c then none
      else if newer.isEmpty then some (if removes then none else some c)
      else some (if removes then none else newer.getLast?)
    else match older.idxOf? c with
      | none => none
      | some i => some (match newer[i]? with
        | some d => some d
        | none => if removes then none else newer.getLast?)
  let step (s : Text × Nat × Option Char) (c : Char) : Text × Nat × Option Char :=
    match found c with
    | none => (c :: s.1, s.2.1, none)
    | some none => (s.1, s.2.1 + 1, s.2.2)
    | some (some d) =>
      if letters.contains 's' && s.2.2 = some d then (s.1, s.2.1 + 1, s.2.2) else (d :: s.1, s.2.1 + 1, some d)
  let (made, n, _) := t.foldl step ([], 0, none)
  (made.reverse, n)

/-! ### Ranges -/

/-- The texts from one on up to another one, which are no longer than it. -/
def textsUpTo (last : Text) : Nat → Text → List Value
  | 0, _ => []
  | fuel + 1, t =>
    if last.length < t.length then []
    else if t = last then [.text t]
    else .text t :: textsUpTo last fuel (nextText t)

/-- The values from one to another. -/
def rangeOf (a b : Value) : List Value :=
  let isText (v : Value) : Bool := match v with
    | .text t => t ≠ [] && !(looksNumeric t && !(t.head? = some '0' && 1 < t.length))
    | _ => false
  if isText a then textsUpTo b.toText 1000000 a.toText
  else
    let first := a.whole
    (List.range (b.whole + 1 - first).toNat).map fun i => .int (first + (i : Nat))

end Rollout.Program.Perl
