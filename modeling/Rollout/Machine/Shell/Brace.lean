import Rollout.Machine.Shell.Command

/-!
Braces in words of the rich dialect: a word with alternatives between braces stands for several words, one for
each alternative, and so does a word with a range.
-/

namespace Rollout.Shell.Brace

/-- A part of a word: a character without quotes, or any other piece. -/
inductive Mark
  /-- A character. -/
  | char (c : Char)
  /-- A piece. -/
  | piece (p : Piece)

/-- The parts of a word. -/
def marksOf (w : Word) : List Mark := w.flatMap fun
  | .text t false => t.map .char
  | p => [.piece p]

/-- The word of parts. -/
def wordOf : List Mark → Word
  | [] => []
  | .char c :: ms => match wordOf ms with
    | .text t false :: ps => .text (c :: t) false :: ps
    | ps => .text [c] false :: ps
  | .piece p :: ms => p :: wordOf ms

/-- The text of parts that are characters. -/
def textOf? (ms : List Mark) : Option Text := ms.mapM fun
  | .char c => some c
  | .piece _ => none

/-- The alternatives up to the closing brace, what follows it, with so many braces open; the parts of the
current alternative stand in reverse. -/
def alternatives : Nat → List Mark → List Mark → Option (List (List Mark) × List Mark)
  | _, _, [] => none
  | 0, current, .char '\x7d' :: ms => some ([current.reverse], ms)
  | depth + 1, current, .char '\x7d' :: ms => alternatives depth (.char '\x7d' :: current) ms
  | depth, current, .char '\x7b' :: ms => alternatives (depth + 1) (.char '\x7b' :: current) ms
  | 0, current, .char ',' :: ms => (alternatives 0 [] ms).map fun (as, rest) => (current.reverse :: as, rest)
  | depth, current, m :: ms => alternatives depth (m :: current) ms

/-! ### Ranges -/

/-- A text cut where two dots stand. -/
def cutAtDots : Text → List Text
  | [] => [[]]
  | '.' :: '.' :: cs => [] :: cutAtDots cs
  | c :: cs => match cutAtDots cs with
    | [] => [[c]]
    | t :: ts => (c :: t) :: ts

/-- The integer that a text denotes. -/
def integer? (t : Text) : Option Int :=
  match t with
  | '-' :: ds => (Text.toNat? ds).map fun n => -(n : Int)
  | '+' :: ds => (Text.toNat? ds).map fun n => (n : Int)
  | ds => (Text.toNat? ds).map fun n => (n : Int)

/-- The number of characters that all numbers of a range have. -/
def widthOf (t : Text) : Nat :=
  let digits := if t.head? = some '-' then t.drop 1 else t
  if digits.head? = some '0' && 1 < digits.length then t.length else 0

/-- An integer with zeros in front, so that it has so many characters. -/
def padded (width : Nat) (n : Int) : Text :=
  let digits := Text.ofNat n.natAbs
  let sign : Text := if n < 0 then ['-'] else []
  sign ++ List.replicate (width - sign.length - digits.length) '0' ++ digits

/-- The integers from one to another. -/
def steps (start stop step : Int) : List Int :=
  let size := if step = 0 then 1 else step.natAbs
  let count := (stop - start).natAbs / size + 1
  (List.range count).map fun (k : Nat) =>
    if start ≤ stop then start + (k : Int) * (size : Int) else start - (k : Int) * (size : Int)

/-- The texts of a range. -/
def range? (t : Text) : Option (List Text) :=
  let made (a b step : Text) : Option (List Text) := do
    let s ← integer? step
    match integer? a, integer? b with
    | some m, some n => some ((steps m n s).map (padded (max (widthOf a) (widthOf b))))
    | _, _ => match a, b with
      | [c], [d] =>
        if c.isAlpha && d.isAlpha then some ((steps c.toNat d.toNat s).map fun n => [Char.ofNat n.toNat])
        else none
      | _, _ => none
  match cutAtDots t with
  | [a, b] => made a b ['1']
  | [a, b, step] => made a b step
  | _ => none

/-! ### Expansion -/

/-- The words that parts stand for. -/
def expand : Nat → List Mark → List (List Mark)
  | 0, ms => [ms]
  | _, [] => [[]]
  | fuel + 1, .char '\x7b' :: ms =>
    let literal : List (List Mark) := (expand fuel ms).map (.char '\x7b' :: ·)
    match alternatives 0 [] ms with
    | none => literal
    | some ([a], rest) => match (textOf? a).bind range? with
      | some ts => ts.flatMap fun t => (expand fuel rest).map (t.map .char ++ ·)
      | none => literal
    | some (as, rest) => as.flatMap fun a => (expand fuel a).flatMap fun e => (expand fuel rest).map (e ++ ·)
  | fuel + 1, m :: ms => (expand fuel ms).map (m :: ·)

/-- The words that a word stands for. -/
def words (w : Word) : List Word :=
  let ms := marksOf w
  if ms.any fun
    | .char '\x7b' => true
    | _ => false
  then (expand (ms.length + 1) ms).map wordOf else [w]

end Rollout.Shell.Brace
