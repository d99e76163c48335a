import Rollout.Machine.Number.Rounded
import Rollout.Machine.Program.Review.Line

/-!
Two files put together by templates: one for each kind of group of lines, and one for each kind of line.
-/

namespace Rollout.Program

/-- The templates. Changed groups of lines have parts of both files, others of one, or the same in both. -/
structure Template where
  /-- For groups of common lines. -/
  commonGroup : Text
  /-- For groups of lines of the first file. -/
  oldGroup : Text
  /-- For groups of lines of the second file. -/
  newGroup : Text
  /-- For groups of lines of both files. -/
  changedGroup : Text
  /-- For common lines. -/
  commonLine : Text
  /-- For lines of the first file. -/
  oldLine : Text
  /-- For lines of the second file. -/
  newLine : Text

/-- A group of lines: the places in both files from which on and up to which it reaches. -/
structure LineGroup where
  /-- The start in the first file. -/
  oldStart : Nat
  /-- The end in the first file. -/
  oldStop : Nat
  /-- The start in the second file. -/
  newStart : Nat
  /-- The end in the second file. -/
  newStop : Nat

namespace LineGroup

/-- The number that a letter stands for; a small letter is about the first file. -/
def value? (g : LineGroup) (letter : Char) : Option Nat :=
  let (start, stop) := if letter.isUpper then (g.newStart, g.newStop) else (g.oldStart, g.oldStop)
  match letter.toLower with
  | 'e' => some start
  | 'f' => some (start + 1)
  | 'l' => some stop
  | 'm' => some (stop + 1)
  | 'n' => some (stop - start)
  | _ => none

end LineGroup

namespace Template

/-- The character that a literal behind a percent sign and a letter is, and what follows it. -/
def literal? : Text → Option (Char × Text)
  | '\'' :: '\\' :: cs =>
    let ds := (cs.take 3).takeWhile fun c => '0' ≤ c && c ≤ '7'
    match cs.drop ds.length with
    | '\'' :: rest =>
      if ds.isEmpty then none else some (Char.ofNat (ds.foldl (fun n c => 8 * n + (c.toNat - 48)) 0 % 256), rest)
    | _ => none
  | '\'' :: c :: '\'' :: rest => if c = '\'' then none else some (c, rest)
  | _ => none

/-- The text that a directive behind a percent sign stands for, and what follows it; letters stand for numbers. -/
def number? (value : Char → Option Nat) (t : Text) : Option (Text × Text) :=
  let flags := t.takeWhile "-'0".toList.contains
  let rest := t.drop flags.length
  let width := rest.takeWhile Char.isDigit
  let rest := rest.drop width.length
  let (precision, rest) := match rest with
    | '.' :: rest =>
      let ds := rest.takeWhile Char.isDigit
      (some ((Text.toNat? ds).getD 0), rest.drop ds.length)
    | rest => (none, rest)
  match rest with
  | 'c' :: rest => (literal? rest).map fun (c, rest) => ([c], rest)
  | kind :: letter :: rest =>
    if !"doxX".toList.contains kind then none
    else
      let d : Directive := ⟨flags.filter (· ≠ '\''), (Text.toNat? width).getD 0, precision⟩
      (value letter).map fun n => (d.integer kind n, rest)
  | _ => none

/-- A line with its number as a template writes it. -/
def line (s : Inscription) (number : Nat) (l : FileLine) : Nat → Text → Text
  | 0, _ => []
  | _, [] => []
  | fuel + 1, '%' :: cs => match cs with
    | [] => ['%']
    | '%' :: cs => '%' :: line s number l fuel cs
    | 'l' :: cs => s.body l.text ++ line s number l fuel cs
    | 'L' :: cs => (s.body l.text ++ if l.ended then ['\n'] else []) ++ line s number l fuel cs
    | cs => match number? (fun c => if c = 'n' then some number else none) cs with
      | some (t, rest) => t ++ line s number l fuel rest
      | none => '%' :: line s number l fuel cs
  | fuel + 1, c :: cs => c :: line s number l fuel cs

/-- Lines of a file, of which the first has this number, as a template writes them. -/
def lines (s : Inscription) (template : Text) (number : Nat) (ls : List FileLine) : Text :=
  (ls.zipIdx number).flatMap fun (l, n) => line s n l (template.length + 1) template

/-- The number at the start of a condition, and what follows it. -/
def operand? (g : LineGroup) (t : Text) : Option (Nat × Text) :=
  let ds := t.takeWhile Char.isDigit
  if ds.isEmpty then t.head?.bind fun c => (g.value? c).map fun n => (n, t.drop 1)
  else (Text.toNat? ds).map fun n => (n, t.drop ds.length)

/-- Is a condition met, and what follows it? -/
def condition? (g : LineGroup) (t : Text) : Option (Bool × Text) := do
  let (m, t) ← operand? g t
  if t.head? ≠ some '=' then none
  let (n, t) ← operand? g (t.drop 1)
  if t.head? ≠ some '?' then none
  return (m = n, t.drop 1)

/-- A group of lines as a template writes it up to a character, and what follows from there on. -/
def group (s : Inscription) (m : Template) (p : Pair) (g : LineGroup) : Nat → Option Char → Text → Text × Text
  | 0, _, t => ([], t)
  | _, _, [] => ([], [])
  | fuel + 1, stop, c :: cs =>
    let after (t rest : Text) : Text × Text :=
      let (u, rest) := group s m p g fuel stop rest
      (t ++ u, rest)
    if some c = stop then ([], c :: cs)
    else if c ≠ '%' then after [c] cs
    else match cs with
      | '%' :: cs => after ['%'] cs
      | '<' :: cs => after (lines s m.oldLine (g.oldStart + 1) (p.old.extract g.oldStart g.oldStop).toList) cs
      | '=' :: cs => after (lines s m.commonLine (g.oldStart + 1) (p.old.extract g.oldStart g.oldStop).toList) cs
      | '>' :: cs => after (lines s m.newLine (g.newStart + 1) (p.new.extract g.newStart g.newStop).toList) cs
      | '(' :: inner => match condition? g inner with
        | none => after ['%'] cs
        | some (holds, rest) =>
          let (yes, rest) := group s m p g fuel (some ':') rest
          let (no, rest) := group s m p g fuel (some ')') (rest.drop 1)
          after (if holds then yes else no) (rest.drop 1)
      | cs => match number? g.value? cs with
        | some (t, rest) => after t rest
        | none => after ['%'] cs

/-- The template of a group. -/
def ofGroup (m : Template) (isCommon : Bool) (g : LineGroup) : Text :=
  if isCommon then m.commonGroup
  else if g.newStart = g.newStop then m.oldGroup
  else if g.oldStart = g.oldStop then m.newGroup
  else m.changedGroup

/-- A group as it is written. -/
def written (s : Inscription) (m : Template) (p : Pair) (isCommon : Bool) (g : LineGroup) : Text :=
  let t := m.ofGroup isCommon g
  (group s m p g (t.length + 1) none t).1

/-- Two files put together, from a place in each, with the changes that matter. -/
def merged (s : Inscription) (m : Template) (p : Pair) : Nat → Nat → List Difference.Change → Text
  | i, j, [] =>
    if i < p.old.size || j < p.new.size then written s m p true ⟨i, p.old.size, j, p.new.size⟩ else []
  | i, j, c :: cs =>
    let oldStop := c.oldStart + c.removed
    let newStop := c.newStart + c.added
    (if i < c.oldStart || j < c.newStart then written s m p true ⟨i, c.oldStart, j, c.newStart⟩ else [])
      ++ written s m p false ⟨c.oldStart, oldStop, c.newStart, newStop⟩ ++ merged s m p oldStop newStop cs

/-- The templates with which lines stand between conditions on a name. -/
def conditional (name : Text) : Template where
  commonGroup := "%="
  oldGroup := "#ifndef " ++ name ++ "\n%<#endif /* ! " ++ name ++ " */\n"
  newGroup := "#ifdef " ++ name ++ "\n%>#endif /* " ++ name ++ " */\n"
  changedGroup := "#ifndef " ++ name ++ "\n%<#else /* " ++ name ++ " */\n%>#endif /* " ++ name ++ " */\n"
  commonLine := "%l\n"
  oldLine := "%l\n"
  newLine := "%l\n"

end Template

end Rollout.Program
