import Rollout.Machine.Difference
import Rollout.Machine.Program.Input
import Rollout.Machine.Regex.Parser

/-!
Lines of files that are compared: what of them counts, which changes do not matter, and how they are written.
-/

namespace Rollout.Program

/-- A line of a file. -/
structure FileLine where
  /-- The line. -/
  text : Text
  /-- Does a newline end it? -/
  ended : Bool

/-- The lines of a text. -/
def fileLines (t : Text) : List FileLine :=
  (fullLines t).map fun line => ⟨withoutEnd '\n' line, line.getLast? = some '\n'⟩

/-- The line as it was, with the newline that ends it. -/
def FileLine.whole (line : FileLine) : Text := if line.ended then line.text ++ ['\n'] else line.text

/-! ### What counts -/

/-- Which blanks do not count. -/
inductive Blanks
  /-- All count. -/
  | counted
  /-- Tabs count as the blanks that they stand for, or those at the end do not count, or both. -/
  | loose (tabs endings : Bool)
  /-- How many there are does not count. -/
  | amounts
  /-- None count. -/
  | ignored
  deriving DecidableEq

namespace Blanks

/-- How loose it is. -/
def rank : Blanks → Nat
  | .counted => 0
  | .loose .. => 1
  | .amounts => 2
  | .ignored => 3

/-- Let something else not count, too. -/
def join (a b : Blanks) : Blanks :=
  match a, b with
  | .loose t e, .loose u f => .loose (t || u) (e || f)
  | a, b => if a.rank < b.rank then b else a

/-- Do blanks at the end count? -/
def countsEndings : Blanks → Bool
  | .counted => true
  | .loose _ e => !e
  | _ => false

end Blanks

/-- What does not count when lines are compared. -/
structure Tolerance where
  /-- The case of letters. -/
  case : Bool
  /-- Blanks. -/
  blanks : Blanks
  /-- A carriage return at the end. -/
  returns : Bool
  /-- Changes of empty lines. -/
  empty : Bool
  /-- Changes of lines that one of these matches. -/
  patterns : List Regex.Compiled
  /-- How many columns a tab leads on. -/
  tabSize : Nat

namespace Tolerance

/-- Is the character a blank of any kind? -/
def isSpace (c : Char) : Bool := c = ' ' || ('\t' ≤ c && c ≤ '\r')

/-- Runs of blanks as one blank, without those at the end. -/
def squeezed : Text → Text
  | [] => []
  | c :: cs =>
    if !isSpace c then c :: squeezed cs
    else match squeezed cs with
      | [] => []
      | ' ' :: rest => ' ' :: rest
      | rest => ' ' :: rest

/-- A line with blanks in place of tabs, from a column on. -/
def spread (size : Nat) : Nat → Text → Text
  | _, [] => []
  | column, c :: cs =>
    if c = '\t' then
      let n := size - column % size
      List.replicate n ' ' ++ spread size (column + n) cs
    else c :: spread size (if c = '\x08' then column - 1 else if c = '\r' then 0 else column + 1) cs

/-- The text without blanks at its end. -/
def trimmed (t : Text) : Text := (t.reverse.dropWhile isSpace).reverse

/-- What counts of a line. -/
def reduced (t : Tolerance) (line : Text) : Text :=
  let line := if t.returns then Text.dropReturn line else line
  let line := if t.case then line.map Char.toLower else line
  match t.blanks with
  | .counted => line
  | .loose tabs endings =>
    let line := if tabs then spread t.tabSize 0 line else line
    if endings then trimmed line else line
  | .amounts => squeezed line
  | .ignored => line.filter (!isSpace ·)

/-- What lines are compared by. -/
def key (t : Tolerance) (line : FileLine) : Text × Bool :=
  (t.reduced line.text, line.ended || !t.blanks.countsEndings)

/-- May changes of some lines not matter? -/
def isSelective (t : Tolerance) : Bool := t.empty || !t.patterns.isEmpty

/-- Does a change of the line not matter? -/
def isTrivial (t : Tolerance) (line : FileLine) : Bool :=
  let isEmpty := line.text.isEmpty || (!t.blanks.countsEndings && line.text.all isSpace)
  (t.empty && isEmpty) || t.patterns.any fun r => (r.search line.text 0).isSome

end Tolerance

/-- Numbers for keys, the same for the same keys. -/
def numbered (keys : List (Text × Bool)) : Array Nat :=
  let distinct := keys.foldl (fun seen k => if seen.contains k then seen else seen.push k) (#[] : Array (Text × Bool))
  (keys.map fun k => (distinct.idxOf? k).getD 0).toArray

/-! ### Two files -/

/-- Two files and how they differ. -/
structure Pair where
  /-- The lines of the first file. -/
  old : Array FileLine
  /-- The lines of the second file. -/
  new : Array FileLine

namespace Pair

/-- The lines that a change takes away. -/
def removed (p : Pair) (c : Difference.Change) : List FileLine :=
  (p.old.extract c.oldStart (c.oldStart + c.removed)).toList

/-- The lines that a change puts in. -/
def added (p : Pair) (c : Difference.Change) : List FileLine :=
  (p.new.extract c.newStart (c.newStart + c.added)).toList

/-- Does the change not matter? -/
def isTrivial (p : Pair) (t : Tolerance) (c : Difference.Change) : Bool :=
  t.isSelective && (p.removed c ++ p.added c).all t.isTrivial

end Pair

/-! ### Writing lines -/

/-- How lines are written. -/
structure Inscription where
  /-- Is there a tab between a mark and its line? -/
  startsWithTab : Bool
  /-- Is there nothing behind the mark of an unchanged empty line? -/
  barest : Bool
  /-- How many columns a tab leads on that is written as blanks, if it is. -/
  tabSize : Option Nat
  /-- Do lines have colors? -/
  colored : Bool

namespace Inscription

/-- The line at the start of a text in a color, and the rest of the text. -/
def paint (s : Inscription) (color : String) (t : Text) : Text :=
  let line := t.takeWhile (· ≠ '\n')
  if s.colored then "\x1b[" ++ color.toList ++ "m" ++ line ++ "\x1b[0m" ++ t.drop line.length else t

/-- The color of what is told about places. -/
def placeColor : String := "36"

/-- The color of lines that are removed. -/
def removedColor : String := "31"

/-- The color of lines that are added. -/
def addedColor : String := "32"

/-- The color of names. -/
def nameColor : String := "1"

/-- A line as it is written. -/
def body (s : Inscription) (t : Text) : Text :=
  match s.tabSize with
  | none => t
  | some size => Tolerance.spread size 0 t

/-- What is said after a line that no newline ends. -/
def unended : Text := "\n\\ No newline at end of file\n"

/-- A line behind a text. -/
def behind (s : Inscription) (start : Text) (line : FileLine) : Text :=
  start ++ s.body line.text ++ if line.ended then ['\n'] else unended

/-- A line behind a mark and a blank. -/
def apart (s : Inscription) (mark : Text) (line : FileLine) : Text :=
  let start := if s.barest && line.text.isEmpty then (mark.reverse.dropWhile (· = ' ')).reverse
    else mark ++ [if s.startsWithTab then '\t' else ' ']
  s.behind start line

/-- A line right behind a mark; unchanged lines have a blank for one. -/
def close (s : Inscription) (mark : Char) (line : FileLine) : Text :=
  let bare := s.barest && line.text.isEmpty
  let start : Text :=
    if mark = ' ' then (if bare then [] else if s.startsWithTab then ['\t'] else [' '])
    else mark :: if s.startsWithTab && !bare then ['\t'] else []
  let shown := s.behind start line
  match mark with
  | '-' => s.paint removedColor shown
  | '+' => s.paint addedColor shown
  | _ => shown

end Inscription

end Rollout.Program
