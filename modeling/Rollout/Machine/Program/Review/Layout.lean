import Rollout.Machine.Program.Review.Template

/-!
How differences between files are shown: as commands, with the lines around them, in two columns with a mark between
them, or by templates.
-/

namespace Rollout.Program

/-! ### Lines side by side -/

/-- How lines stand beside each other. -/
structure Sides where
  /-- How wide both columns are together. -/
  width : Nat
  /-- How many columns a tab leads on. -/
  tabSize : Nat
  /-- Are tabs written as blanks? -/
  expands : Bool
  /-- Are common lines only written in the first column? -/
  leftOnly : Bool
  /-- Are common lines not written? -/
  hidesCommon : Bool

namespace Sides

/-- The least width of the gutter. -/
def gutter : Int := 3

/-- How wide each column is, and where the second one starts. -/
def columns (s : Sides) : Nat × Nat :=
  let t : Int := if s.expands then 1 else s.tabSize
  let w : Int := s.width
  let both := t + gutter
  let unaligned := w / 2 + both / 2 + (w % 2) * (both % 2)
  let offset := unaligned - unaligned % t
  let half := max 0 (min (offset - gutter) (w - offset))
  (half.toNat, if half = 0 then s.width else offset.toNat)

/-- Tabs from a column on, as long as they do not lead beyond another one, and where they lead. -/
def tabs (size goal : Nat) : Nat → Nat → Text × Nat
  | 0, column => ([], column)
  | fuel + 1, column =>
    let next := column + size - column % size
    if next ≤ goal then
      let (t, stop) := tabs size goal fuel next
      ('\t' :: t, stop)
    else ([], column)

/-- What leads from a column to another one. -/
def lead (s : Sides) (column goal : Nat) : Text :=
  let (t, column) := if s.expands then ([], column) else tabs s.tabSize goal (goal + 1) column
  t ++ List.replicate (goal - column) ' '

/-- Where writing a line in a column has come to. -/
structure Half where
  /-- The column in the line. -/
  inner : Nat
  /-- The column in what is written. -/
  outer : Nat
  /-- What is written, the latest first. -/
  written : Text

/-- Write the next character of a line in a column of some width that starts at some place. -/
def step (s : Sides) (indent bound : Nat) (h : Half) (c : Char) : Half :=
  let put (inner outer : Nat) (t : Text) : Half := ⟨inner, outer, t.reverse ++ h.written⟩
  if c = '\t' then
    let n := s.tabSize - h.inner % s.tabSize
    let stop := h.outer + n
    if h.inner ≠ h.outer then { h with inner := h.inner + n }
    else if s.expands then
      let stop := min stop bound
      put (h.inner + n) (max h.outer stop) (List.replicate (stop - h.outer) ' ')
    else if stop < bound then put (h.inner + n) stop ['\t']
    else { h with inner := h.inner + n }
  else if c = '\r' then put 0 0 ('\r' :: s.lead 0 indent)
  else if c = '\x08' then
    if h.inner = 0 then h
    else
      let inner := h.inner - 1
      if bound ≤ inner then { h with inner := inner }
      else if h.outer ≤ inner then put inner inner (List.replicate (inner - h.outer) ' ')
      else put inner inner [c]
  else if ' ' ≤ c && c ≤ '~' then
    if h.inner < bound then put (h.inner + 1) (h.inner + 1) [c] else { h with inner := h.inner + 1 }
  else if c < '\x80' && c ≠ '\x0b' && c ≠ '\x0c' then
    if h.inner ≤ h.outer then put h.inner h.inner [c] else h
  else if h.inner < bound then put h.inner h.outer [c]
  else h

/-- A line in a column, and how wide it is there. -/
def half (s : Sides) (indent bound : Nat) (line : FileLine) : Text × Nat :=
  let h := line.text.foldl (s.step indent bound) ⟨0, 0, []⟩
  (h.written.reverse, h.outer)

/-- A line of both columns. -/
def row (s : Sides) (left : Option FileLine) (mark : Char) (right : Option FileLine) : Text :=
  let (bound, offset) := s.columns
  let (shown, column) := match left with
    | some line => s.half 0 bound line
    | none => ([], 0)
  let leftEnds := left.any (·.ended)
  let (middle, column) : Text × Nat :=
    if mark = ' ' then ([], column)
    else
      let place := (bound + offset - 1) / 2
      let mark := if mark = '|' && leftEnds ≠ right.any (·.ended) then (if leftEnds then '/' else '\\') else mark
      (s.lead column place ++ [mark], place + 1)
  let second : Text := match right with
    | some line =>
      if line.text.isEmpty && line.ended then [] else s.lead column offset ++ (s.half offset bound line).1
    | none => []
  shown ++ middle ++ second ++ if leftEnds || right.any (·.ended) then ['\n'] else []

/-- Lines that are in both files, or whose differences do not matter. -/
def common (s : Sides) : List FileLine → List FileLine → Text
  | [], [] => []
  | a :: as, [] => s.row (some a) '(' none ++ common s as []
  | a :: as, b :: bs =>
    if s.leftOnly then s.row (some a) '(' none ++ common s as bs
    else s.row (some a) ' ' (some b) ++ common s as bs
  | [], b :: bs => if s.leftOnly then [] else s.row none ')' (some b) ++ common s [] bs

/-- Lines that differ. -/
def differing (s : Sides) : List FileLine → List FileLine → Text
  | a :: as, b :: bs => s.row (some a) '|' (some b) ++ differing s as bs
  | as, bs => (bs.flatMap fun b => s.row none '>' (some b)) ++ as.flatMap fun a => s.row (some a) '<' none

/-- Two files beside each other, from a place in each, with the changes that matter. -/
def rows (s : Sides) (p : Pair) : Nat → Nat → List Difference.Change → Text
  | i, j, [] => if s.hidesCommon then [] else s.common (p.old.toList.drop i) (p.new.toList.drop j)
  | i, j, c :: cs =>
    (if s.hidesCommon then []
      else s.common (p.old.extract i c.oldStart).toList (p.new.extract j c.newStart).toList)
      ++ s.differing (p.removed c) (p.added c) ++ rows s p (c.oldStart + c.removed) (c.newStart + c.added) cs

end Sides

/-! ### Layouts -/

/-- How differences are shown. -/
inductive Layout
  /-- As commands with the lines that they are about. -/
  | normal
  /-- As commands for an editor. -/
  | editor
  /-- As commands in the order of the lines. -/
  | forward
  /-- As commands that count lines. -/
  | counted
  /-- With so many unchanged lines around, those of both files after one another. -/
  | context (lines : Nat)
  /-- With so many unchanged lines around, those of both files between one another. -/
  | unified (lines : Nat)
  /-- In two columns. -/
  | sides (s : Sides)
  /-- By templates. -/
  | template (m : Template)

namespace Layout

/-- How many unchanged lines are shown. -/
def around : Layout → Nat
  | .context n => n
  | .unified n => n
  | _ => 0

/-- Is something written for files that are the same? -/
def showsSame : Layout → Bool
  | .sides s => !s.hidesCommon
  | .template m => !m.commonGroup.isEmpty && !(m.commonGroup = "%=" && m.commonLine.isEmpty)
  | _ => false

/-- Must lines be ended? -/
def needsEndings : Layout → Bool
  | .editor => true
  | .forward => true
  | _ => false

end Layout

/-- The numbers of lines from a place on: the first and the last, or the one before if there are none. -/
def lineRange (separator : Char) (start count : Nat) : Text :=
  if count ≤ 1 then Text.ofNat (start + count)
  else Text.ofNat (start + 1) ++ separator :: Text.ofNat (start + count)

/-- The letter of the command that makes a change. -/
def changeLetter (c : Difference.Change) : Char := if c.added = 0 then 'd' else if c.removed = 0 then 'a' else 'c'

namespace Pair

/-- A change as a command. -/
def normal (p : Pair) (s : Inscription) (c : Difference.Change) : Text :=
  s.paint Inscription.placeColor
      (lineRange ',' c.oldStart c.removed ++ changeLetter c :: lineRange ',' c.newStart c.added) ++ '\n'
    :: (p.removed c).flatMap (fun l => s.paint Inscription.removedColor (s.apart ['<'] l))
    ++ (if c.removed ≠ 0 && c.added ≠ 0 then "---\n".toList else [])
    ++ (p.added c).flatMap fun l => s.paint Inscription.addedColor (s.apart ['>'] l)

/-- Lines as an editor takes them, which takes a single dot for the end; the flag tells whether it takes lines. -/
def entered (s : Inscription) : Bool → List FileLine → Text
  | taking, [] => if taking then ['.', '\n'] else []
  | taking, line :: lines =>
    let start : Text := if taking then [] else ['a', '\n']
    if line.text = ['.'] then start ++ "..\n.\ns/.//\n" ++ entered s false lines
    else start ++ s.body line.text ++ '\n' :: entered s true lines

/-- A change as a command for an editor. -/
def editor (p : Pair) (s : Inscription) (c : Difference.Change) : Text :=
  lineRange ',' c.oldStart c.removed ++ changeLetter c :: '\n'
    :: if c.added = 0 then [] else entered s true (p.added c)

/-- A change as a command whose letter comes first. -/
def forward (p : Pair) (s : Inscription) (c : Difference.Change) : Text :=
  changeLetter c :: lineRange ' ' c.oldStart c.removed ++ '\n'
    :: if c.added = 0 then [] else (p.added c).flatMap (fun line => s.body line.text ++ ['\n']) ++ ['.', '\n']

/-- A change as commands that count lines. -/
def counted (p : Pair) (s : Inscription) (c : Difference.Change) : Text :=
  let command (letter : Char) (place count : Nat) : Text :=
    letter :: Text.ofNat place ++ ' ' :: Text.ofNat count ++ ['\n']
  (if c.removed = 0 then [] else command 'd' (c.oldStart + 1) c.removed)
    ++ if c.added = 0 then []
      else command 'a' (c.oldStart + c.removed) c.added
        ++ (p.added c).flatMap fun line => s.body line.text ++ if line.ended then ['\n'] else []

/-- The changes in groups. Between one and the next lie fewer unchanged lines than the given number, or than
another number if one of them does not matter. -/
def groups (isTrivial : Difference.Change → Bool) (gap less : Nat) :
    List Difference.Change → List (List Difference.Change)
  | [] => []
  | c :: cs => match cs, groups isTrivial gap less cs with
    | d :: _, g :: gs =>
      let limit := if isTrivial c || isTrivial d then less else gap
      if d.oldStart - (c.oldStart + c.removed) < limit then (c :: g) :: gs else [c] :: g :: gs
    | _, gs => [c] :: gs

/-- The lines of both files that a group of changes is shown with: the start and the end in each. -/
def window (p : Pair) (around : Nat) (cs : List Difference.Change) : Difference.Window :=
  let first := cs.headD ⟨0, 0, 0, 0⟩
  let last := cs.getLastD ⟨0, 0, 0, 0⟩
  let before := min around (min first.oldStart first.newStart)
  let oldStop := last.oldStart + last.removed
  let newStop := last.newStart + last.added
  let after := min around (min (p.old.size - oldStop) (p.new.size - newStop))
  ⟨first.oldStart - before, oldStop + after, first.newStart - before, newStop + after⟩

/-- Lines of a file from a place up to another one. -/
def linesFrom (lines : Array FileLine) (start stop : Nat) : List FileLine := (lines.extract start stop).toList

/-- What stands behind the places of a group: the last line before it that a pattern matches. -/
def heading (p : Pair) (heads : List Regex.Compiled) (start : Nat) : Text :=
  let isHead (line : FileLine) : Bool := heads.any fun r => (r.search line.text 0).isSome
  match (linesFrom p.old 0 start).reverse.find? isHead with
  | some line =>
    let shown := (line.text.dropWhile Tolerance.isSpace).take 40
    ' ' :: Tolerance.trimmed shown
  | none => []

/-- The lines of a group of changes, those of both files between one another, from a place in the first file on. -/
def unifiedLines (p : Pair) (s : Inscription) (stop : Nat) : Nat → List Difference.Change → Text
  | place, [] => (linesFrom p.old place stop).flatMap (s.close ' ')
  | place, c :: cs =>
    (linesFrom p.old place c.oldStart).flatMap (s.close ' ') ++ (p.removed c).flatMap (s.close '-')
      ++ (p.added c).flatMap (s.close '+') ++ unifiedLines p s stop (c.oldStart + c.removed) cs

/-- The start and the number of lines in a group of changes. -/
def unifiedRange (start stop : Nat) : Text :=
  let count := stop - start
  if count = 0 then Text.ofNat start ++ ",0"
  else Text.ofNat (start + 1) ++ if count = 1 then [] else ',' :: Text.ofNat count

/-- A group of changes, the lines of both files between one another. -/
def unified (p : Pair) (s : Inscription) (heads : List Regex.Compiled) (around : Nat)
    (cs : List Difference.Change) : Text :=
  let w := p.window around cs
  s.paint Inscription.placeColor
      ("@@ -" ++ unifiedRange w.left w.right ++ " +" ++ unifiedRange w.top w.bottom ++ " @@")
    ++ p.heading heads w.left ++ '\n' :: p.unifiedLines s w.right w.left cs

/-- The mark of the lines that a change is about, in a file that it touches or not. -/
def contextMark (c : Difference.Change) (alone : Char) : Text := if c.removed ≠ 0 && c.added ≠ 0 then ['!'] else [alone]

/-- The lines of a file in a group of changes, from a place on, with the parts that are changed. -/
def contextLines (s : Inscription) (color : String) (lines : Array FileLine) (stop : Nat) :
    Nat → List (Text × Nat × Nat) → Text
  | place, [] => (linesFrom lines place stop).flatMap fun l => s.paint color (s.apart [' '] l)
  | place, (mark, start, count) :: cs =>
    (linesFrom lines place start).flatMap (fun l => s.paint color (s.apart [' '] l))
      ++ (linesFrom lines start (start + count)).flatMap (fun l => s.paint color (s.apart mark l))
      ++ contextLines s color lines stop (start + count) cs

/-- A group of changes, the lines of both files after one another. -/
def context (p : Pair) (s : Inscription) (heads : List Regex.Compiled) (around : Nat)
    (cs : List Difference.Change) : Text :=
  let w := p.window around cs
  let olds := cs.map fun c => (contextMark c '-', c.oldStart, c.removed)
  let news := cs.map fun c => (contextMark c '+', c.newStart, c.added)
  let shown (touched : Bool) (t : Text) : Text := if touched then t else []
  let place (t : Text) : Text := s.paint Inscription.placeColor t ++ ['\n']
  "***************" ++ p.heading heads w.left ++ "\n"
    ++ place ("*** " ++ lineRange ',' w.left (w.right - w.left) ++ " ****")
    ++ shown (cs.any (·.removed ≠ 0)) (contextLines s Inscription.removedColor p.old w.right w.left olds)
    ++ place ("--- " ++ lineRange ',' w.top (w.bottom - w.top) ++ " ----")
    ++ shown (cs.any (·.added ≠ 0)) (contextLines s Inscription.addedColor p.new w.bottom w.top news)

/-- The changes as they are shown. Changes that do not matter may be left out. -/
def shown (p : Pair) (layout : Layout) (s : Inscription) (heads : List Regex.Compiled) (t : Tolerance)
    (cs : List Difference.Change) : Text :=
  let matter := cs.filter fun c => !p.isTrivial t c
  let grouped (n : Nat) : List (List Difference.Change) :=
    (groups (p.isTrivial t) (2 * n + 1) n cs).filter fun g => g.any fun c => !p.isTrivial t c
  match layout with
  | .normal => matter.flatMap (p.normal s)
  | .editor => matter.reverse.flatMap (p.editor s)
  | .forward => matter.flatMap (p.forward s)
  | .counted => matter.flatMap (p.counted s)
  | .context n => (grouped n).flatMap (p.context s heads n)
  | .unified n => (grouped n).flatMap (p.unified s heads n)
  | .sides k => k.rows p 0 0 matter
  | .template m => m.merged s p 0 0 matter

end Pair

end Rollout.Program
