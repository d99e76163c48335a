import Rollout.Machine.Calendar.Format
import Rollout.Machine.Program.Input

/-!
Pages for printing: lines with heads and feet, in one column, in several that are filled down or across, or side by
side from several files. Blanks between columns are written with tabs.
-/

namespace Rollout.Program

open Unix

/-! ### Sheets -/

/-- A character with a number: where tabs lead, or how numbers are separated. -/
structure Marked where
  /-- The character. -/
  mark : Char
  /-- The number. -/
  size : Nat

/-- How columns follow one another. -/
inductive Flow
  /-- Each is filled before the next one. -/
  | down
  /-- Each line goes to the next one. -/
  | across
  /-- Each is a file. -/
  | parallel
  deriving DecidableEq

/-- How control characters are shown. -/
inductive Shown
  | plain | caret | octal
  deriving DecidableEq

/-- What sheets look like. -/
structure Sheet where
  /-- The number of columns. -/
  columns : Nat
  /-- How they follow one another. -/
  flow : Flow
  /-- How many lines a page has. -/
  length : Nat
  /-- How many characters a line has. -/
  width : Nat
  /-- How many blanks stand in front. -/
  margin : Nat
  /-- Have pages heads and feet? -/
  framed : Bool
  /-- Do form feeds in files remain? -/
  keepsFeeds : Bool
  /-- Do form feeds end pages? -/
  feeds : Bool
  /-- Is every second line empty? -/
  double : Bool
  /-- What stands between columns, if something does. -/
  separator : Option Text
  /-- Are lines cut where their columns end? -/
  cuts : Bool
  /-- The tabs that are read. -/
  input : Marked
  /-- Are they replaced? -/
  expands : Bool
  /-- The tabs that are written, if they are. -/
  output : Option Marked
  /-- How control characters are shown. -/
  shown : Shown
  /-- How lines are numbered, if they are. -/
  numbers : Option Marked

namespace Sheet

/-- How many lines the head and the foot have, each. -/
def frame : Nat := 5

/-- How many lines the body of a page has. -/
def body (s : Sheet) : Nat := if s.framed then s.length - 2 * frame else s.length

/-- How many lines are on a page. -/
def lines (s : Sheet) : Nat := if s.double then s.body / 2 else s.body

/-- How many characters a number takes. -/
def numberWidth (s : Sheet) : Nat :=
  match s.numbers with
  | none => 0
  | some m => if m.mark = '\t' then m.size + (8 - m.size % 8) else m.size + 1

/-- How long the separator is. -/
def gap (s : Sheet) : Nat := (s.separator.getD []).length

/-- How wide a column is, if there is room for any. -/
def columnWidth? (s : Sheet) : Option Nat :=
  let used := (if s.flow = .parallel then s.numberWidth else 0) + (s.columns - 1) * s.gap
  let width := (s.width - used) / s.columns
  if width = 0 then none else some width

/-- How wide a column is. -/
def columnWidth (s : Sheet) : Nat := s.columnWidth?.getD 0

/-- Where a column starts. -/
def start (s : Sheet) (column : Nat) : Nat :=
  if column = 0 then s.margin + s.gap
  else if s.cuts then
    s.margin + column * (s.columnWidth + s.gap) + (if s.flow = .parallel then s.numberWidth else 0)
  else 0

/-! ### Cells -/

/-- What a line is in a column: its characters, and how many columns they take. -/
structure Cell where
  /-- The characters. -/
  text : Text
  /-- How many columns they take. -/
  width : Nat

/-- A character as it is written at a column, and how far it leads. -/
def clump (s : Sheet) (column : Nat) (c : Char) : Text × Int :=
  if c = s.input.mark || c = '\t' then
    let size := if c = s.input.mark then s.input.size else 8
    let width := size - column % size
    (if s.expands then List.replicate width ' ' else [c], width)
  else if ' ' ≤ c && c ≤ '~' then ([c], 1)
  else
    let octal : Text := '\\' :: Quotation.octal c
    match s.shown with
    | .octal => (octal, 4)
    | .caret => if c.toNat < 128 then (['^', Char.ofNat (c.toNat ^^^ 64)], 2) else (octal, 4)
    | .plain => if c = '\x08' then (if column = 0 then [] else [c], -1) else ([c], 0)

/-- The number of a line as it is written. -/
def numberText (s : Sheet) (n : Nat) : Text :=
  match s.numbers with
  | none => []
  | some m =>
    let digits := padLeft m.size (Text.ofNat n)
    let separator := if m.mark = '\t' && 1 < s.columns then List.replicate (s.numberWidth - m.size) ' ' else [m.mark]
    digits.drop (digits.length - m.size) ++ separator

/-- Add characters to a cell as long as there is room. -/
def fillCell (s : Sheet) : Cell → Text → Cell
  | c, [] => c
  | c, d :: ds =>
    let (t, n) := s.clump c.width d
    let width := ((c.width : Int) + n).toNat
    if s.cuts && s.columnWidth < width then c else fillCell s ⟨c.text ++ t, width⟩ ds

/-- The cell of a line, which may have a number. -/
def cell (s : Sheet) (number : Option Nat) (line : Text) : Cell :=
  let label := (number.map s.numberText).getD []
  let used := if number.isSome && s.cuts && s.flow ≠ .parallel then s.numberWidth else 0
  match line with
  | [] => ⟨label, used⟩
  | c :: cs =>
    let (t, n) := s.clump 0 c
    let width := n.toNat
    if s.cuts && s.columnWidth < width then ⟨label, used⟩ else s.fillCell ⟨label ++ t, width + used⟩ cs

/-! ### Rows -/

/-- Where writing a row has come to. -/
structure Pen where
  /-- The column. -/
  column : Nat
  /-- Blanks that have not been written. -/
  blanks : Nat
  /-- Separators that have not been written. -/
  separators : Nat
  /-- What has been written, the latest first. -/
  written : Text

namespace Pen

/-- Before a row. -/
def fresh : Pen := ⟨0, 0, 0, []⟩

/-- Tabs and blanks from a column to another one. -/
def blanksTo (m : Marked) (goal : Nat) : Nat → Nat → Text
  | 0, column => List.replicate (goal - column) ' '
  | fuel + 1, column =>
    let next := column + (m.size - column % m.size)
    if column + 1 < goal && next ≤ goal then m.mark :: blanksTo m goal fuel next
    else List.replicate (goal - column) ' '

/-- Write the blanks that have not been written. -/
def settle (s : Sheet) (p : Pen) : Pen :=
  let goal := p.column + p.blanks
  let t := blanksTo (s.output.getD ⟨' ', 1⟩) goal p.blanks p.column
  { p with
    column := goal
    blanks := 0
    written := t.reverse ++ p.written }

/-- Write a character. -/
def put (s : Sheet) (p : Pen) (c : Char) : Pen :=
  if s.output.isNone then { p with written := c :: p.written }
  else if c = ' ' then { p with blanks := p.blanks + 1 }
  else
    let p := if 0 < p.blanks then p.settle s else p
    let column := if c = '\x08' then p.column - 1 else if ' ' ≤ c && c ≤ '~' then p.column + 1 else p.column
    { p with
      column := column
      written := c :: p.written }

/-- Go to a column. -/
def goTo (s : Sheet) (column : Nat) (p : Pen) : Pen :=
  if s.output.isSome then { p with blanks := column - p.column }
  else { p with
    column := column
    written := List.replicate (column - p.column) ' ' ++ p.written }

/-- Write the separators that have not been written. -/
def separate (s : Sheet) (p : Pen) : Pen :=
  if p.separators = 0 then if 0 < p.blanks then p.settle s else p
  else
    let p := (s.separator.getD []).foldl (fun (p : Pen) c =>
      if c = ' ' then { p with blanks := p.blanks + 1 }
      else
        let p := if 0 < p.blanks then p.settle s else p
        { p with
          column := p.column + 1
          written := c :: p.written }) p
    { (if 0 < p.blanks then p.settle s else p) with separators := 0 }

/-- Come to the start of a column. -/
def enter (s : Sheet) (start : Nat) (p : Pen) : Pen :=
  let p := if s.gap < start then p.goTo s (start - s.gap) else p
  if s.separator.isSome then p.separate s else p

/-- Write a cell in a column. -/
def cell (s : Sheet) (column : Nat) (c : Cell) (p : Pen) : Pen :=
  let start := s.start column
  let p := c.text.foldl (Pen.put s) (p.enter s start)
  if s.flow = .down && 1 < s.columns && p.blanks = 0 then
    { p with column := start + c.width - (if column = 0 then s.gap else 0) }
  else p

/-- Leave a column empty that has come to its end. -/
def skip (s : Sheet) (column : Nat) (p : Pen) : Pen := p.enter s (s.start column)

/-- Come to a column whose neighbours before it are empty. -/
def afterEmpty (s : Sheet) (label : Text) (column : Nat) (p : Pen) : Pen :=
  let count := p.separators
  let p := (List.range count).foldl (fun (p : Pen) i =>
    let p := p.skip s i
    let p := if i = 0 then label.foldl (Pen.put s) p else p
    { p with separators := p.separators + 1 }) { p with separators := 0 }
  if s.cuts && s.gap < s.start column then p else { p with blanks := if s.cuts then s.columnWidth else 0 }

end Pen

/-- A row of cells, in which some columns may be empty; an empty first column may have a number. -/
def row (s : Sheet) (label : Text) (cells : List (Option Cell)) : Text :=
  let step (k : Pen × Bool) (c : Option Cell × Nat) : Pen × Bool :=
    let (p, isEmpty) := k
    let (p, isEmpty) := match c.1 with
      | some cell =>
        let p := if isEmpty && 0 < c.2 then p.afterEmpty s label c.2 else p
        (p.cell s c.2 cell, false)
      | none => (if isEmpty then p else p.skip s c.2, isEmpty)
    (if s.separator.isSome then { p with separators := p.separators + 1 } else p, isEmpty)
  (cells.zipIdx.foldl step (Pen.fresh, true)).1.written.reverse

/-! ### Pages -/

/-- What stands on pages besides their lines. -/
structure Caption where
  /-- The date. -/
  date : Text
  /-- The title. -/
  title : Text

/-- The head of a page with a number. -/
def head (s : Sheet) (k : Caption) (number : Nat) : Text :=
  let page : Text := "Page " ++ Text.ofNat number
  let room := s.width - (k.date ++ k.title ++ page).length
  let left := room / 2
  let margin := List.replicate s.margin ' '
  margin ++ "\n\n" ++ margin ++ k.date ++ List.replicate (max 1 left) ' ' ++ k.title
    ++ List.replicate (max 1 (room - left)) ' ' ++ page ++ "\n\n\n"

/-- A page of rows with a number; the last one before a form feed may keep that. -/
def page (s : Sheet) (k : Caption) (number : Nat) (rows : List Text) (fed : Bool) : Text :=
  let stored := s.flow = .down && 1 < s.columns
  let ending : Text := if s.double then ['\n', '\n'] else ['\n']
  let text := rows.zipIdx.flatMap fun (r, i) =>
    r ++ if stored && !s.framed && i + 1 = rows.length then ['\n'] else ending
  if s.framed then
    let used := if s.double then 2 * rows.length else rows.length
    s.head k number ++ text ++ (if s.feeds then ['\x0c'] else List.replicate (s.body - used + frame) '\n')
  else text ++ (if fed && s.keepsFeeds then ['\x0c'] else [])

/-- The items in groups of a size. -/
def grouped {α : Type} (size : Nat) : Nat → List α → List (List α)
  | 0, _ => []
  | _, [] => []
  | fuel + 1, xs => xs.take size :: grouped size fuel (xs.drop size)

/-- The first elements of lists together, then the second ones, as long as there are any. -/
def transposed {α : Type} : Nat → List (List α) → List (List (Option α))
  | 0, _ => []
  | fuel + 1, lists =>
    if lists.all (·.isEmpty) then [] else lists.map (·.head?) :: transposed fuel (lists.map (·.drop 1))

/-- The items dealt to columns of about the same length. -/
def balanced {α : Type} (columns : Nat) (xs : List α) : List (List α) :=
  let lengths := (List.range columns).map fun i => xs.length / columns + if i < xs.length % columns then 1 else 0
  (lengths.foldl (fun (k : List (List α) × List α) n => (k.1 ++ [k.2.take n], k.2.drop n)) ([], xs)).1

/-- The rows of the pages on which lines stand, which have numbers from one on. -/
def rowsOf (s : Sheet) (first : Nat) (lines : List Text) : List (List Text) :=
  let cells := lines.zipIdx.map fun (l, i) => s.cell (if s.numbers.isSome then some (first + i) else none) l
  let fuel := cells.length + 1
  match s.flow with
  | .across =>
    let rows := (grouped s.columns fuel cells).map fun cs => s.row [] (cs.map some)
    grouped s.lines fuel rows
  | _ => (grouped (s.columns * s.lines) fuel cells).map fun cs =>
    (transposed fuel (balanced s.columns cs)).map fun r => s.row [] (r.filter (·.isSome))

/-- The rows of the pages on which files stand side by side. -/
def parallelRows (s : Sheet) (first : Nat) (files : List (List Text)) : List (List Text) :=
  let fuel := (files.map List.length).foldl max 0 + 1
  let rows := (transposed fuel files).zipIdx.map fun (r, i) =>
    let number := if s.numbers.isSome then some (first + i) else none
    s.row ((number.map s.numberText).getD []) (r.zipIdx.map fun (l, j) => l.map (s.cell (if j = 0 then number else none)))
  grouped s.lines fuel rows

/-- A text between form feeds. -/
def fedParts (t : Text) : List Text :=
  match Text.split '\x0c' t with
  | [] => []
  | p :: ps => p :: ps.map fun q => if q.head? = some '\n' then q.drop 1 else q

/-- The pages of a text whose lines have numbers from one on: their rows, and whether a form feed ends them. -/
def pagesOf (s : Sheet) (first : Nat) (t : Text) : List (List Text × Bool) :=
  let parts := fedParts t
  (parts.zipIdx.foldl (fun (k : List (List (List Text × Bool)) × Nat) (p : Text × Nat) =>
    let lines := linesOf p.1
    let isLast := p.2 + 1 = parts.length
    let pages := s.rowsOf k.2 lines
    let pages := if pages.isEmpty && !isLast then [[]] else pages
    let marked := pages.zipIdx.map fun (r, i) => (r, !isLast && i + 1 = pages.length)
    (marked :: k.1, k.2 + lines.length)) ([], first)).1.reverse.flatten

end Sheet

/-! ### Options -/

/-- The options of `pr`. -/
def prFlags : List Flag :=
  let optional (c : Char) (w : String) : Flag := ⟨some c, some w.toList, .optional⟩
  ([.plain 'a' "across", .plain 'c' "show-control-chars", .plain 'd' "double-space", .valued 'D' "date-format",
    optional 'e' "expand-tabs", .plain 'F' "form-feed", .plain 'f' "", .valued 'h' "header", optional 'i' "output-tabs",
    .plain 'J' "join-lines", .valued 'l' "length", .plain 'm' "merge", optional 'n' "number-lines",
    .valued 'N' "first-line-number", .valued 'o' "indent", .plain 'r' "no-file-warnings", optional 's' "separator",
    optional 'S' "sep-string", .plain 't' "omit-header", .plain 'T' "omit-pagination", .plain 'v' "show-nonprinting",
    .valued 'w' "width", .valued 'W' "page-width", .valuedWord "columns", .valuedWord "pages"] : List Flag)
    ++ "0123456789".toList.map fun c => ⟨some c, none, .optional⟩

/-- The number that an option has, not below a least one. -/
def pageNumber (problem : String) (least : Nat) (t : Text) : Act Nat := do
  let about : Text := problem.toList ++ ": " ++ inQuotes t
  match Text.toNat? (if t.head? = some '+' then t.drop 1 else t) with
  | none => giveUp 1 about
  | some n =>
    if n < least then giveUp 1 (about ++ ": Numerical result out of range")
    else if 2147483647 < n then giveUp 1 (about ++ ": Value too large for defined data type")
    else return n

/-- A character and a number that an option may have. -/
def markedFrom (letter : Char) (usual : Marked) (t : Text) : Act Marked := do
  let (mark, rest) : Char × Text := match t with
    | c :: cs => if c.isDigit then (usual.mark, t) else (c, cs)
    | [] => (usual.mark, [])
  if rest.isEmpty then return ⟨mark, usual.size⟩
  match Text.toNat? rest with
  | some (n + 1) => return ⟨mark, n + 1⟩
  | _ => misused 1 ("'-" ++ letter :: "' extra characters or invalid number in the argument: ".toList ++ inQuotes rest)

/-- The first and the last page that a text asks for. -/
def pageRange? (t : Text) : Option (Nat × Option Nat) := do
  let first := t.takeWhile (· ≠ ':')
  let n ← Text.toNat? first
  if n = 0 then none
  else if first.length = t.length then some (n, none)
  else
    let m ← Text.toNat? (t.drop (first.length + 1))
    if m < n then none else some (n, some m)

/-- The sheet that options ask for, for a number of files. -/
def sheetFrom (a : Arguments) (files : Nat) : Act Sheet := do
  let isNumber (o : Text × Text) : Bool := o.1.length = 1 && o.1.all Char.isDigit
  let given := a.options.filterMap fun o =>
    if isNumber o then some (o.1 ++ o.2) else if o.1 = "columns" then some o.2 else none
  let columns ← (given.getLast?.map (pageNumber "invalid number of columns" 1)).getD (pure 1)
  let valued (key problem : String) (least usual : Nat) : Act Nat :=
    ((a.value? key).map (pageNumber problem least)).getD (pure usual)
  let length ← valued "l" "'-l PAGE_LENGTH' invalid number of lines" 1 66
  let narrow ← valued "w" "'-w PAGE_WIDTH' invalid number of characters" 1 72
  let wide ← valued "W" "'-W PAGE_WIDTH' invalid number of characters" 1 72
  let margin ← valued "o" "'-o MARGIN' invalid line offset" 0 0
  let input ← markedFrom 'e' ⟨'\t', 8⟩ ((a.value? "e").getD [])
  let output ← markedFrom 'i' ⟨'\t', 8⟩ ((a.value? "i").getD [])
  let numbers ← ((a.value? "n").map fun t => do return some (← markedFrom 'n' ⟨'\t', 5⟩ t)).getD (pure none)
  let parallel := a.has "m"
  if parallel && !given.isEmpty then giveUp 1 "cannot specify number of columns when printing in parallel"
  if parallel && a.has "a" then giveUp 1 "cannot specify both printing across and printing in parallel"
  let parallel := parallel && 0 < files
  let columns := if parallel then files else columns
  let several := parallel || !given.isEmpty
  -- the older options for separators and widths decide whether columns are aligned
  let byString := a.has "S"
  let bySign := a.has "s" && !byString
  let text := (a.value? (if byString then "S" else "s")).getD []
  let cutsByWidth := a.has "W" || (a.has "w" && several)
  let joins := a.has "J" || (a.has "w" && !a.has "W" && !several) || (bySign && several && !cutsByWidth)
  let uses := byString || (bySign && several && (cutsByWidth || !text.isEmpty))
  let separator : Option Text :=
    if columns ≤ 1 then if uses then some text else none
    else if !uses then some (if joins then ['\t'] else [' '])
    else if !joins && text = ['\t'] then some [' ']
    else some text
  let body := length - 2 * Sheet.frame
  let framed := !a.has "t" && !a.has "T" && 0 < body
  return {
    columns := columns
    flow := if parallel then .parallel else if a.has "a" && 1 < columns then .across else .down
    length := length
    width := if a.has "W" then wide else narrow
    margin := margin
    framed := framed
    keepsFeeds := (a.has "t" || body = 0) && !a.has "T"
    feeds := a.has "F" || a.has "f"
    double := a.has "d"
    separator := separator
    cuts := (cutsByWidth || 1 < columns) && !joins
    input := input
    expands := a.has "e" || (1 < columns && separator ≠ some ['\t'])
    output := if a.has "i" || 1 < columns then some output else none
    shown := if a.has "v" then .octal else if a.has "c" then .caret else .plain
    numbers := numbers }

/-- Print pages, as far as they are wanted. -/
def printPages (s : Sheet) (k : Sheet.Caption) (wanted : Nat × Option Nat) (pages : List (List Text × Bool)) :
    Act Unit := do
  -- the end of a file is seen on the page after the last one that is full
  let count := pages.length + if pages.getLast?.all fun p => s.lines ≤ p.1.length then 1 else 0
  if pages.length < wanted.1 && 1 < wanted.1 then
    grumble ("starting page number " ++ Text.ofNat wanted.1 ++ " exceeds page count " ++ Text.ofNat count)
  for ((rows, fed), i) in pages.zipIdx 1 do
    if wanted.1 ≤ i && wanted.2.all (i ≤ ·) then say (s.page k i rows fed)

/-- Print files on pages. -/
def pr : Routine := fun ts => do
  let a ← arguments prFlags true 1 ts
  let isRange (t : Text) : Bool := t.head? = some '+' && (pageRange? (t.drop 1)).isSome
  let asked := (a.values "pages").getLast?.or ((a.operands.find? isRange).map (·.drop 1))
  let files := match a.operands.find? isRange with
    | some t => if (a.values "pages").isEmpty then a.operands.erase t else a.operands
    | none => a.operands
  let wanted ← match asked with
    | none => pure (1, none)
    | some t => match pageRange? t with
      | some r => pure r
      | none => giveUp 1 ("invalid page range " ++ inQuotes t)
  let first ← ((a.value? "N").map (pageNumber "'-N NUMBER' invalid starting line number" 0)).getD (pure 1)
  let s ← sheetFrom a files.length
  if s.columnWidth?.isNone then giveUp 1 "page width too narrow"
  let p ← get
  let dateOf (moment : Int) : Text :=
    Calendar.format (.ofMoment (zoneOf p) moment) ((a.value? "D").getD "%Y-%m-%d %H:%M")
  let refuse (path e : Text) : Act Unit := if a.has "r" then pure () else grumble (nameOf path ++ ": " ++ e)
  if s.flow = .parallel then
    let found ← files.mapM fun path => do
      match ← contentOf path with
      | .ok t => return some (linesOf t)
      | .error e => do
        refuse path e
        return none
    let rows := s.parallelRows first (found.filterMap fun l => l)
    printPages s ⟨dateOf p.now, (a.value? "h").getD []⟩ wanted (rows.map fun r => (r, false))
    return if found.all (·.isSome) then 0 else 1
  else
    forEach (fun path => do
      match ← contentOf path with
      | .ok t => do
        let time := if path = ['-'] then p.now else ((p.find? path).map (·.about.changed)).getD p.now
        let title := (a.value? "h").getD (if path = ['-'] then [] else path)
        printPages s ⟨dateOf time, title⟩ wanted (s.pagesOf first t)
        return 0
      | .error e => do
        refuse path e
        return 1) (orInput files)

end Rollout.Program
