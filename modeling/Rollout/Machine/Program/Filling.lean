import Rollout.Machine.Program.Input

/-!
Filling lines: the words of a paragraph are put on lines that are about equally long. Where lines end is chosen so
that the sum of what each line costs is least.
-/

namespace Rollout.Program

open Unix

/-! ### Lines and words -/

/-- How lines are filled. -/
structure Filling where
  /-- Do the first two lines keep their indentations? -/
  crown : Bool
  /-- Must their indentations differ? -/
  tagged : Bool
  /-- Are lines only split? -/
  splits : Bool
  /-- Is there one blank between words, and two after sentences? -/
  uniform : Bool
  /-- How many blanks stand before the mark. -/
  lead : Nat
  /-- The mark with which lines start. -/
  mark : Text
  /-- How long it is with the blanks behind it. -/
  markWidth : Nat
  /-- How long lines may be. -/
  width : Nat
  /-- How long they should be. -/
  goal : Nat

/-- A line that was read. -/
structure SourceLine where
  /-- How far the mark is indented. -/
  lead : Nat
  /-- The column at which the text starts. -/
  column : Nat
  /-- The text. -/
  body : Text
  /-- Is there a newline behind it? -/
  ended : Bool
  /-- Do tabs stand before the text? -/
  tabs : Bool

/-- A word of a paragraph. -/
structure Word where
  /-- The text. -/
  text : Text
  /-- How many columns follow it. -/
  space : Nat
  /-- Does a sentence end with it? -/
  final : Bool
  /-- Are there tabs behind it? -/
  tabs : Bool

namespace Word

/-- Does it start with an opening bracket or a quote? -/
def opens (w : Word) : Bool := w.text.head?.any "(['`\"".toList.contains

/-- Does it end with a mark? -/
def isMarked (w : Word) : Bool :=
  w.text.getLast?.any fun c => '!' ≤ c && c ≤ '~' && !c.isAlphanum

/-- Does it end with a full stop, perhaps before closing brackets? -/
def stops (w : Word) : Bool :=
  let start := w.text.take 1
  let closed := w.text.drop 1 |>.reverse.dropWhile ")]'\"".toList.contains
  (if closed.isEmpty then start else closed).head?.any ".?!".toList.contains

end Word

/-- The column after blanks and tabs, what follows them, and whether there are tabs. -/
def afterBlanks : Nat → Text → Nat × Text × Bool
  | column, ' ' :: cs => afterBlanks (column + 1) cs
  | column, '\t' :: cs => let (n, rest, _) := afterBlanks (column + 8 - column % 8) cs; (n, rest, true)
  | column, cs => (column, cs, false)

/-- How many characters two texts have in common at the start. -/
def commonStart : Text → Text → Nat
  | a :: as, b :: bs => if a = b then commonStart as bs + 1 else 0
  | _, _ => 0

/-- Blanks from a column on, so many columns wide, with tabs if they may be used. -/
def spacing (tabs : Bool) (column width : Nat) : Text :=
  let target := column + width
  let stop := target / 8 * 8
  if tabs && column + 1 < stop then
    List.replicate ((stop - column + 7) / 8) '\t' ++ List.replicate (target - stop) ' '
  else List.replicate width ' '

namespace Filling

/-- A line as it is read. -/
def line (f : Filling) (ended : Bool) (t : Text) : SourceLine :=
  let (column, rest, tabs) := afterBlanks 0 t
  if f.mark.isEmpty then ⟨min f.lead column, column, rest, ended, tabs⟩
  else
    let n := commonStart f.mark rest
    if n < f.mark.length then ⟨column, column + n, rest.drop n, ended, tabs⟩
    else
      let (after, rest, more) := afterBlanks (column + n) (rest.drop n)
      ⟨column, after, rest, ended, tabs || more⟩

/-- The lines of a text; the last one has no newline. -/
def sourceLines (f : Filling) (t : Text) : List SourceLine :=
  let pieces := Text.split '\n' t
  pieces.zipIdx.map fun (p, i) => f.line (i + 1 < pieces.length) p

/-- Does the line belong to a paragraph? -/
def isFilled (f : Filling) (l : SourceLine) : Bool :=
  !l.body.isEmpty && f.lead ≤ l.lead && l.lead + f.markWidth ≤ l.column

/-- A line that is written as it was read. -/
def copied (f : Filling) (tabs : Bool) (l : SourceLine) : Text :=
  let before : Text :=
    if l.lead < l.column || !l.body.isEmpty then
      let indent := spacing tabs 0 l.lead
      let mark := f.mark.take (l.column - l.lead)
      let out := l.lead + mark.length
      indent ++ mark ++ (if l.body.isEmpty then [] else spacing tabs out (l.column - out))
        ++ (if l.body.isEmpty && !l.ended && l.lead + f.mark.length ≤ l.column then ['\n'] else [])
    else []
  before ++ l.body ++ (if l.ended then ['\n'] else [])

/-- Is the character a blank of any kind? -/
def isSpace (c : Char) : Bool := c = ' ' || ('\t' ≤ c && c ≤ '\r')

/-- The words of a line from a column on. -/
def words (f : Filling) : Nat → Nat → Text → List Word
  | 0, _, _ => []
  | _, _, [] => []
  | fuel + 1, column, c :: cs =>
    let text := c :: cs.takeWhile (!isSpace ·)
    let column := column + text.length
    let (next, rest, tabs) := afterBlanks column (cs.drop (text.length - 1))
    let plain : Word := ⟨text, next - column, false, tabs⟩
    let final := rest.isEmpty && plain.stops || plain.stops && 1 < plain.space
    let space := if rest.isEmpty || f.uniform then if final then 2 else 1 else plain.space
    { plain with
      space := space
      final := final } :: words f fuel next rest

/-- The words of lines; the last one ends a sentence if nothing comes after it. -/
def wordsOf (f : Filling) (ls : List SourceLine) : List Word :=
  ls.flatMap fun l =>
    let ws := f.words (l.body.length + 1) l.column l.body
    if l.ended then ws
    else ws.dropLast ++ (ws.getLast?.map fun w => { w with
      space := 2
      final := true }).toList

/-! ### Costs -/

/-- What a line costs that is so much shorter or longer than it should be. -/
def shortCost (n : Int) : Int := 100 * n * n

/-- What two lines cost whose lengths differ by so much. -/
def raggedCost (n : Int) : Int := shortCost n / 2

/-- What it costs to start a line with a word, after the words before it, the latest first. -/
def startCost (before : List Word) (w : Word) : Int :=
  let ending : Int := match before with
    | [] => 0
    | p :: rest =>
      if p.stops then if p.final then -2500 else 360000
      else if p.isMarked then -1600
      else if rest.head?.any (·.final) then 40000 / (p.text.length + 2)
      else 0
  let starting : Int :=
    if w.opens then -1600 else if w.final then 22500 / (w.text.length + 2) else 0
  4900 + ending + starting

/-- The best way to go on from a word that starts a line. -/
structure Onward where
  /-- The word. -/
  word : Word
  /-- What this line and those after it cost. -/
  cost : Int
  /-- How many words are on the line. -/
  count : Nat
  /-- How long it is. -/
  length : Nat
  /-- Is it the last line? -/
  isLast : Bool

/-- What a line of some length costs before the words that follow, with all lines after it. -/
def lineCost (f : Filling) (length : Nat) : List Onward → Int
  | [] => 0
  | o :: _ =>
    shortCost ((f.goal : Int) - length) + (if o.isLast then 0 else raggedCost ((length : Int) - o.length)) + o.cost

/-- The best line with at least so many words: its cost, its number of words, its length, and whether it is the
last. -/
def bestLine (f : Filling) (count length space : Nat) :
    List Onward → Option (Int × Nat × Nat × Bool) → Option (Int × Nat × Nat × Bool)
  | rest, best =>
    let cost := f.lineCost length rest
    let best := if best.all fun b => cost < b.1 then some (cost, count, length, rest.isEmpty) else best
    match rest with
    | [] => best
    | o :: rest =>
      let length := length + space + o.word.text.length
      if length < f.width then bestLine f (count + 1) length o.word.space rest best else best

/-- The best ways to go on from each of the words, which follow others, the latest first. -/
def onwards (f : Filling) (first other : Nat) : List Word → List Word → List Onward
  | _, [] => []
  | before, w :: ws =>
    let later := onwards f first other (w :: before) ws
    let indent := if before.isEmpty then first else other
    match f.bestLine 1 (indent + w.text.length) w.space later none with
    | none => later
    | some (cost, count, length, isLast) =>
      ⟨w, cost + startCost before w, count, length, isLast⟩ :: later

/-! ### Writing -/

/-- A line of words with blanks between them. -/
def laidOut (tabs : Bool) : Nat → List Word → Text
  | _, [] => []
  | _, [w] => w.text
  | column, w :: ws =>
    let column := column + w.text.length
    w.text ++ spacing tabs column w.space ++ laidOut tabs (column + w.space) ws

/-- The lines of a paragraph. -/
def laidLines (f : Filling) (tabs : Bool) (lead first other : Nat) : Nat → List Onward → Text
  | 0, _ => []
  | _, [] => []
  | fuel + 1, o :: os =>
    let start := lead + f.mark.length
    spacing tabs 0 lead ++ f.mark ++ spacing tabs start (first - start)
      ++ laidOut tabs (max start first) ((o :: os).take o.count |>.map (·.word)) ++ ['\n']
      ++ laidLines f tabs lead other other fuel ((o :: os).drop o.count)

/-- How many of the lines belong to a paragraph that starts with a line, and the indentation of its other lines, given
that of the paragraph before it. -/
def extent (f : Filling) (before : Nat) (l : SourceLine) (ls : List SourceLine) : Nat × Nat :=
  let goesOn (m : SourceLine) : Bool := m.lead = l.lead && l.lead + f.markWidth ≤ m.column && !m.body.isEmpty
  let next := ls.head?.filter goesOn
  let upTo (indent : Nat) : Nat := (ls.takeWhile fun m => goesOn m && m.column = indent).length
  if f.splits then (0, l.column)
  else if f.crown then
    let other := (next.map (·.column)).getD l.column
    (if next.isSome then 1 + ((ls.drop 1).takeWhile fun m => goesOn m && m.column = other).length else 0, other)
  else if f.tagged then
    match next.filter fun m => m.column ≠ l.column with
    | some m => (1 + ((ls.drop 1).takeWhile fun k => goesOn k && k.column = m.column).length, m.column)
    | none =>
      let other := if before = l.column then if l.column = 0 then 3 else 0 else before
      (0, other)
  else (upTo l.column, l.column)

/-- Lines with their paragraphs filled, given whether there were tabs before and how the last paragraph was
indented. -/
def fillLines (f : Filling) : Nat → Bool → Nat → List SourceLine → Text
  | 0, _, _, _ => []
  | _, _, _, [] => []
  | fuel + 1, tabs, before, l :: ls =>
    let tabs := tabs || l.tabs
    if !f.isFilled l then f.copied tabs l ++ fillLines f fuel tabs before ls
    else
      let (count, other) := f.extent before l ls
      let ws := f.wordsOf (l :: ls.take count)
      let tabs := tabs || (ls.take (count + 1)).any (·.tabs) || ws.any (·.tabs)
      let ws := ws.dropLast ++ (ws.getLast?.map fun w => { w with final := true }).toList
      f.laidLines tabs l.lead l.column other (ws.length + 1) (f.onwards l.column other [] ws)
        ++ fillLines f fuel tabs other (ls.drop count)

/-- A text with its paragraphs filled. -/
def apply (f : Filling) (t : Text) : Text :=
  let ls := f.sourceLines t
  f.fillLines (ls.length + 1) false 0 ls

end Filling

/-! ### The program -/

/-- The width that an option has. -/
def fillWidth (most : Nat) (t : Text) : Act Nat := do
  match Text.toNat? (if t.head? = some '+' then t.drop 1 else t) with
  | some n =>
    if most < n then giveUp 1 ("invalid width: " ++ inQuotes t ++ ": Numerical result out of range") else return n
  | none => giveUp 1 ("invalid width: " ++ inQuotes t)

/-- Fill lines. -/
def fmt : Routine := fun ts => do
  let ts := match ts with
    | ('-' :: c :: cs) :: rest => if c.isDigit then ['-', 'w'] :: (c :: cs) :: rest else ts
    | ts => ts
  let digits : List Flag := "0123456789".toList.map fun c => ⟨some c, none, .none⟩
  let flags := [Flag.plain 'c' "crown-margin", .valued 'p' "prefix", .plain 's' "split-only", .plain 't' "tagged-paragraph",
    .plain 'u' "uniform-spacing", .valued 'w' "width", .valued 'g' "goal"] ++ digits
  let a ← arguments flags true 1 ts
  match (a.options.map (·.1)).find? fun k => k.all Char.isDigit with
  | some k => do
    grumble ("invalid option -- " ++ k ++ "; -WIDTH is recognized only when it is the first\n"
      ++ "option; use -w N instead")
    seeHelp 1
  | none => pure ()
  let given := a.value? "g"
  let width ← match a.value? "w" with
    | some t => fillWidth 2500 t
    | none => pure 75
  let (width, goal) : Nat × Nat ← match given with
    | some t => do
      let goal ← fillWidth width t
      pure (if a.has "w" then width else goal + 10, goal)
    | none => pure (width, width * 187 / 200)
  let pattern := (a.value? "p").getD []
  let full := pattern.dropWhile (· = ' ')
  let f : Filling := {
    crown := a.has "c"
    tagged := a.has "t"
    splits := a.has "s"
    uniform := a.has "u"
    lead := pattern.length - full.length
    mark := (full.reverse.dropWhile (· = ' ')).reverse
    markWidth := full.length
    width := width
    goal := goal }
  forEach (fun path => do
    match ← contentOf path with
    | .ok t => do
      say (f.apply t)
      return 0
    | .error e => do
      if (← get).isDir path then grumble "read error"
      else grumble ("cannot open " ++ inShellQuotes path ++ " for reading: " ++ e)
      return 1) (orInput a.operands)

end Rollout.Program
