import Rollout.Machine.Program.Paths
import Rollout.Machine.Regex.Parser
import Rollout.Machine.Regex.Rich

/-!
Finding the lines of files that match expressions. A line is selected if one of the expressions matches in it, or,
if that is wanted, if none does; what is written of selected lines, and of lines near them, depends on options.
-/

namespace Rollout.Program

open Unix

/-! ### What is looked for -/

/-- Where in a line a match may lie. -/
inductive Reach
  /-- Anywhere. -/
  | anywhere
  /-- Where no part of a word stands before it or after it. -/
  | word
  /-- It is the whole line. -/
  | line

/-- What lines are looked for. -/
structure Query where
  /-- The expressions. -/
  expressions : List Regex.Compiled
  /-- Where they may match. -/
  reach : Reach
  /-- Are the lines wanted in which nothing matches? -/
  inverted : Bool

namespace Query

/-- Does a match lie where it may? -/
def accepts (q : Query) (s : Regex.Spot) (m : Regex.Match) : Bool :=
  match q.reach with
  | .anywhere => true
  | .word => !s.afterWord && !(s.skip m.text.length).beforeWord
  | .line => s.pos = 0 && m.text.length = s.rest.length

/-- The match that starts first, and of those the longest. -/
def better (a b : Option Regex.Match) : Option Regex.Match :=
  match a, b with
  | some m, some n => if n.start < m.start || (n.start = m.start && m.text.length < n.text.length) then b else a
  | none, b => b
  | a, none => a

/-- The best match in a line that starts after so many characters or later. -/
def first? (q : Query) (line : Text) (after : Nat) : Option Regex.Match :=
  q.expressions.foldl (fun found c =>
    better found (Regex.searchFrom c.mode c.regex q.accepts (line.length + 2) (Regex.spotAt line after))) none

/-- The matches in a line, one after another, that are not empty. -/
def all (q : Query) (line : Text) : Nat → Nat → List Regex.Match
  | 0, _ => []
  | fuel + 1, after => match q.first? line after with
    | none => []
    | some m =>
      if m.text = [] then (if m.start < line.length then all q line fuel (m.start + 1) else [])
      else m :: all q line fuel (m.start + m.text.length)

/-- Is the line wanted? -/
def selects (q : Query) (line : Text) : Bool := (q.first? line 0).isSome != q.inverted

end Query

/-! ### What is written -/

/-- What is written about a file. -/
inductive MatchReport
  /-- Its selected lines. -/
  | lines
  /-- How many they are. -/
  | count
  /-- Its name, if there are any. -/
  | matching
  /-- Its name, if there are none. -/
  | other
  /-- Nothing. -/
  | quiet
  deriving DecidableEq

/-- The colours of what is written, as they are set; where one is empty, there is none. -/
structure Palette where
  /-- That of matches in selected lines. -/
  inSelected : Text
  /-- That of matches in other lines. -/
  inContext : Text
  /-- That of selected lines. -/
  selected : Text
  /-- That of other lines. -/
  context : Text
  /-- That of names. -/
  name : Text
  /-- That of numbers of lines. -/
  number : Text
  /-- That of numbers of characters. -/
  offset : Text
  /-- That of marks between them. -/
  mark : Text
  /-- Are the colours of lines exchanged where those are wanted in which nothing matches? -/
  turned : Bool
  /-- Is the rest of the line left as it is? -/
  short : Bool

namespace Palette

/-- The usual colours. -/
def usual : Palette where
  inSelected := "01;31"
  inContext := "01;31"
  selected := []
  context := []
  name := "35"
  number := "32"
  offset := "32"
  mark := "36"
  turned := false
  short := false

/-- The start of a colour. -/
def start (p : Palette) (color : Text) : Text :=
  if color = [] then [] else "\x1b[" ++ color ++ if p.short then ['m'] else "m\x1b[K"

/-- The end of a colour. -/
def stop (p : Palette) (color : Text) : Text :=
  if color = [] then [] else if p.short then "\x1b[m" else "\x1b[m\x1b[K"

/-- A text in a colour. -/
def paint (p : Palette) (color t : Text) : Text := p.start color ++ t ++ p.stop color

/-- The colours after a change, whose name and value are given; what is unknown changes nothing. -/
def changed (p : Palette) (key value : Text) : Palette :=
  match String.ofList key with
  | "mt" => { p with
    inSelected := value
    inContext := value }
  | "ms" => { p with inSelected := value }
  | "mc" => { p with inContext := value }
  | "sl" => { p with selected := value }
  | "cx" => { p with context := value }
  | "fn" => { p with name := value }
  | "ln" => { p with number := value }
  | "bn" => { p with offset := value }
  | "se" => { p with mark := value }
  | "rv" => { p with turned := true }
  | "ne" => { p with short := true }
  | _ => p

/-- The colours after changes; a value that is no colour ends them. -/
def afterChanges (p : Palette) : List Text → Palette
  | [] => p
  | t :: ts =>
    let key := t.takeWhile (· ≠ '=')
    let value := t.drop (key.length + 1)
    if value.all fun c => c.isDigit || c = ';' then (p.changed key value).afterChanges ts else p

end Palette

/-- How it is written. -/
structure Report where
  /-- What is written about a file. -/
  style : MatchReport
  /-- Are the names of files written? -/
  names : Bool
  /-- Are the numbers of lines written? -/
  numbers : Bool
  /-- Is it written how many characters stand before a line? -/
  offsets : Bool
  /-- Are only matches written? -/
  onlyMatches : Bool
  /-- The colours, if there are any. -/
  colors : Option Palette
  /-- Does a tab stand in front of lines? -/
  tabbed : Bool
  /-- Does a null character stand after names? -/
  nulls : Bool
  /-- How many lines are written before a selected one. -/
  before : Option Nat
  /-- How many lines are written after a selected one. -/
  after : Option Nat
  /-- What is written between lines that are not neighbours. -/
  separator : Option Text
  /-- The character that ends lines. -/
  stop : Char
  /-- How many lines are selected in a file at most. -/
  most : Option Nat

/-- A line of a file. -/
structure Line where
  /-- Its number, from 1 on. -/
  number : Nat
  /-- How many characters stand before it. -/
  offset : Nat
  /-- The line. -/
  text : Text
  /-- Is it selected? -/
  selected : Bool

namespace Report

/-- A text in one of the colours. -/
def paint (r : Report) (color : Palette → Text) (t : Text) : Text :=
  match r.colors with
  | some p => p.paint (color p) t
  | none => t

/-- The name of a file in front of something. -/
def title (r : Report) (name : Text) (mark : Char) : Text :=
  if r.names then r.paint (·.name) name ++ (if r.nulls then ['\x00'] else r.paint (·.mark) [mark]) else []

/-- What stands in front of a line, or of a match in it, where numbers have a least width. -/
def label (r : Report) (width : Nat) (name : Text) (l : Line) (before : Nat) (t : Text) : Text :=
  let mark := if l.selected then ':' else '-'
  let part (on : Bool) (color : Palette → Text) (n : Nat) : Text :=
    if on then r.paint color (padLeft width (Text.ofNat n)) ++ r.paint (·.mark) [mark] else []
  r.title name mark ++ part r.numbers (·.number) l.number ++ part r.offsets (·.offset) (l.offset + before)
    ++ (if r.tabbed && (r.names || r.numbers || r.offsets) && t ≠ [] then ['\t'] else [])

/-- A text with the matches in it in a colour, and the rest in another one. -/
def highlighted (p : Palette) (color lineColor t : Text) : Nat → List Regex.Match → Text
  | after, [] =>
    let left := t.drop after
    let returned : Text := if left.getLast? = some '\r' then ['\r'] else []
    let left := left.take (left.length - returned.length)
    (if left = [] then [] else p.paint lineColor left) ++ returned
  | after, m :: ms =>
    p.start lineColor ++ (t.drop after).take (m.start - after) ++ p.paint color m.text
      ++ highlighted p color lineColor t m.finish ms

/-- What is written of a line. -/
def shown (r : Report) (q : Query) (width : Nat) (name : Text) (l : Line) : Text :=
  let matched := l.selected != q.inverted
  let found : Unit → List Regex.Match := fun _ => if matched then q.all l.text (l.text.length + 2) 0 else []
  let color (p : Palette) : Text := if l.selected then p.inSelected else p.inContext
  if r.onlyMatches then
    (found ()).flatMap fun m => r.label width name l m.start m.text ++ r.paint color m.text ++ [r.stop]
  else
    let body := match r.colors with
      | some p =>
        let lineColor := if l.selected != (q.inverted && p.turned) then p.selected else p.context
        highlighted p (color p) lineColor l.text 0 (if color p = [] then [] else found ())
      | none => l.text
    r.label width name l 0 l.text ++ body ++ [r.stop]

/-- Is something written of the lines near selected ones? -/
def hasContext (r : Report) : Bool := r.before.isSome || r.after.isSome

/-- The selected lines with the lines near them. -/
def near (r : Report) (ls : List Line) : List Line :=
  let marked := (ls.filter (·.selected)).map (·.number)
  ls.filter fun l => marked.any fun n => l.number ≤ n + r.after.getD 0 && n ≤ l.number + r.before.getD 0

/-- What is written of lines; tells what was the number of the line before them, and whether something has been
written of other files. -/
def body (r : Report) (q : Query) (width : Nat) (name : Text) : Nat → Bool → List Line → Text
  | _, _, [] => []
  | last, used, l :: ls =>
    (match r.separator with
      | some t =>
        if r.hasContext && used && l.number ≠ last + 1 then r.paint (·.mark) t ++ ['\n'] else []
      | none => [])
      ++ r.shown q width name l ++ body r q width name l.number true ls

end Report

/-- The lines of a text, of which only so many are selected. -/
def selectLines (q : Query) (stop : Char) : Nat → Nat → Option Nat → List Text → List Line
  | _, _, _, [] => []
  | number, offset, left, t :: ts =>
    let line := withoutEnd stop t
    let selected := left ≠ some 0 && q.selects line
    ⟨number, offset, line, selected⟩
      :: selectLines q stop (number + 1) (offset + t.length) (if selected then left.map (· - 1) else left) ts

/-- What has come out of the search so far. -/
structure Outcome where
  /-- Has a line been selected? -/
  found : Bool
  /-- Was there something that could not be read? -/
  failed : Bool
  /-- Has something been written about a line? -/
  used : Bool

/-- Search a text that has a name. -/
def searchText (q : Query) (r : Report) (asText : Bool) (width : Nat) (name t : Text) (o : Outcome) : Act Outcome := do
  let isBinary := !asText && r.stop = '\n' && t.contains '\x00'
  let t := if isBinary then t.map fun c => if c = '\x00' then '\n' else c else t
  let ls := selectLines q r.stop 1 0 r.most (piecesEndingWith r.stop t)
  let count := (ls.filter (·.selected)).length
  let found := count ≠ 0
  match r.style with
  | .quiet => if found then throw (.exited 0)
  | .count => say (r.title name ':' ++ Text.ofNat count ++ ['\n'])
  | .matching => if found then say (r.paint (·.name) name ++ [if r.nulls then '\x00' else '\n'])
  | .other => if !found then say (r.paint (·.name) name ++ [if r.nulls then '\x00' else '\n'])
  | .lines =>
    if !isBinary then say (r.body q width name 0 o.used (r.near ls))
    else if found then grumble (name ++ ": binary file matches")
  return { o with found := o.found || found, used := o.used || (found && !isBinary) }

/-! ### Files -/

/-- What is done with directories. -/
inductive DirAction
  | read | skip | recurse
  deriving DecidableEq

/-- Which files are searched. -/
structure Selection where
  /-- What is done with directories. -/
  action : DirAction
  /-- Are links in directories followed? -/
  follows : Bool
  /-- Is nothing said about files that cannot be read? -/
  silent : Bool
  /-- The patterns for names of files that are searched or are not. -/
  rules : List (Bool × Shell.Pattern)
  /-- The patterns for names of directories that are not searched. -/
  barred : List Shell.Pattern
  /-- Are files that are no text searched as if they were? -/
  asText : Bool
  /-- Are files that are no text skipped? -/
  textOnly : Bool
  /-- The name of the standard input. -/
  inputName : Text
  /-- Are the names of files in directories written? -/
  named : Bool

/-- The last name on a path. -/
def lastName (path : Text) : Text :=
  let t := (path.reverse.dropWhile (· = '/')).reverse
  ((Text.split '/' t).getLast?).getD t

namespace Selection

/-- Is a file of this name searched? Of the rules for it the last one counts. -/
def keeps (s : Selection) (path : Text) : Bool :=
  let covers (p : Shell.Pattern) : Bool := p.covers (lastName path) || p.covers path
  match s.rules.reverse.find? fun rule => covers rule.2 with
  | some (wanted, _) => wanted
  | none => match s.rules.head? with
    | some (wanted, _) => !wanted
    | none => true

/-- Is a directory of this name searched? -/
def enters (s : Selection) (path : Text) : Bool := !s.barred.any fun p => p.covers (lastName path)

end Selection

/-- A name in a directory that has a path; without a path the name stands for itself. -/
def pathInside (path name : Text) : Text :=
  if path = [] then name else if path.getLast? = some '/' then path ++ name else path ++ '/' :: name

/-- The paths of the files in a directory and below it. -/
def filesBelow (s : Selection) (root : FileTree) : Nat → Text → List Text → List Text
  | 0, _, _ => []
  | fuel + 1, path, place => match root.at? place with
    | some (.dir entries _) => entries.flatMap fun (name, t) =>
      let inner := pathInside path name
      let (place, t) := match t with
        | .link .. => if !s.follows then (place, default) else match root.locate place name with
          | .ok place => (place, (root.at? place).getD default)
          | .error _ => (place, default)
        | t => (place ++ [name], t)
      match t with
      | .dir .. => if s.enters name then filesBelow s root fuel inner place else []
      | .file .. => if s.keeps name then [inner] else []
      | _ => []
    | _ => []

/-- How deep directories are searched. -/
def maxSearchDepth : Nat := 100

/-- Tell that something cannot be searched. -/
def cannotSearch (s : Selection) (name reason : Text) (o : Outcome) : Act Outcome := do
  if !s.silent then grumble (name ++ ": " ++ reason)
  return { o with failed := true }

/-- The greatest size that a file may have. -/
def greatestSize : Nat := 9223372036854775807

/-- The size of the file that is read, if it has one. -/
def inputSize? (p : Process) (path : Text) : Option Nat :=
  let tree := if path ≠ ['-'] then p.find? path else match p.descriptors.lookup 0 with
    | some (.file i) => (p.handles[i]?).bind p.opened?
    | _ => none
  (tree.bind FileTree.data?).map List.length

/-- Search what a path leads to. -/
def searchPath (q : Query) (r : Report) (s : Selection) (path : Text) (o : Outcome) : Act Outcome := do
  let p ← get
  let name := if path = ['-'] then s.inputName else path
  let isOutput := match p.descriptors.lookup 1, p.root.locate p.cwd path with
    | some (.file i), .ok place => path ≠ ['-'] && (p.handles[i]?).any fun h =>
      some h.node = (p.root.at? place).map (·.about.node)
    | _, _ => false
  let size := match inputSize? p path with
    | some n => if r.numbers then n + 1 else n
    | none => greatestSize
  let width := if r.tabbed then (Text.ofNat size).length else 0
  if isOutput && r.style = .lines && r.most ≠ some 1 then cannotSearch s name "input file is also the output" o
  else match ← contentOf path with
    | .error e => cannotSearch s name e o
    | .ok t => if s.textOnly && t.contains '\x00' then return o else searchText q r s.asText width name t o

/-- Search files and directories. -/
def searchAll (q : Query) (s : Selection) : Report → List Text → Outcome → Act Outcome
  | _, [], o => return o
  | r, path :: paths, o => do
    let p ← get
    let place := p.root.locate p.cwd (if path = [] then ['.'] else path)
    let isDir := match place with
      | .ok place => ((p.root.at? place).map (·.isDir)).getD false
      | .error _ => false
    if path ≠ ['-'] && isDir && s.action = .recurse then do
      let below := match place with
        | .ok place => if path = [] || s.enters path then filesBelow s p.root maxSearchDepth path place else []
        | .error _ => []
      let named := { r with names := s.named || r.names }
      let o ← below.foldlM (fun o inner => searchPath q named s inner o) o
      searchAll q s named paths o
    else if (isDir && s.action = .skip) || (!isDir && path ≠ ['-'] && !s.keeps path) then searchAll q s r paths o
    else searchAll q s r paths (← searchPath q r s path o)

/-! ### The program -/

/-- The options of `grep`. -/
def grepFlags : List Flag :=
  ([.plain 'E' "extended-regexp", .plain 'F' "fixed-strings", .plain 'G' "basic-regexp", .plain 'P' "perl-regexp",
    .valued 'e' "regexp", .valued 'f' "file", .plain 'i' "ignore-case", .plain 'y' "", .wordOnly "no-ignore-case",
    .plain 'v' "invert-match", .plain 'w' "word-regexp", .plain 'x' "line-regexp", .plain 'c' "count",
    ⟨none, some "color".toList, .optional⟩, ⟨none, some "colour".toList, .optional⟩,
    .plain 'l' "files-with-matches", .plain 'L' "files-without-match", .plain 'q' "quiet", .wordOnly "silent",
    .plain 's' "no-messages", .plain 'o' "only-matching", .plain 'n' "line-number", .plain 'b' "byte-offset",
    .plain 'H' "with-filename", .plain 'h' "no-filename", .plain 'Z' "null", .plain 'z' "null-data",
    .plain 'r' "recursive", .plain 'R' "dereference-recursive", .plain 'a' "text", .plain 'U' "binary",
    .plain 'I' "", .valuedWord "binary-files", .valuedWord "include", .valuedWord "exclude",
    .valuedWord "exclude-dir", .valuedWord "exclude-from", .valued 'A' "after-context",
    .valued 'B' "before-context", .valued 'C' "context", .valued 'm' "max-count", .valuedWord "label",
    .wordOnly "line-buffered", .plain 'T' "initial-tab", .valued 'd' "directories", .valued 'D' "devices",
    .valuedWord "group-separator", .wordOnly "no-group-separator"] : List Flag) ++ Flag.letters "0123456789"

/-- How the program is used. -/
def grepUsage : Text := "Usage: grep [OPTION]... PATTERNS [FILE]...\nTry 'grep --help' for more information."

/-- End because of arguments that make no sense. -/
def grepMisused {α : Type} (complaint : Option Text) : Act α := do
  match complaint with
  | some t => grumble t
  | none => pure ()
  complain grepUsage
  throw (.exited 2)

/-- The extended form in which an operator that repeats nothing means nothing. -/
def searchGrammar : Regex.Grammar := { Regex.extended with lonely := .skipped, loneClose := true, looseBrace := true }

/-- Does the text hold a class of characters that lacks its outer brackets? -/
def hasBareClass : Text → Bool
  | '\\' :: _ :: cs => hasBareClass cs
  | '[' :: cs =>
    let rest := if cs.head? = some '^' then cs.drop 1 else cs
    let name := rest.takeWhile (· ≠ ']')
    (rest.contains ']' && name.head? = some ':' && name.getLast? = some ':' && name.any (· ≠ ':')
      && !name.contains '[') || hasBareClass (if name.head? = some '[' then [] else rest.drop name.length)
  | _ :: cs => hasBareClass cs
  | [] => false
  termination_by t => t.length
  decreasing_by
    · exact Nat.lt_succ_of_lt (Nat.lt_succ_self _)
    · have hrest : rest.length ≤ cs.length := by
        unfold rest
        split
        · exact (List.drop_sublist 1 cs).length_le
        · exact Nat.le_refl _
      have hleft : (if name.head? = some '[' then [] else rest.drop name.length).length ≤ rest.length := by
        split
        · exact Nat.zero_le _
        · exact (List.drop_sublist ..).length_le
      exact Nat.lt_succ_of_le (Nat.le_trans hleft hrest)
    · exact Nat.lt_succ_self _

/-- The expressions that patterns are. -/
def expressionsOf (kind : Char) (fold : Bool) (patterns : List Text) : Act (List Regex.Compiled) := do
  if kind = 'P' then match patterns with
    | [t] => match Regex.Rich.compile ⟨fold, false, false, false⟩ t with
      | .ok (c, _) => return [c]
      | .error e => giveUp 2 e
    | _ => giveUp 2 "the -P option only supports a single pattern"
  let read (t : Text) : Except Regex.Fault (Regex × List Char) := match kind with
    | 'F' => .ok (t.foldr (fun c r => .seq (.char (.only c)) r) .empty, [])
    | 'E' => Regex.parse searchGrammar t
    | _ => Regex.parse Regex.basic t
  let readings := patterns.map read
  let faults := readings.filterMap fun
    | .error e => some e
    | .ok _ => none
  faults.forM fun e => grumble e.message
  if faults ≠ [] then throw (.exited 2)
  if kind ≠ 'F' && patterns.any hasBareClass then
    giveUp 2 "character class syntax is [[:space:]], not [:space:]"
  let parsed := readings.filterMap Except.toOption
  (parsed.flatMap (·.2)).forM fun c =>
    let operator : Text := if c = '\x7b' then "\x7b...\x7d" else [c]
    grumble ("warning: " ++ operator ++ " at start of expression")
  return parsed.map fun (r, _) => ⟨r, ⟨fold, false, r.hasBack, true⟩⟩

/-- The patterns that options give, and the other operands. -/
def patternsOf (a : Arguments) : Act (List Text × List Text) := do
  let given := a.options.filter fun o => o.1 = ['e'] || o.1 = ['f']
  if given = [] then match a.operands with
    | [] => grepMisused none
    | t :: rest => return (Text.split '\n' t, rest)
  else do
    let lists ← given.mapM fun (key, v) => do
      if key = ['e'] then return Text.split '\n' v
      else match ← contentOf v with
        | .ok t => return linesOf t
        | .error e => giveUp 2 (v ++ ": " ++ e)
    return (lists.flatten, a.operands)

/-- The number of lines near selected ones that an option asks for. -/
def contextOf (a : Arguments) (key : String) : Act (Option Nat) := do
  let digits := a.options.filterMap fun o => if o.1.all Char.isDigit then some o.1 else none
  let common := (Text.toNat? digits.flatten).or ((a.value? "C").bind Text.toNat?)
  match a.options.find? fun o => (o.1 = key.toList || o.1 = ['C']) && (Text.toNat? o.2).isNone with
  | some (_, v) => giveUp 2 (v ++ ": invalid context length argument")
  | none => return ((a.value? key).bind Text.toNat?).or common

/-- The colours that the environment sets. -/
def paletteOf : Act Palette := do
  let p ← get
  let old := (p.env.get? "GREP_COLOR").getD []
  let isColor := old.dropWhile (· = ';') ≠ [] && old.all fun c => c.isDigit || c = ';'
  let base := if isColor then { Palette.usual with
      inSelected := old
      inContext := old } else .usual
  if isColor then
    grumble ("warning: GREP_COLOR='" ++ old ++ "' is deprecated; use GREP_COLORS='mt=" ++ old ++ "'")
  match p.env.get? "GREP_COLORS" with
  | some t => return if t = [] then base else base.afterChanges (Text.split ':' t)
  | none => return base

/-- How the results of a search are written. -/
def reportOf (a : Arguments) (files : Nat) : Act Report := do
  let most ← match a.value? "m" with
    | none => pure none
    | some ('-' :: v) => if (Text.toNat? v).isSome then pure none else giveUp 2 "invalid max count"
    | some v => match Text.toNat? v with
      | some n => pure (some n)
      | none => giveUp 2 "invalid max count"
  let color := ((a.value? "color").or (a.value? "colour")).getD []
  let after ← contextOf a "A"
  let before ← contextOf a "B"
  return {
    style := if a.has "q" || a.has "silent" then .quiet else match a.last? ["l", "L"] with
      | some ['l'] => .matching
      | some _ => .other
      | none => if a.has "c" then .count else .lines
    names := match a.last? ["H", "h"] with
      | some ['H'] => true
      | some _ => false
      | none => 1 < files
    numbers := a.has "n"
    offsets := a.has "b"
    onlyMatches := a.has "o"
    colors := ← if ["always", "yes", "force"].contains (String.ofList color) then some <$> paletteOf else pure none
    tabbed := a.has "T"
    nulls := a.has "Z"
    before := before
    after := after
    separator := match a.last? ["group-separator", "no-group-separator"] with
      | some t => if t = "group-separator".toList then a.value? "group-separator" else none
      | none => some "--"
    stop := if a.has "z" then '\x00' else '\n'
    most := most }

/-- Which files a search covers. -/
def selectionOf (a : Arguments) : Act Selection := do
  let action ← match (a.value? "d").map String.ofList with
    | none => pure none
    | some "read" => pure (some .read)
    | some "skip" => pure (some .skip)
    | some "recurse" => pure (some .recurse)
    | some t => do
      grumble ("invalid argument '" ++ t.toList ++ "' for '--directories'")
      complain "Valid arguments are:\n  - 'read'\n  - 'recurse'\n  - 'skip'"
      complain grepUsage
      throw (.exited 1)
  let kind := ((a.value? "binary-files").map String.ofList).getD "binary"
  if !(["binary", "text", "without-match"].contains kind) then giveUp 2 "unknown binary-files type"
  return {
    action := if a.has "r" || a.has "R" then .recurse else action.getD .read
    follows := a.has "R"
    silent := a.has "s"
    rules := a.options.filterMap fun (key, v) =>
      if key = "include".toList then some (true, namePattern v)
      else if key = "exclude".toList then some (false, namePattern v) else none
    barred := (a.values "exclude-dir").map fun v =>
      namePattern (if v.getLast? = some '/' then v.dropLast else v)
    asText := a.has "a" || kind = "text"
    textOnly := a.has "I" || kind = "without-match"
    inputName := (a.value? "label").getD "(standard input)"
    named := a.last? ["H", "h"] ≠ some ['h'] }

/-- Write the lines of files that match. -/
def grep (kind : Option Char) : Routine := fun ts => do
  modify fun p => { p with name := "grep" }
  let ts := match kind with
    | some c => ['-', c] :: ts
    | none => ts
  let a ← match ← givenArguments grepFlags true ts with
    | .ok a => pure a
    | .error e => grepMisused (some e)
  let kinds := a.options.filterMap fun o =>
    if ["E", "F", "G", "P"].contains (String.ofList o.1) then o.1.head? else none
  let kind := kinds.head?.getD 'G'
  if kinds.any (· ≠ kind) then giveUp 2 "conflicting matchers specified"
  let fold := match a.last? ["i", "y", "no-ignore-case"] with
    | some t => t.length = 1
    | none => false
  let s ← selectionOf a
  let (patterns, operands) ← patternsOf a
  let r ← reportOf a operands.length
  let expressions ← expressionsOf kind fold patterns
  let q : Query := {
    expressions := expressions
    reach := if a.has "x" then .line else if a.has "w" then .word else .anywhere
    inverted := a.has "v" }
  if r.most = some 0 then return 1
  let paths : List Text :=
    if operands ≠ [] then operands else if s.action = .recurse then [[]] else [['-']]
  let o ← searchAll q s r paths ⟨false, false, false⟩
  return if o.failed then 2 else if o.found then 0 else 1

end Rollout.Program
