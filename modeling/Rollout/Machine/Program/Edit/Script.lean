import Rollout.Machine.Regex.Parser
import Rollout.Machine.Unix.Process

/-!
Scripts that edit lines of text: steps of one letter each, which addresses select lines for. A script is read from
pieces, and a mistake in it is reported with its place in its piece.
-/

namespace Rollout.Program.Edit

open Unix

/-! ### Steps -/

/-- What lines an address selects. -/
inductive Address
  /-- The line with this number. -/
  | line (n : Nat)
  /-- A line, and after it one in so many. -/
  | every (first step : Nat)
  /-- The last line. -/
  | last
  /-- The lines in which an expression matches; without one, the expression that was used last. -/
  | matching (e : Option Regex.Compiled)

/-- Where a range of lines ends. -/
inductive RangeEnd
  /-- At a line that an address selects. -/
  | at (a : Address)
  /-- So many lines after its start. -/
  | after (n : Nat)
  /-- At the next line whose number is a multiple. -/
  | multiple (n : Nat)

/-- The lines for which a step is done. -/
structure Scope where
  /-- The address of the lines, or of the start of a range. -/
  start : Option Address
  /-- The end of a range. -/
  stop : Option RangeEnd
  /-- Is it done for the other lines? -/
  negated : Bool

/-- How the case of letters changes in a replacement. -/
inductive Casing
  | upper | lower | asIs | nextUpper | nextLower
  deriving DecidableEq

/-- A piece of a replacement. -/
inductive Piece
  /-- A text. -/
  | text (t : Text)
  /-- What a group has matched. -/
  | group (n : Nat)
  /-- From here on letters are changed. -/
  | casing (c : Casing)

/-- The replacement of matches by something else. -/
structure Replacing where
  /-- What is matched; without an expression, the one that was used last. -/
  expression : Option Regex.Compiled
  /-- What comes in its place. -/
  pieces : List Piece
  /-- The number of the first match that is replaced. -/
  first : Nat
  /-- Are the matches after it replaced, too? -/
  every : Bool
  /-- Is the result printed? -/
  prints : Bool
  /-- The file to which the result is written. -/
  file : Option Text

/-- On what a jump depends. -/
inductive Condition
  | always | changed | unchanged
  deriving DecidableEq

/-- What a step does. -/
inductive Deed
  | append (t : Text)
  | insert (t : Text)
  | change (t : Text)
  | jump (c : Condition) (label : Text)
  | delete
  | deleteLine
  | fileName
  | fetch
  | fetchMore
  | hold
  | holdMore
  | listing (width : Option Nat)
  | next
  | joinNext
  | print
  | printLine
  | quit (silent : Bool) (status : Nat)
  | readFile (path : Text)
  | readLine (path : Text)
  | replace (r : Replacing)
  | writeFile (path : Text)
  | writeLine (path : Text)
  | exchange
  | translate (pairs : List (Char × Char))
  | clear
  | number
  | blockStart
  | blockEnd

/-- A step. -/
structure Step where
  /-- The lines for which it is done. -/
  scope : Scope
  /-- What it does. -/
  deed : Deed

/-- A script. -/
structure Script where
  /-- Its steps. -/
  steps : Array Step
  /-- The numbers of the steps at which labels stand. -/
  labels : List (Text × Nat)
  /-- Is nothing printed that is not asked for? -/
  quiet : Bool

/-! ### Reading -/

/-- How a script is written. -/
structure Form where
  /-- Are expressions extended ones? -/
  extended : Bool
  /-- The places where pieces of the script are joined. -/
  joints : List Nat

/-- What is left of a script, and how many characters have been read. -/
structure Source where
  /-- The characters that are left. -/
  rest : Text
  /-- How many characters have been read. -/
  read : Nat

/-- A mistake in a script: after how many characters, and what is said. -/
structure Mistake where
  /-- After how many characters it was found. -/
  place : Nat
  /-- Is it a matter of the piece as a whole? -/
  whole : Bool
  /-- What is said. -/
  message : Text

/-- Reading a part of a script. -/
abbrev Reading := StateT Source (Except Mistake)

/-- A mistake here. -/
def wrong {α : Type} (message : Text) : Reading α := do throw ⟨(← get).read, false, message⟩

/-- The next character is read. -/
def nextChar : Reading (Option Char) := do
  let s ← get
  match s.rest with
  | [] => return none
  | c :: cs => do
    set (Source.mk cs (s.read + 1))
    return some c

/-- The next character, which is not read. -/
def peek : Reading (Option Char) := do return (← get).rest.head?

/-- Characters that pass a test are read. -/
def readWhile (p : Char → Bool) : Reading Text := do
  let s ← get
  let found := s.rest.takeWhile p
  set (Source.mk (s.rest.drop found.length) (s.read + found.length))
  return found

/-- Is it a blank inside a line? -/
def isGap (c : Char) : Bool := c = ' ' || c = '\t'

/-- The next character that is no blank is read. -/
def nextInLine : Reading (Option Char) := do
  let _ ← readWhile isGap
  nextChar

/-- Digits are read as a number. -/
def readNumber : Reading Nat := do return (Text.toNat? (← readWhile Char.isDigit)).getD 0

/-- The character that digits in a base denote, up to so many of them, and what follows. -/
def codeOf (base most : Nat) (t : Text) : Option (Char × Text) :=
  let value (c : Char) : Option Nat := ("0123456789abcdef".toList.idxOf? c.toLower).filter (· < base)
  let digits := (t.take most).takeWhile fun c => (value c).isSome
  if digits = [] then none
  else
    let n := digits.foldl (fun n c => n * base + (value c).getD 0) 0
    some (Char.ofNat (n % 256), t.drop digits.length)

/-- The character that a letter behind a backslash stands for, and what follows. -/
def escapeOf? (c : Char) (t : Text) : Option (Char × Text) :=
  match c, t with
  | 'a', t => some ('\x07', t)
  | 'f', t => some ('\x0c', t)
  | 'r', t => some ('\r', t)
  | 't', t => some ('\t', t)
  | 'v', t => some ('\x0b', t)
  | 'd', t => codeOf 10 3 t
  | 'o', t => codeOf 8 3 t
  | 'x', t => codeOf 16 2 t
  | 'c', e :: t => some (Char.ofNat (e.toUpper.toNat ^^^ 64), t)
  | _, _ => none

/-- The text with characters in place of the letters that stand for them; a backslash stays in front of those that a
test picks. -/
def unescaped (keeps : Char → Bool) : Nat → Text → Text
  | 0, t => t
  | fuel + 1, '\\' :: c :: cs => match escapeOf? c cs with
    | some (e, rest) => (if keeps e then ['\\', e] else [e]) ++ unescaped keeps fuel rest
    | none => '\\' :: c :: unescaped keeps fuel cs
  | fuel + 1, c :: cs => c :: unescaped keeps fuel cs
  | _, [] => []

/-! ### Delimited texts -/

/-- A set in brackets after the opening one, up to the closing one. -/
def bracketText (f : Nat) : Reading Text := do
  let leading ← match ← peek with
    | some '^' => readWhile (· = '^')
    | _ => pure []
  let leading := leading ++ (if (← peek) = some ']' then [']'] else [])
  if leading.getLast? = some ']' then let _ ← nextChar
  return leading ++ (← go f none)
where
  /-- The rest of it; in a name, up to the mark that ends the name. -/
  go : Nat → Option Char → Reading Text
    | 0, _ => return []
    | fuel + 1, mark => do
      match ← peek with
      | none => return []
      | some '\n' => return []
      | some c => do
        let _ ← nextChar
        let following ← peek
        match mark with
        | some m =>
          if c = m && following = some ']' then do
            let _ ← nextChar
            return c :: ']' :: (← go fuel none)
          else return c :: (← go fuel mark)
        | none =>
          if c = ']' then return [']']
          else match c, following with
            | '[', some '.' => do
              let _ ← nextChar
              return '[' :: '.' :: (← go fuel (some '.'))
            | '[', some ':' => do
              let _ ← nextChar
              return '[' :: ':' :: (← go fuel (some ':'))
            | '[', some '=' => do
              let _ ← nextChar
              return '[' :: '=' :: (← go fuel (some '='))
            | c, _ => return c :: (← go fuel none)

/-- The text up to a delimiter, which may be part of an expression; `none` if there is no delimiter. -/
def delimited (f : Form) (delimiter : Char) (isExpression : Bool) : Nat → Reading (Option Text)
  | 0 => return none
  | fuel + 1 => do
    match ← peek with
    | none => return none
    | some '\n' =>
      if isExpression then return none
      else do
        let _ ← nextChar
        return none
    | some c => do
      let _ ← nextChar
      let more (start : Text) : Reading (Option Text) := do
        return (← delimited f delimiter isExpression fuel).map (start ++ ·)
      if c = delimiter then return some []
      else if c = '\\' then
        let here := (← get).read
        match ← nextChar with
        | none => return none
        | some e =>
          if e = '\n' && f.joints.contains here then return none
          else if e = delimiter then more (if !isExpression && e = '&' then ['\\', '&'] else [e])
          else if e = 'n' && isExpression then more ['\n']
          else if e = '\n' then more ['\n']
          else more ['\\', e]
      else if c = '[' && isExpression then do
        let set ← bracketText ((← get).rest.length + 1)
        if set.getLast? = some ']' then more ('[' :: set) else return none
      else more [c]

/-- The set in brackets with a newline in place of the letter behind a backslash. -/
def bracketNewlines : Bool → Text → Text
  | false, '\\' :: c :: cs => '\\' :: c :: bracketNewlines false cs
  | false, '[' :: '^' :: ']' :: cs => '[' :: '^' :: ']' :: bracketNewlines true cs
  | false, '[' :: ']' :: cs => '[' :: ']' :: bracketNewlines true cs
  | false, '[' :: cs => '[' :: bracketNewlines true cs
  | true, '\\' :: 'n' :: cs => '\n' :: bracketNewlines true cs
  | true, ']' :: cs => ']' :: bracketNewlines false cs
  | inside, c :: cs => c :: bracketNewlines inside cs
  | _, [] => []

/-- How expressions of a script are written. -/
def grammarOf (f : Form) : Regex.Grammar :=
  if f.extended then { Regex.extended with loneClose := false } else { Regex.basic with single := true }

/-- The expression that a text is; an empty text stands for the one that was used last. -/
def expression (f : Form) (fold lines : Bool) (t : Text) : Reading (Option Regex.Compiled) := do
  if t = [] then
    if fold || lines then wrong "cannot specify modifiers on empty regexp"
    return none
  let t := unescaped (fun _ => false) (t.length + 1) (bracketNewlines false t)
  match Regex.compile (grammarOf f) fold lines t with
  | .ok c => return some c
  | .error e => wrong e.message

/-! ### Addresses -/

/-- The letters behind an expression: whether case counts, and whether lines do. -/
def expressionLetters : Nat → Bool → Bool → Reading (Bool × Bool)
  | 0, fold, lines => return (fold, lines)
  | fuel + 1, fold, lines => do
    let _ ← readWhile isGap
    match ← peek with
    | some 'I' => do
      let _ ← nextChar
      expressionLetters fuel true lines
    | some 'M' => do
      let _ ← nextChar
      expressionLetters fuel fold true
    | _ => return (fold, lines)

/-- The address that starts with a character which has been read, if one does. -/
def address? (f : Form) (c : Option Char) : Reading (Option RangeEnd) := do
  let matching (delimiter : Char) : Reading (Option RangeEnd) := do
    match ← delimited f delimiter true ((← get).rest.length + 1) with
    | none => wrong "unterminated address regex"
    | some t => do
      let (fold, lines) ← expressionLetters ((← get).rest.length + 1) false false
      return some (.at (.matching (← expression f fold lines t)))
  match c with
  | some '/' => matching '/'
  | some '\\' => match ← nextChar with
    | some d => matching d
    | none => wrong "unterminated address regex"
  | some '$' => return some (.at .last)
  | some '+' => return some (.after (← readNumber))
  | some '~' => return some (.multiple (← readNumber))
  | some c =>
    if c.isDigit then do
      let digits ← readWhile Char.isDigit
      let n := (Text.toNat? (c :: digits)).getD 0
      let s ← get
      let _ ← readWhile isGap
      if (← peek) = some '~' then do
        let _ ← nextChar
        let _ ← readWhile isGap
        let step ← readNumber
        return some (.at (if step = 0 then .line n else .every n step))
      else do
        set s
        return some (.at (.line n))
    else return none
  | none => return none

/-- The lines for which a step is done, and the character of the step. -/
def scopeAndLetter (f : Form) (c : Option Char) : Reading (Scope × Option Char) := do
  let bang (start : Option Address) (stop : Option RangeEnd) (c : Option Char) :
      Reading (Scope × Option Char) := do
    if c = some '!' then
      let c ← nextInLine
      if c = some '!' then wrong "multiple `!'s"
      return (⟨start, stop, true⟩, c)
    else return (⟨start, stop, false⟩, c)
  match ← address? f c with
  | none => bang none none c
  | some (.at a) => do
    let c ← nextInLine
    let isZero := match a with
      | .line 0 => true
      | _ => false
    if c = some ',' then
      match ← address? f (← nextInLine) with
      | none => wrong "unexpected `,'"
      | some stop => do
        let c ← nextInLine
        let isMatch := match stop with
          | .at (.matching _) => true
          | _ => false
        if isZero && !isMatch then wrong "invalid usage of line address 0"
        bang (some a) (some stop) c
    else do
      if isZero then wrong "invalid usage of line address 0"
      bang (some a) none c
  | some _ => wrong "invalid usage of +N or ~N as first address"

/-! ### Parts of steps -/

/-- Nothing but the end of a step may follow. -/
def endOfStep : Reading Unit := do
  let _ ← readWhile isGap
  match ← peek with
  | none => return
  | some '\x7d' => return
  | some '#' => return
  | some c => do
    let _ ← nextChar
    if c ≠ '\n' && c ≠ ';' then wrong "extra characters after command"

/-- A label. -/
def readLabel : Reading Text := do
  let _ ← readWhile isGap
  readWhile fun c => !(c = ';' || c = '\x7d' || isGap c || c = '\n' || c = '\r' || c = '\x0b' || c = '\x0c')

/-- The name of a file, up to the end of the line. -/
def readPath : Reading Text := do
  let _ ← readWhile isGap
  let path ← readWhile (· ≠ '\n')
  if path = [] then wrong "missing filename in r/R/w/W commands"
  return path

/-- The lines of a text, of which all but the last end in a backslash. -/
def textLines : Nat → Reading Text
  | 0 => return []
  | fuel + 1 => do
    match ← nextChar with
    | none => return ['\n']
    | some '\n' => return ['\n']
    | some '\\' => match ← nextChar with
      | none => return ['\n']
      | some c => return '\\' :: c :: (← textLines fuel)
    | some c => return c :: (← textLines fuel)

/-- The text without the backslashes that take the meaning of a character away. -/
def withoutBackslashes : Text → Text
  | '\\' :: 'n' :: cs => '\n' :: withoutBackslashes cs
  | '\\' :: c :: cs => c :: withoutBackslashes cs
  | c :: cs => c :: withoutBackslashes cs
  | [] => []

/-- A text that is to be written. -/
def readText : Reading Text := do
  let finish (t : Text) : Text := withoutBackslashes (unescaped (· = '\\') (t.length + 1) t)
  match ← nextInLine with
  | none => wrong "expected \\ after `a', `c' or `i'"
  | some '\n' => wrong "expected \\ after `a', `c' or `i'"
  | some '\\' => match ← nextChar with
    | none => return []
    | some '\n' => do
      if (← peek).isNone then return ['\n']
      return finish (← textLines ((← get).rest.length + 1))
    | some c => return c :: finish (← textLines ((← get).rest.length + 1))
  | some c => return c :: finish (← textLines ((← get).rest.length + 1))

/-- The pieces of a replacement; the characters of the last text stand in reverse. -/
def piecesOf (groups : Option Nat) : Text → Text → Except Text (List Piece)
  | current, [] => .ok (if current = [] then [] else [.text current.reverse])
  | current, '\\' :: c :: cs =>
    let cut (p : Piece) : Except Text (List Piece) := (piecesOf groups [] cs).map fun ps =>
      if current = [] then p :: ps else .text current.reverse :: p :: ps
    match c with
    | 'U' => cut (.casing .upper)
    | 'L' => cut (.casing .lower)
    | 'E' => cut (.casing .asIs)
    | 'u' => cut (.casing .nextUpper)
    | 'l' => cut (.casing .nextLower)
    | 'n' => piecesOf groups ('\n' :: current) cs
    | c =>
      if c.isDigit then
        let n := c.toNat - '0'.toNat
        if groups.any (· < n) then .error ("invalid reference \\" ++ c :: " on `s' command's RHS")
        else cut (.group n)
      else piecesOf groups (c :: current) cs
  | current, '&' :: cs => (piecesOf groups [] cs).map fun ps =>
    if current = [] then .group 0 :: ps else .text current.reverse :: .group 0 :: ps
  | current, c :: cs => piecesOf groups (c :: current) cs

/-- The letters behind a replacement. -/
structure Letters where
  /-- Does case not count? -/
  fold : Bool
  /-- Do lines count? -/
  lines : Bool
  /-- Are all matches replaced? -/
  every : Bool
  /-- Is the result printed? -/
  prints : Bool
  /-- The number of the first match that is replaced. -/
  first : Option Nat
  /-- The file to which the result is written. -/
  file : Option Text

/-- The letters behind a replacement are read. -/
def readLetters : Nat → Letters → Reading Letters
  | 0, o => return o
  | fuel + 1, o => do
    match ← peek with
    | none => return o
    | some '\x7d' => return o
    | some '#' => return o
    | some c => do
      let _ ← nextChar
      match c with
      | '\n' => return o
      | ';' => return o
      | 'i' => readLetters fuel { o with fold := true }
      | 'I' => readLetters fuel { o with fold := true }
      | 'm' => readLetters fuel { o with lines := true }
      | 'M' => readLetters fuel { o with lines := true }
      | 'g' => if o.every then wrong "multiple `g' options to `s' command" else readLetters fuel { o with every := true }
      | 'p' => if o.prints then wrong "multiple `p' options to `s' command" else readLetters fuel { o with prints := true }
      | 'w' => return { o with file := some (← readPath) }
      | c =>
        if isGap c then readLetters fuel o
        else if c.isDigit then
          if o.first.isSome then wrong "multiple number options to `s' command"
          let more ← readWhile Char.isDigit
          match Text.toNat? (c :: more) with
          | some 0 => wrong "number option to `s' command may not be zero"
          | n => readLetters fuel { o with first := n }
        else wrong "unknown option to `s'"

/-- A replacement. -/
def readReplacing (f : Form) : Reading Replacing := do
  let unterminated : Text := "unterminated `s' command"
  match ← nextChar with
  | none => wrong unterminated
  | some d => do
    let size := (← get).rest.length + 1
    match ← delimited f d true size with
    | none => wrong unterminated
    | some pattern => match ← delimited f d false size with
      | none => wrong unterminated
      | some t => do
        let o ← readLetters size ⟨false, false, false, false, none, none⟩
        let e ← expression f o.fold o.lines pattern
        let t := unescaped (fun c => c = '&' || c = '\\') (t.length + 1) t
        match piecesOf (e.map fun c => c.regex.groups) [] t with
        | .error message => wrong message
        | .ok pieces => return ⟨e, pieces, o.first.getD 1, o.every, o.prints, o.file⟩

/-- The characters between which a translation is made. -/
def translated : Text → Text
  | '\\' :: 'n' :: cs => '\n' :: translated cs
  | '\\' :: c :: cs => c :: translated cs
  | c :: cs => c :: translated cs
  | [] => []

/-- A translation of characters. -/
def readTranslation (f : Form) : Reading (List (Char × Char)) := do
  let unterminated : Text := "unterminated `y' command"
  match ← nextChar with
  | none => wrong unterminated
  | some d => do
    let size := (← get).rest.length + 1
    match ← delimited f d false size with
    | none => wrong unterminated
    | some source => match ← delimited f d false size with
      | none => wrong unterminated
      | some target => do
        let plain (t : Text) : Text := translated (unescaped (· = '\\') (t.length + 1) t)
        if (plain source).length ≠ (plain target).length then
          wrong "strings for `y' command are different lengths"
        endOfStep
        return (plain source).zip (plain target)

/-! ### Scripts -/

/-- A script as far as it has been read. -/
structure Draft where
  /-- The steps, the last first. -/
  steps : List Step
  /-- How many steps there are. -/
  count : Nat
  /-- The labels with the numbers of their steps. -/
  labels : List (Text × Nat)
  /-- The places of the blocks that are open, the innermost first. -/
  blocks : List Nat

/-- The deed of a letter. -/
def deedOf (f : Form) (s : Scope) (c : Char) : Reading Deed := do
  let simple (d : Deed) : Reading Deed := do
    endOfStep
    return d
  let status : Reading Nat := do
    let _ ← readWhile isGap
    let n ← readNumber
    endOfStep
    return n
  match c with
  | 'a' => return .append (← readText)
  | 'i' => return .insert (← readText)
  | 'c' => return .change (← readText)
  | 'b' => return .jump .always (← readLabel)
  | 't' => return .jump .changed (← readLabel)
  | 'T' => return .jump .unchanged (← readLabel)
  | 'd' => simple .delete
  | 'D' => simple .deleteLine
  | 'F' => simple .fileName
  | 'g' => simple .fetch
  | 'G' => simple .fetchMore
  | 'h' => simple .hold
  | 'H' => simple .holdMore
  | 'l' => do
    let _ ← readWhile isGap
    let digits ← readWhile Char.isDigit
    simple (.listing (Text.toNat? digits))
  | 'n' => simple .next
  | 'N' => simple .joinNext
  | 'p' => simple .print
  | 'P' => simple .printLine
  | 'q' =>
    if s.stop.isSome then wrong "command only uses one address"
    return .quit false (← status)
  | 'Q' =>
    if s.stop.isSome then wrong "command only uses one address"
    return .quit true (← status)
  | 'r' => return .readFile (← readPath)
  | 'R' => return .readLine (← readPath)
  | 's' => return .replace (← readReplacing f)
  | 'w' => return .writeFile (← readPath)
  | 'W' => return .writeLine (← readPath)
  | 'x' => simple .exchange
  | 'y' => return .translate (← readTranslation f)
  | 'z' => simple .clear
  | '=' => simple .number
  | c => wrong ("unknown command: `" ++ c :: ['\''])

/-- The steps are read. -/
def readSteps (f : Form) : Nat → Draft → Reading Draft
  | 0, d => return d
  | fuel + 1, d => do
    let _ ← readWhile fun c => c = ';' || isGap c || ('\n' ≤ c && c ≤ '\r')
    let (s, c) ← scopeAndLetter f (← nextChar)
    let add (deed : Deed) (d : Draft) : Draft := { d with steps := ⟨s, deed⟩ :: d.steps, count := d.count + 1 }
    match c with
    | none =>
      if s.start.isSome || s.negated then wrong "missing command"
      else return d
    | some '#' => do
      if s.start.isSome then wrong "comments don't accept any addresses"
      let _ ← readWhile (· ≠ '\n')
      readSteps f fuel d
    | some ':' => do
      if s.start.isSome then wrong ": doesn't want any addresses"
      let label ← readLabel
      if label = [] then wrong "\":\" lacks a label"
      readSteps f fuel { d with labels := (label, d.count) :: d.labels }
    | some 'v' => do
      let version ← readLabel
      if (Text.toNat? (version.takeWhile Char.isDigit)).any (4 < ·) then wrong "expected newer version of sed"
      readSteps f fuel d
    | some '\x7b' => do
      let place := (← get).read
      readSteps f fuel (add .blockStart { d with blocks := place :: d.blocks })
    | some '\x7d' => match d.blocks with
      | [] => wrong "unexpected `\x7d'"
      | _ :: blocks => do
        if s.start.isSome then wrong "`\x7d' doesn't want any addresses"
        endOfStep
        readSteps f fuel (add .blockEnd { d with blocks := blocks })
    | some c => do
      let deed ← deedOf f s c
      readSteps f fuel (add deed d)

/-- A piece of a script. -/
inductive Origin
  /-- An argument, with its number. -/
  | argument (n : Nat)
  /-- A file. -/
  | file (name : Text)

/-- The places where the pieces of a script are joined. -/
def jointsOf : Nat → List Text → List Nat
  | _, [] => []
  | _, [_] => []
  | n, t :: ts => (n + t.length) :: jointsOf (n + t.length + 1) ts

/-- The piece in which a place is, and how many characters of it stand before the place. -/
def pieceAt : Nat → List (Origin × Text) → Option (Origin × Text × Nat)
  | _, [] => none
  | n, [(o, t)] => some (o, t, min n t.length)
  | n, (o, t) :: ps => if n ≤ t.length + 1 then some (o, t, min n t.length) else pieceAt (n - t.length - 1) ps

/-- What is said about a mistake. -/
def Mistake.describe (m : Mistake) (ps : List (Origin × Text)) : Text :=
  match pieceAt m.place ps with
  | some (.argument k, _, n) =>
    "-e expression #" ++ Text.ofNat k ++ ", char " ++ Text.ofNat (if m.whole then 0 else n) ++ ": " ++ m.message
  | some (.file name, t, n) =>
    let line := 1 + ((t.take n).filter (· = '\n')).length
    "file " ++ name ++ " line " ++ Text.ofNat line ++ ": " ++ m.message
  | none => m.message

/-- The script that pieces make, or the status and the message of what is wrong with them. -/
def readScript (extended : Bool) (ps : List (Origin × Text)) : Except (Nat × Text) Script := do
  let texts := ps.map (·.2)
  let whole := Text.join ['\n'] texts
  let form : Form := ⟨extended, jointsOf 0 texts⟩
  match (readSteps form (whole.length + 2) ⟨[], 0, [], []⟩).run ⟨whole, 0⟩ with
  | .error m => throw (1, m.describe ps)
  | .ok (d, _) => do
    match d.blocks with
    | place :: _ => throw (1, (Mistake.mk place true "unmatched `\x7b'").describe ps)
    | [] => pure ()
    let targets := d.steps.reverse.filterMap fun s => match s.deed with
      | .jump _ label => some label
      | _ => none
    match targets.find? fun l => l ≠ [] && (d.labels.lookup l).isNone with
    | some l => throw (4, "can't find label for jump to `" ++ l ++ ['\''])
    | none => pure ()
    return ⟨d.steps.reverse.toArray, d.labels, whole.take 2 = ['#', 'n']⟩

end Rollout.Program.Edit
