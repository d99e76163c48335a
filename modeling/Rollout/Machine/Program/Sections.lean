import Rollout.Machine.Program.Numbers
import Rollout.Machine.Regex.Parser

/-!
Splitting a file into sections that begin at given lines, or at lines that match expressions.
-/

namespace Rollout.Program

open Unix

/-! ### Places -/

/-- A place where a section begins. -/
inductive Place
  /-- A line with a number. -/
  | line (n : Nat)
  /-- A line so far after one that matches; if it is skipped, what comes before it is no section. -/
  | matching (c : Regex.Compiled) (skipped : Bool) (offset : Int)

/-- How often a place is looked for. -/
inductive Often
  /-- So many times. -/
  | times (n : Nat)
  /-- As long as it is there. -/
  | always

/-- A place that was asked for. -/
structure Wanted where
  /-- The place. -/
  place : Place
  /-- How it was written. -/
  written : Text
  /-- How often it is looked for. -/
  often : Often

namespace Wanted

/-- The integer that an offset is written as. -/
def offset? (t : Text) : Option Int :=
  let t := t.dropWhile fun c => c = ' ' || ('\t' ≤ c && c ≤ '\r')
  match t with
  | '-' :: ds => (Text.toNat? ds).map fun n => -(n : Int)
  | '+' :: ds => (Text.toNat? ds).map Int.ofNat
  | ds => (Text.toNat? ds).map Int.ofNat

/-- The place at a line that matches an expression between two marks. -/
def matchingPlace (mark : Char) (t : Text) : Except Text Place := do
  let body := t.drop 1
  let reversed := body.reverse.dropWhile (· ≠ mark)
  if reversed.isEmpty then throw (t ++ ": closing delimiter '" ++ mark :: "' missing".toList)
  let pattern := (reversed.drop 1).reverse
  let after := body.drop (pattern.length + 1)
  let offset ← if after.isEmpty then pure 0 else match offset? after with
    | some n => pure n
    | none => throw (inQuotes t ++ ": integer expected after delimiter")
  match Regex.compile Regex.lenient false false pattern with
  | .ok c => return .matching c (mark = '%') offset
  | .error e => throw (inQuotes t ++ ": invalid regular expression: " ++ e.message)

/-- How often the place before it is looked for, as a text in braces says. -/
def oftenOf (t : Text) : Except Text Often := do
  if t.getLast? ≠ some '\x7d' then throw (inQuotes t ++ ": '\x7d' is required in repeat count")
  match t.drop 1 |>.dropLast with
  | ['*'] => return .always
  | ds => match Text.toNat? ds with
    | some n => return .times (n + 1)
    | none => throw (inQuotes ('\x7b' :: ds) ++ "\x7d: integer required between '\x7b' and '\x7d'")

/-- The number of a line, which must not come before the last one. -/
def lineOf (before : Nat) (t : Text) : Act Nat := do
  match Text.toNat? t with
  | none => giveUp 1 (inQuotes t ++ ": invalid pattern")
  | some 0 => giveUp 1 (t ++ ": line number must be greater than zero")
  | some n => do
    if n < before then
      giveUp 1 ("line number " ++ inQuotes t ++ " is smaller than preceding line number, " ++ Text.ofNat before)
    if n = before then grumble ("warning: line number " ++ inQuotes t ++ " is the same as preceding line number")
    return n

/-- The places that arguments ask for. -/
def readAll : Nat → List Text → Act (List Wanted)
  | _, [] => return []
  | before, t :: ts => do
    let (place, before) ← match t.head? with
      | some '/' => do pure (← orGiveUp (matchingPlace '/' t), before)
      | some '%' => do pure (← orGiveUp (matchingPlace '%' t), before)
      | _ => do
        let n ← lineOf before t
        pure (Place.line n, n)
    match ts with
    | ('\x7b' :: r) :: ts => do
      let often ← orGiveUp (oftenOf ('\x7b' :: r))
      return ⟨place, t, often⟩ :: (← readAll before ts)
    | ts => return ⟨place, t, .times 1⟩ :: (← readAll before ts)
where
  /-- A value, or the end of the process. -/
  orGiveUp {α : Type} : Except Text α → Act α
    | .ok a => pure a
    | .error e => giveUp 1 e

end Wanted

/-! ### Names -/

/-- How sections are named. -/
structure SectionNames where
  /-- What stands in front of the number. -/
  before : Text
  /-- How the number is printed. -/
  directive : Directive
  /-- The letter of its form. -/
  letter : Char
  /-- What stands behind it. -/
  after : Text

namespace SectionNames

/-- The name of the section with a number. -/
def name (names : SectionNames) (i : Nat) : Text :=
  names.before ++ names.directive.integer names.letter i ++ names.after

/-- Names whose numbers have a format. -/
def ofFormat (stem t : Text) : Except Text SectionNames := do
  let (before, rest) := beforeDirective t
  let some rest := rest | throw "missing % conversion specification in suffix".toList
  let flags := rest.takeWhile fun c => "-0'#".toList.contains c
  let rest := rest.drop flags.length
  let width := rest.takeWhile Char.isDigit
  let rest := rest.drop width.length
  let places := (rest.drop 1).takeWhile Char.isDigit
  let (precision, rest) : Option Nat × Text := match rest with
    | '.' :: rest => (some ((Text.toNat? places).getD 0), rest.drop places.length)
    | rest => (none, rest)
  match rest with
  | [] => throw "missing conversion specifier in suffix".toList
  | c :: rest =>
    if !"diuoxX".toList.contains c then throw ("invalid conversion specifier in suffix: ".toList ++ [c])
    let (after, more) := beforeDirective rest
    if more.isSome then throw "too many % conversion specifications in suffix".toList
    return ⟨stem ++ before, ⟨flags.filter (· ≠ '\''), (Text.toNat? width).getD 0, precision⟩,
      if c = 'u' then 'd' else c, after⟩

end SectionNames

/-! ### Sections -/

/-- How sections are written. -/
structure SectionRules where
  /-- The names of their files. -/
  names : SectionNames
  /-- Are the files kept when something goes wrong? -/
  keeps : Bool
  /-- Are their sizes left out? -/
  silent : Bool
  /-- Are empty ones left out? -/
  elides : Bool
  /-- Are the lines at which they begin left out? -/
  suppresses : Bool

/-- Where splitting has come to. -/
structure Sectioning where
  /-- The lines that are left, with their numbers. -/
  rest : List (Nat × Text)
  /-- The number of the line that was looked at last. -/
  current : Nat
  /-- The number of the next file. -/
  made : Nat
  /-- The lines of the section that has begun, if one has, the latest first. -/
  begun : Option (List Text)

/-- Splitting into sections. -/
abbrev Sections := ReaderT SectionRules (StateT Sectioning Act)

namespace Sections

/-- Begin a section. -/
def start : Sections Unit := modify fun s => { s with begun := some [] }

/-- Write the section to its file. -/
def close : Sections Unit := do
  let rules ← read
  let s ← get
  match s.begun with
  | none => return
  | some lines => do
    let t := lines.reverse.flatten
    let name := rules.names.name s.made
    set { s with begun := none }
    match ← liftM (openForWriting false name) with
    | .error e => liftM (giveUp 1 (nameOf name ++ ": " ++ e) : Act Unit)
    | .ok d => do
      let _ ← liftM (writeTo t d)
      if t.isEmpty && rules.elides then
        let p ← liftM (get : Act Process)
        match p.root.placeFor p.cwd name with
        | .ok place => liftM (eraseFile place)
        | .error _ => pure ()
      else
        modify fun s => { s with made := s.made + 1 }
        if !rules.silent then liftM (sayLine (Text.ofNat t.length))

/-- Take the next line. -/
def takeLine : Sections (Option Text) := do
  let s ← get
  match s.rest with
  | [] => return none
  | (n, t) :: rest => do
    set { s with
      rest := rest
      current := max s.current n }
    return some t

/-- Put a line into the section that has begun, if one has. -/
def put (t : Text) : Sections Unit := modify fun s => { s with begun := s.begun.map (t :: ·) }

/-- Put all lines that are left into the section. -/
def putRest : Sections Unit :=
  modify fun s => { s with
    rest := []
    begun := s.begun.map ((s.rest.map (·.2)).reverse ++ ·) }

/-- End because splitting failed: what was begun is closed, and all files are taken away unless they are kept. -/
def fail {α : Type} : Sections α := do
  close
  let rules ← read
  if !rules.keeps then
    let p ← liftM (get : Act Process)
    (List.range (← get).made).forM fun i => match p.root.placeFor p.cwd (rules.names.name i) with
      | .ok place => liftM (eraseFile place)
      | .error _ => pure ()
  liftM (throw (.exited 1) : Act α)

/-- Say something without regard to what is still to be written. -/
def say (t : Text) : Sections Unit := liftM (do complain ((← get).name ++ ": " ++ t) : Act Unit)

/-- How a repetition is told. -/
def onRepetition (i : Nat) : Text := if i = 0 then [] else " on repetition " ++ Text.ofNat i

/-- What is said when a line does not exist. -/
def outOfRange (what : Text) : Text := inQuotes what ++ ": line number out of range"

/-- Take lines into the section until one with a number comes; tells whether there were so many. -/
def takeUntil (number : Nat) : Nat → Sections Bool
  | 0 => return true
  | fuel + 1 => do
    match (← get).rest.head? with
    | none => return false
    | some (n, t) => do
      if number ≤ n then return true
      let _ ← takeLine
      put t
      takeUntil number fuel

/-- A section before a line with a number. -/
def beforeLine (n i : Nat) : Sections Unit := do
  let rules ← read
  start
  let missing : Sections Unit := do
    say (outOfRange (Text.ofNat n) ++ onRepetition i)
    fail
  if rules.suppresses && (← get).rest.isEmpty then missing
  if (← get).rest.isEmpty then
    modify fun s => { s with begun := none }
    let name := rules.names.name (← get).made
    let _ ← liftM (openForWriting false name)
    liftM (giveUp 1 "input disappeared" : Act Unit)
  let last := n * (i + 1)
  let found ← takeUntil last ((← get).rest.length + 1)
  if !found && (← get).rest.isEmpty && last ≠ (← get).current + 1 then missing
  close
  if rules.suppresses then
    let _ ← takeLine
  else if (← get).rest.isEmpty then missing

/-- A section before a line that lies so far after one that matches; tells whether there may be another one. -/
def beforeMatch (w : Wanted) (c : Regex.Compiled) (skipped : Bool) (offset : Int) (i : Nat) : Sections Bool := do
  let rules ← read
  if !skipped then start
  let s ← get
  let later := s.rest.filter fun l => s.current < l.1
  match later.find? fun l => (c.search (withoutEnd '\n' l.2) 0).isSome with
  | none => do
    let wholly : Sections Unit := do
      if skipped then modify fun s => { s with rest := [] } else putRest
      close
    match w.often with
    | .always => do
      wholly
      return false
    | .times _ => do
      say (inQuotes w.written ++ ": match not found" ++ onRepetition i)
      if !skipped then wholly
      fail
  | some (n, _) => do
    if 0 ≤ offset then
      let _ ← takeUntil n ((← get).rest.length + 1)
    modify fun s => { s with current := n }
    let target := (n : Int) + offset
    let first := ((← get).rest.head?.map (·.1)).getD n
    let missing : Sections Unit := do
      liftM (grumble (outOfRange w.written) : Act Unit)
      fail
    if target < first then missing
    if !(← takeUntil target.toNat ((← get).rest.length + 1)) then missing
    if !skipped then close
    if 0 < offset then modify fun s => { s with current := target.toNat }
    if rules.suppresses then
      let _ ← takeLine
    return true

/-- All sections before a place, the number of repetitions being limited by the lines that are left; tells whether to
go on. -/
def beforePlace (w : Wanted) : Nat → Nat → Sections Bool
  | 0, _ => return true
  | fuel + 1, i => do
    let isOver : Bool := match w.often with
      | .times n => decide (n ≤ i)
      | .always => false
    if isOver then return true
    match w.place with
    | .line n => do
      beforeLine n i
      beforePlace w fuel (i + 1)
    | .matching c skipped offset =>
      if ← beforeMatch w c skipped offset i then beforePlace w fuel (i + 1) else return false

/-- All sections. -/
def all : List Wanted → Sections Unit
  | [] => do
    start
    putRest
    close
  | w :: ws => do
    let left := (← get).rest.length
    let most := match w.often with
      | .times n => n + 1
      | .always => left + 2
    if ← beforePlace w most 0 then all ws

end Sections

/-- Split a file into sections. -/
def csplit : Routine := fun ts => do
  let flags := [Flag.valued 'b' "suffix-format", .valued 'f' "prefix", .plain 'k' "keep-files", .wordOnly "suppress-matched",
    .valued 'n' "digits", .plain 's' "quiet", .plain 'q' "", .plain 's' "silent", .plain 'z' "elide-empty-files"]
  let a ← arguments flags true 1 ts
  let digits ← match a.value? "n" with
    | none => pure 2
    | some t => match Text.toNat? t with
      | some n => pure n
      | none => giveUp 1 ("invalid number: " ++ inQuotes t)
  let stem := (a.value? "f").getD "xx"
  let names ← match a.value? "b" with
    | none => pure (SectionNames.mk stem ⟨['0'], digits, none⟩ 'd' [])
    | some t => match SectionNames.ofFormat stem t with
      | .ok names => pure names
      | .error e => giveUp 1 e
  match a.operands with
  | [] => misused 1 "missing operand"
  | [t] => misused 1 ("missing operand after " ++ inQuotes t)
  | source :: places => do
    let p ← get
    if source ≠ ['-'] then match p.look source with
      | .error e => giveUp 1 ("cannot open " ++ inShellQuotes source ++ " for reading: " ++ e)
      | .ok _ => pure ()
    let wanted ← Wanted.readAll 0 places
    let rules : SectionRules := ⟨names, a.has "k", a.has "s" || a.has "q", a.has "z", a.has "suppress-matched"⟩
    match ← contentOf source with
    | .error e => do
      if !rules.silent then sayLine ['0']
      giveUp 1 ("read error: " ++ e)
    | .ok t => do
      let lines := (fullLines t).zipIdx 1 |>.map fun (l, n) => (n, l)
      let _ ← ((Sections.all wanted).run rules).run ⟨lines, 0, 0, none⟩
      return 0

end Rollout.Program
