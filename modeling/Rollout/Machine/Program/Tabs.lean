import Rollout.Machine.Program.Input

/-!
Programs that count columns: writing blanks in place of tabs, tabs in place of blanks, and breaking long lines. Each
reads its input character by character, and carries the column along.
-/

namespace Rollout.Program

open Unix

/-! ### Tab stops -/

/-- Where tabs lead. -/
structure TabStops where
  /-- The columns of the stops, in order. -/
  stops : List Nat
  /-- After them each multiple is a stop. -/
  multiple : Option Nat
  /-- After them stops lie so far apart. -/
  apart : Option Nat

namespace TabStops

/-- What stands in front of a number. -/
inductive Mark
  | none
  | multiple
  | apart
  deriving DecidableEq

/-- What has been read of stops: the stops, what stands in front of the number, and the number. -/
structure Draft where
  /-- The stops. -/
  result : TabStops
  /-- What stands in front of the number. -/
  mark : Mark
  /-- The number. -/
  number : Option Nat

/-- The stops after a number has ended. -/
def close (d : Draft) : Except Text Draft :=
  match d.number with
  | none => .ok d
  | some n =>
    let t := d.result
    match d.mark with
    | .none => .ok { d with
        result := { t with stops := t.stops ++ [n] }
        number := none }
    | .multiple =>
      if t.multiple.isSome then .error "'/' specifier only allowed with the last value"
      else .ok { d with
        result := { t with multiple := some n }
        number := none }
    | .apart =>
      if t.apart.isSome then .error "'+' specifier only allowed with the last value"
      else .ok { d with
        result := { t with apart := some n }
        number := none }

/-- Read stops. -/
def readAll : Draft → Text → Except Text Draft
  | d, [] => close d
  | d, c :: cs =>
    if c = ',' || c = ' ' || c = '\t' then do readAll (← close d) cs
    else if c = '/' || c = '+' then
      if d.number.isSome then
        .error ('\'' :: c :: "' specifier not at start of number: ".toList ++ inQuotes (c :: cs))
      else readAll { d with mark := if c = '/' then .multiple else .apart } cs
    else if c.isDigit then
      let n := 10 * d.number.getD 0 + (c.toNat - '0'.toNat)
      if maxCount < n then
        .error ("tab stop is too large " ++ inQuotes (Text.ofNat (d.number.getD 0) ++ (c :: cs).takeWhile Char.isDigit))
      else readAll { d with number := some n } cs
    else .error ("tab size contains invalid character(s): " ++ inQuotes (c :: cs))

/-- Why stops make no sense, if they do not. -/
def fault? (t : TabStops) : Option Text :=
  let rec go (before : Nat) : List Nat → Option Text
    | [] => none
    | n :: ns =>
      if n = 0 then some "tab size cannot be 0"
      else if n ≤ before then some "tab sizes must be ascending"
      else go n ns
  (go 0 t.stops).or
    (if t.multiple.any (· ≠ 0) && t.apart.any (· ≠ 0) then some "'/' specifier is mutually exclusive with '+'" else none)

/-- The stops that texts ask for. -/
def ofTexts (ts : List Text) : Except Text TabStops := do
  let d ← ts.foldlM (fun d t => readAll { d with mark := .none } t) ⟨⟨[], none, none⟩, .none, none⟩
  match d.result.fault? with
  | some e => throw e
  | none => return d.result

/-- The stop after a column, unless there is none. -/
def next? (t : TabStops) (column : Nat) : Option Nat :=
  let multiple := t.multiple.filter (· ≠ 0)
  let apart := t.apart.filter (· ≠ 0)
  let every (n : Nat) : Option Nat := some (column + (n - column % n))
  match t.stops, multiple, apart with
  | [], some n, _ => every n
  | [], none, some n => every n
  | [], none, none => every 8
  | [n], none, none => every n
  | stops, multiple, apart => match stops.find? (column < ·) with
    | some n => some n
    | none => match multiple, apart with
      | some n, _ => every n
      | none, some n =>
        let last := stops.getLast?.getD 0
        some (column + (n - (column - last) % n))
      | none, none => none

end TabStops

/-- Options that are numbers. -/
def numberFlags : List Flag := "0123456789".toList.map fun c => ⟨some c, none, .optional⟩

/-- Is the option a number? -/
def isDigitOption (o : Text × Text) : Bool := o.1.length = 1 && o.1.all Char.isDigit

/-- The stops that texts ask for; if they make no sense, the process ends. -/
def tabStops (ts : List Text) : Act TabStops :=
  match TabStops.ofTexts ts with
  | .ok t => return t
  | .error e => giveUp 1 e

/-! ### Blanks in place of tabs -/

/-- Where writing blanks in place of tabs has come to. -/
structure Expansion where
  /-- The column. -/
  column : Nat
  /-- Are tabs still replaced on this line? -/
  active : Bool
  /-- What has been written, the latest first. -/
  written : Text

/-- Write the next character. -/
def Expansion.step (stops : TabStops) (entire : Bool) (e : Expansion) (c : Char) : Expansion :=
  if c = '\n' then ⟨0, true, c :: e.written⟩
  else if !e.active then { e with written := c :: e.written }
  else if c = '\t' then
    let column := (stops.next? e.column).getD (e.column + 1)
    { e with
      column := column
      written := List.replicate (column - e.column) ' ' ++ e.written }
  else
    let column := if c = '\x08' then e.column - 1 else e.column + 1
    ⟨column, entire || c = ' ', c :: e.written⟩

/-- Write blanks instead of tabs. -/
def expand : Routine := fun ts => do
  let a ← arguments (([.plain 'i' "initial", .valued 't' "tabs"] : List Flag) ++ numberFlags) true 1 ts
  let stops ← tabStops ((a.options.filter fun o => o.1 = ['t'] || isDigitOption o).map fun o =>
    if o.1 = ['t'] then o.2 else o.1 ++ o.2)
  let (files, status) ← contents 1 (orInput a.operands)
  say ((joined files).foldl (Expansion.step stops (!a.has "i")) ⟨0, true, []⟩).written.reverse
  return status

/-! ### Tabs in place of blanks -/

/-- Where writing tabs in place of blanks has come to. -/
structure Contraction where
  /-- The column. -/
  column : Nat
  /-- Are blanks still replaced on this line? -/
  active : Bool
  /-- Does a single blank stand right before a stop? -/
  lone : Bool
  /-- Was the character before a blank? -/
  afterBlank : Bool
  /-- The blanks that may be replaced, the latest first. -/
  pending : Text
  /-- What has been written, the latest first. -/
  written : Text

namespace Contraction

/-- The start of a line. -/
def atStart (written : Text) : Contraction := ⟨0, true, false, true, [], written⟩

/-- Blanks of which the first one is a tab. -/
def withTab (pending : Text) : Text := if pending.isEmpty then [] else pending.dropLast ++ ['\t']

/-- Write the blanks that have not been replaced. -/
def settle (k : Contraction) : Contraction :=
  if k.pending.isEmpty then k
  else { k with
    pending := []
    lone := false
    written := (if 1 < k.pending.length && k.lone then withTab k.pending else k.pending) ++ k.written }

/-- Write a character after the blanks. -/
def put (entire : Bool) (c : Char) (isBlank : Bool) (k : Contraction) : Contraction :=
  let k := k.settle
  { k with
    afterBlank := isBlank
    active := k.active && (entire || isBlank)
    written := c :: k.written }

/-- Go to the next character. -/
def step (stops : TabStops) (entire : Bool) (k : Contraction) (c : Char) : Contraction :=
  if c = '\n' then atStart (c :: k.settle.written)
  else if !k.active then { k with written := c :: k.written }
  else if c = ' ' || c = '\t' then
    match stops.next? k.column with
    | none => { k.settle with
        active := false
        afterBlank := true
        written := c :: k.settle.written }
    | some stop =>
      let kept (p : Text) : Text := if k.lone then p.drop (p.length - 1) else []
      if c = '\t' then
        put entire c true { k with
          column := stop
          pending := kept (withTab k.pending) }
      else
        let column := k.column + 1
        if k.afterBlank && column = stop then
          put entire '\t' true { k with
            column := column
            pending := kept (withTab k.pending) }
        else { k with
          column := column
          lone := k.lone || column = stop
          afterBlank := true
          pending := c :: k.pending }
  else put entire c false { k with column := if c = '\x08' then k.column - 1 else k.column + 1 }

end Contraction

/-- Write tabs instead of blanks. -/
def unexpand : Routine := fun ts => do
  let comma : Flag := ⟨some ',', none, .none⟩
  let single : List Flag := "0123456789".toList.map fun c => ⟨some c, none, .none⟩
  let a ← arguments (([.plain 'a' "all", .valued 't' "tabs", .wordOnly "first-only", comma] : List Flag) ++ single) true 1 ts
  let written := (a.options.filter fun o => o.1 = [','] || isDigitOption o).flatMap (·.1)
  let stops ← tabStops (a.values "t" ++ if written.isEmpty then [] else [written])
  let entire := (a.has "a" || a.has "t") && !a.has "first-only"
  let (files, status) ← contents 1 (orInput a.operands)
  say ((joined files).foldl (Contraction.step stops entire) (.atStart [])).settle.written.reverse
  return status

/-! ### Breaking lines -/

/-- The column after a character. -/
def nextColumn (bytes : Bool) (column : Nat) (c : Char) : Nat :=
  if bytes then column + 1
  else if c = '\t' then column + 8 - column % 8
  else if c = '\x08' then column - 1
  else if c = '\r' then 0
  else column + 1

/-- How lines are broken. -/
structure Breaking where
  /-- How wide they may be. -/
  width : Nat
  /-- Does each byte count as one column? -/
  bytes : Bool
  /-- Are they broken behind blanks? -/
  blanks : Bool

/-- Where breaking lines has come to: the column, and the line, the latest character first. -/
structure Broken where
  /-- The column. -/
  column : Nat
  /-- The line. -/
  line : Text
  /-- What has been written, the latest first. -/
  written : Text

/-- Go to the next character. -/
def Breaking.step (b : Breaking) (k : Broken) (c : Char) : Broken :=
  if c = '\n' then ⟨0, [], c :: (k.line ++ k.written)⟩
  else
    let column := nextColumn b.bytes k.column c
    let alone (written : Text) : Broken := ⟨nextColumn b.bytes 0 c, [c], written⟩
    if column ≤ b.width || k.line.isEmpty then { k with
      column := column
      line := c :: k.line }
    else
      let moved := k.line.takeWhile fun c => c ≠ ' ' && c ≠ '\t'
      let kept := k.line.drop moved.length
      if b.blanks && !kept.isEmpty then
        let written := '\n' :: (kept ++ k.written)
        let column := moved.reverse.foldl (nextColumn b.bytes) 0
        let next := nextColumn b.bytes column c
        if next ≤ b.width || moved.isEmpty then ⟨next, c :: moved, written⟩
        else alone ('\n' :: (moved ++ written))
      else alone ('\n' :: (k.line ++ k.written))

/-- Break long lines. -/
def fold : Routine := fun ts => do
  let a ← arguments (([.plain 'b' "bytes", .plain 's' "spaces", .valued 'w' "width"] : List Flag) ++ numberFlags) true 1 ts
  let widths := (a.options.filter fun o => o.1 = ['w'] || isDigitOption o).map fun o =>
    if o.1 = ['w'] then o.2 else o.1 ++ o.2
  let width ← match widths.getLast? with
    | none => pure 80
    | some v => match Text.toNat? v with
      | some 0 => giveUp 1 ("invalid number of columns: " ++ inQuotes v ++ ": Numerical result out of range")
      | some n => pure n
      | none => giveUp 1 ("invalid number of columns: " ++ inQuotes v)
  let breaking : Breaking := ⟨width, a.has "b", a.has "s"⟩
  let (files, status) ← contents 1 (orInput a.operands)
  for (_, t) in files do
    let k := t.foldl breaking.step ⟨0, [], []⟩
    say (k.line ++ k.written).reverse
  return status

end Rollout.Program
