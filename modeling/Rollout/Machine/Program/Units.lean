import Rollout.Machine.Program.Columns
import Rollout.Machine.Program.Input

/-!
Numbers with units: reading those that people write, and writing numbers in the greatest unit that fits them. The
numbers in between are exact.
-/

namespace Rollout.Program

open Unix

/-! ### Units -/

/-- Which units stand behind numbers. -/
inductive Prefixed
  /-- None. -/
  | none
  /-- Powers of 1000, or of 1024 where an i follows the letter. -/
  | either
  /-- Powers of 1000. -/
  | thousands
  /-- Powers of 1024. -/
  | binary
  /-- Powers of 1024, where an i follows the letter. -/
  | marked
  deriving DecidableEq

/-- The number whose powers the units are. -/
def Prefixed.base : Prefixed → Nat
  | .binary => 1024
  | .marked => 1024
  | _ => 1000

/-- The letters of units, from the first power on. -/
def unitLetters : Text := "KMGTPEZY"

/-- To which side numbers are rounded. -/
inductive Side
  | up | down | fromZero | towardsZero | nearest

/-- The integer to which a number is rounded. -/
def Side.round (s : Side) (v : Rat) : Int :=
  match s with
  | .up => v.ceil
  | .down => v.floor
  | .fromZero => if v < 0 then v.floor else v.ceil
  | .towardsZero => if v < 0 then v.ceil else v.floor
  | .nearest => if v < 0 then (v - 1 / 2).ceil else (v + 1 / 2).floor

/-- What happens to a text that is no number. -/
inductive Refusal
  /-- The process ends. -/
  | abort
  /-- It is told, and the process fails in the end. -/
  | fail
  /-- It is told. -/
  | warn
  /-- Nothing. -/
  | ignore
  deriving DecidableEq

/-- How numbers are written. -/
structure NumberForm where
  /-- What stands in front. -/
  before : Text
  /-- What stands behind. -/
  after : Text
  /-- The least number of characters, which are blanks. -/
  width : Nat
  /-- Do the blanks stand behind the number? -/
  left : Bool
  /-- The least number of characters, which are zeros. -/
  zeros : Nat
  /-- How many places there are. -/
  places : Option Nat

/-- How numbers are changed. -/
structure Conversion where
  /-- The units of what is read. -/
  source : Prefixed
  /-- The units of what is written. -/
  target : Prefixed
  /-- By what numbers are multiplied. -/
  factor : Rat
  /-- The side to which they are rounded. -/
  side : Side
  /-- What stands behind each number. -/
  ending : Text
  /-- How they are written. -/
  form : NumberForm
  /-- Do they take as much room as they took? -/
  keepsRoom : Bool
  /-- What happens to texts that are no numbers. -/
  refusal : Refusal

namespace Conversion

/-! ### Reading -/

/-- How many digits a number may have that is read. -/
def maxDigits : Nat := 27

/-- The digits at the start of a text: their number, how many there are, and what follows them. -/
def digitsAt (t : Text) : Except Text (Nat × Nat × Text) :=
  let ds := t.takeWhile Char.isDigit
  let rest := t.drop ds.length
  if maxDigits < (ds.dropWhile (· = '0')).length then .error "value too large to be converted: "
  else if ds.isEmpty && rest.head? ≠ some '.' then .error "invalid number: "
  else .ok ((Text.toNat? ds).getD 0, ds.length, rest)

/-- The number at the start of a text, how many places it has, and what follows it. -/
def numberAt (t : Text) : Except Text (Rat × Nat × Text) := do
  let negative := t.head? = some '-'
  let (whole, _, rest) ← digitsAt (if negative then t.drop 1 else t)
  let sign : Rat := if negative then -1 else 1
  match rest with
  | '.' :: rest => do
    if rest.head? = some '-' then throw "invalid number: ".toList
    let (part, places, rest) ← digitsAt rest
    return (sign * ((whole : Rat) + (part : Rat) / ((Nat.pow 10 places : Nat) : Rat)), places, rest)
  | rest => return (sign * (whole : Rat), 0, rest)

/-- The number that a text denotes with its unit, and how many places are to be written; or what is wrong with it. -/
def read (c : Conversion) (t : Text) : Except Text (Rat × Nat) := do
  let about (problem : Text) (after : Text) : Text := problem ++ inQuotes t ++ after
  let (v, places, rest) ← (numberAt t).mapError fun e => about e []
  let (v, places, rest) : Rat × Nat × Text ← match rest.dropWhile fun d => d = ' ' || d = '\t' with
    | [] => pure (v, places, rest)
    | letter :: after => match unitLetters.idxOf? letter with
      | none => throw (about "invalid suffix in input: " [])
      | some i => do
        if c.source = .none then throw (about "rejecting suffix in input: " " (consider using --from)")
        let marked := c.source = .either && after.head? = some 'i'
        let base := if marked then 1024 else c.source.base
        pure (v * ((Nat.pow base (i + 1) : Nat) : Rat), 0, if marked then after.drop 1 else after)
  let rest ← if c.source ≠ .marked then pure rest
    else match rest with
      | 'i' :: rest => pure rest
      | _ => throw (about "missing 'i' suffix in input: " " (e.g Ki/Mi/Gi)")
  if rest.isEmpty then return (v, places)
  else throw (about "invalid suffix in input " (": " ++ inQuotes rest))

/-! ### Writing -/

/-- A number with places. -/
def fixed (zeros places : Nat) (v : Rat) : Text :=
  let digits := Rounded.fixedText v.num.natAbs v.den places false
  let sign : Text := if v < 0 then ['-'] else []
  sign ++ List.replicate (zeros - sign.length - digits.length) '0' ++ digits

/-- A number divided by a base until it is less than that, and how often it was. -/
def scaled (base : Nat) : Nat → Rat → Nat × Rat
  | 0, v => (0, v)
  | fuel + 1, v =>
    if v < (base : Rat) && -(base : Rat) < v then (0, v)
    else
      let (n, v) := scaled base fuel (v / (base : Rat))
      (n + 1, v)

/-- A number rounded at a place. -/
def roundedAt (side : Side) (places : Nat) (v : Rat) : Rat :=
  let unit : Rat := ((Nat.pow 10 places : Nat) : Rat)
  ((side.round (v * unit) : Int) : Rat) / unit

/-- Is the number less than another one on both sides of zero? -/
def isBelow (limit : Nat) (v : Rat) : Bool := v < (limit : Rat) && -(limit : Rat) < v

/-- A number in the greatest unit that fits. -/
def text (c : Conversion) (places : Nat) (v : Rat) : Text :=
  if c.target = .none then fixed c.form.zeros places (roundedAt c.side places v)
  else
    let base := c.target.base
    let (power, v) := scaled base 100 v
    let adjust := match c.form.places with
      | some n => min (3 * power) n
      | none => if isBelow 10 v then 1 else 0
    let v := roundedAt c.side adjust v
    let (power, v) := if isBelow base v then (power, v) else (power + 1, v / (base : Rat))
    let shown := c.form.places.getD (if v ≠ 0 && isBelow 10 v && 0 < power then 1 else 0)
    let letter : Text := if power = 0 then [] else [unitLetters.getD (power - 1) 'Y']
    fixed c.form.zeros shown v ++ letter ++ (if c.target = .marked && 0 < power then ['i'] else [])

/-- A number with six digits that count. -/
def brief (v : Rat) : Text :=
  (if v < 0 then ['-'] else []) ++ Rounded.generalText 'e' v.num.natAbs v.den 6 false

/-- Why a number cannot be written, if it cannot. -/
def excess? (c : Conversion) (places : Nat) (v : Rat) : Option Text :=
  let (digits, _) := scaled 10 100 v
  let about : Text := "value too large to be printed: '" ++ brief v
  if c.target = .none && 18 < digits + places then
    some (if places = 0 then about ++ "' (consider using --to)"
      else "value/precision too large to be printed: '" ++ brief v ++ '/' :: Text.ofNat places
        ++ "' (consider using --to)")
  else if maxDigits - 1 < digits then some (about ++ "' (cannot handle values > 999Y)")
  else none

/-- What is written for a text in some field of a line, or what is wrong with it. -/
def apply (c : Conversion) (field : Nat) (t : Text) : Except Text Text := do
  let bare :=
    if c.ending.length < t.length && c.ending.isSuffixOf t then t.take (t.length - c.ending.length) else t
  let start := bare.dropWhile fun d => d = ' ' || d = '\t'
  let (v, places) ← c.read start
  let v := v * c.factor
  let places := c.form.places.getD places
  match c.excess? places v with
  | some e => throw e
  | none => do
    let shown := c.text places v ++ c.ending
    let width :=
      if c.keepsRoom then if start.length < bare.length || 1 < field then bare.length else 0 else c.form.width
    return c.form.before ++ (if c.form.left then padRight width shown else padLeft width shown) ++ c.form.after

/-! ### Lines -/

/-- The fields of a line, with the character behind each, if there is one. -/
def fields (delimiter : Option Char) : Nat → Text → List (Text × Bool)
  | 0, _ => []
  | fuel + 1, t =>
    let isBlank (d : Char) : Bool := d = ' ' || d = '\t' || d = '\n'
    let field := match delimiter with
      | some d => t.takeWhile (· ≠ d)
      | none =>
        let blanks := t.takeWhile isBlank
        blanks ++ (t.drop blanks.length).takeWhile (!isBlank ·)
    match t.drop field.length with
    | [] => [(field, false)]
    | _ :: rest => (field, true) :: fields delimiter fuel rest

/-- Change the numbers in a line; tells whether all were numbers. -/
def line (c : Conversion) (delimiter : Option Char) (chosen : Nat → Bool) (t : Text) : Act Bool := do
  let mut good := true
  for ((field, goesOn), i) in (fields delimiter (t.length + 1) t).zipIdx 1 do
    if chosen i then match c.apply i field with
      | .ok shown => say shown
      | .error e => do
        match c.refusal with
        | .abort => giveUp 2 e
        | .ignore => pure ()
        | _ => grumble e
        good := false
        say field
    else say field
    if goesOn then say [delimiter.getD ' ']
  return good

end Conversion

/-! ### Options -/

/-- The integer that a text denotes, perhaps with a sign. -/
def signedNumber? (t : Text) : Option Int :=
  match t.dropWhile fun c => c = ' ' || ('\t' ≤ c && c ≤ '\r') with
  | '-' :: ds => (Text.toNat? ds).map fun n => -(n : Int)
  | '+' :: ds => (Text.toNat? ds).map Int.ofNat
  | ds => (Text.toNat? ds).map Int.ofNat

/-- The form that a format describes, on the base of another one. -/
def NumberForm.ofFormat (base : NumberForm) (t : Text) : Except Text NumberForm := do
  let upTo (t : Text) : Text :=
    let rec go : Text → Text
      | '%' :: '%' :: cs => '%' :: '%' :: go cs
      | '%' :: _ => []
      | c :: cs => c :: go cs
      | [] => []
    go t
  let before := upTo t
  let about : Text := "format " ++ inQuotes t
  if before.length = t.length then throw (about ++ " has no % directive")
  let rest := t.drop (before.length + 1)
  let flags := rest.takeWhile " '0".toList.contains
  let rest := rest.drop flags.length
  let sign := rest.takeWhile fun c => c = '-' || c = '+'
  let digits := (rest.drop sign.length).takeWhile Char.isDigit
  let hasWidth := sign.length ≤ 1 && !digits.isEmpty
  let width := if hasWidth then (Text.toNat? digits).getD 0 else 0
  let rest := if hasWidth then rest.drop (sign.length + digits.length) else rest
  let form := if width = 0 then base
    else if sign = ['-'] then { base with
      width := width
      left := true }
    else if flags.contains '0' then { base with zeros := width }
    else { base with width := width }
  if rest.isEmpty then throw (about ++ " ends in %")
  let (places, rest) : Option Nat × Text ← match rest with
    | '.' :: rest => do
      let digits := rest.takeWhile Char.isDigit
      if rest.head?.any fun c => c = ' ' || c = '\t' || c = '+' || c = '-' then
        throw ("invalid precision in format " ++ inQuotes t)
      pure (some ((Text.toNat? digits).getD 0), rest.drop digits.length)
    | rest => pure (base.places, rest)
  match rest with
  | 'f' :: after => do
    if (upTo after).length ≠ after.length then throw (about ++ " has too many % directives")
    return { form with
      before := before
      after := after
      places := places }
  | _ => throw ("invalid format " ++ inQuotes t ++ ", directive must be %[0]['][-][N][.][N]f")

/-- The number of a unit that an option gives. -/
def unitSize (t : Text) : Act Nat := do
  let digits := t.takeWhile Char.isDigit
  let unit : Option Nat := match t.drop digits.length with
    | [] => some 1
    | [c] => (unitLetters.idxOf? c).map fun i => Nat.pow 1000 (i + 1)
    | [c, 'i'] => (unitLetters.idxOf? c).map fun i => Nat.pow 1024 (i + 1)
    | _ => none
  match if digits.isEmpty then some 1 else Text.toNat? digits, unit with
  | some n, some unit =>
    if n * unit = 0 || maxCount < n * unit then giveUp 1 ("invalid unit size: " ++ inQuotes t) else return n * unit
  | _, _ => giveUp 1 ("invalid unit size: " ++ inQuotes t)

/-- The options of `numfmt`. -/
def numfmtFlags : List Flag :=
  [.wordOnly "debug", .valued 'd' "delimiter", .valuedWord "field", .valuedWord "format", .valuedWord "from",
    .valuedWord "from-unit", .wordOnly "grouping", ⟨none, some "header".toList, .optional⟩, .valuedWord "invalid",
    .valuedWord "padding", .valuedWord "round", .valuedWord "suffix", .valuedWord "to", .valuedWord "to-unit",
    .plain 'z' "zero-terminated"]

/-- The one of several values that an option asks for by its word. -/
def choice {α : Type} (a : Arguments) (option : String) (usual : α) (table : List (String × α)) : Act α := do
  match a.value? option with
  | none => return usual
  | some t => do
    let word ← choose 1 ("--" ++ option) (table.map fun e => [e.1]) t
    return (table.lookup word).getD usual

/-- The conversion that options ask for. -/
def conversionFrom (a : Arguments) : Act Conversion := do
  let units := [("none", Prefixed.none), ("si", .thousands), ("iec", .binary), ("iec-i", .marked)]
  let source ← choice a "from" .none (("none", Prefixed.none) :: ("auto", .either) :: units.drop 1)
  let target ← choice a "to" .none units
  let side ← choice a "round" .fromZero
    [("up", Side.up), ("down", .down), ("from-zero", .fromZero), ("towards-zero", .towardsZero), ("nearest", .nearest)]
  let refusal ← choice a "invalid" .abort
    [("abort", Refusal.abort), ("fail", .fail), ("warn", .warn), ("ignore", .ignore)]
  let sourceUnit ← ((a.value? "from-unit").map unitSize).getD (pure 1)
  let targetUnit ← ((a.value? "to-unit").map unitSize).getD (pure 1)
  let width : Int ← match a.value? "padding" with
    | none => pure 0
    | some t => match signedNumber? t with
      | some 0 => giveUp 1 ("invalid padding value " ++ inQuotes t)
      | some n => pure n
      | none => giveUp 1 ("invalid padding value " ++ inQuotes t)
  let form : NumberForm := ⟨[], [], width.natAbs, width < 0, 0, none⟩
  if (a.value? "format").isSome && a.has "grouping" then giveUp 1 "--grouping cannot be combined with --format"
  if a.has "debug" && source = .none && target = .none && !a.has "grouping" && width = 0 && !a.has "format" then
    grumble "no conversion option specified"
  let form ← match (a.value? "format").map form.ofFormat with
    | none => pure form
    | some (.ok form) => pure form
    | some (.error e) => giveUp 1 e
  if a.has "grouping" then
    if target ≠ .none then giveUp 1 "grouping cannot be combined with --to"
    if a.has "debug" then grumble "grouping has no effect in this locale"
  return {
    source := source
    target := target
    factor := (sourceUnit : Rat) / (targetUnit : Rat)
    side := side
    ending := (a.value? "suffix").getD []
    form := form
    keepsRoom := form.width = 0 && !a.has "d"
    refusal := refusal }

/-- Change numbers to other units. -/
def numfmt : Routine := fun ts => do
  let a ← arguments numfmtFlags true 1 ts
  let delimiter ← match a.value? "d" with
    | none => pure none
    | some [] => pure (some '\x00')
    | some [c] => pure (some c)
    | some _ => giveUp 1 "the delimiter must be a single character"
  let positions ← match a.values "field" with
    | [] => pure [(1, some 1)]
    | [t] => positionsOf true (if t = ['-'] then "1-" else t)
    | _ => giveUp 1 "multiple field specifications"
  let header ← match a.value? "header" with
    | none => pure 0
    | some [] => pure 1
    | some t => match Text.toNat? t with
      | some 0 => giveUp 1 ("invalid header value " ++ inQuotes t)
      | some n => pure n
      | none => giveUp 1 ("invalid header value " ++ inQuotes t)
  let c ← conversionFrom a
  let stop := if a.has "z" then '\x00' else '\n'
  let good ← if a.operands ≠ [] then do
      if a.has "debug" && 0 < header then grumble "--header ignored with command-line input"
      a.operands.mapM fun t => do
        let good ← c.line delimiter (isListed positions) t
        say [stop]
        return good
    else do
      let lines := piecesEndingWith stop (← readAll)
      (lines.take header).forM say
      (lines.drop header).mapM fun l => do
        let bare := withoutEnd stop l
        let good ← c.line delimiter (isListed positions) bare
        if bare.length < l.length then say [stop]
        return good
  if good.all (fun b => b) then return 0
  if a.has "debug" then grumble "failed to convert some of the input numbers"
  return if c.refusal = .warn || c.refusal = .ignore then 0 else 2

end Rollout.Program
