import Rollout.Machine.Calendar.Format

/-!
Moments that people describe: a date, a time, a zone and a day of the week in any order, and shifts relative to them,
each at most once but for the shifts. What is not described is as it is now, but the clock is at the start of the day
if only a date is described.
-/

namespace Rollout.Calendar

/-! ### Words -/

/-- A piece of a description. -/
inductive Piece
  /-- A number, perhaps with a sign, its digits and those after a point. -/
  | number (sign : Option Bool) (value : Nat) (digits : Nat) (fraction : Option Text)
  /-- A word in small letters. -/
  | word (t : Text)
  /-- Another character. -/
  | mark (c : Char)
  deriving DecidableEq

/-- What a text is made of. -/
def pieces : Nat → Text → List Piece
  | 0, _ => []
  | _, [] => []
  | fuel + 1, c :: cs =>
    let isBlank (c : Char) : Bool := c = ' ' || c = '\t' || c = '\n' || c = '\r'
    let number (sign : Option Bool) (t : Text) : List Piece :=
      let ds := t.takeWhile Char.isDigit
      let value := (Text.toNat? ds).getD 0
      match t.drop ds.length with
      | mark :: d :: rest =>
        if (mark = '.' || mark = ',') && d.isDigit then
          let fs := (d :: rest).takeWhile Char.isDigit
          .number sign value ds.length (some fs) :: pieces fuel ((d :: rest).drop fs.length)
        else .number sign value ds.length none :: pieces fuel (mark :: d :: rest)
      | rest => .number sign value ds.length none :: pieces fuel rest
    if isBlank c then pieces fuel cs
    else if c.isDigit then number none (c :: cs)
    else if c = '-' || c = '+' then
      let after := cs.dropWhile isBlank
      if after.head?.any Char.isDigit then number (some (c = '-')) after else .mark c :: pieces fuel cs
    else if c.isAlpha then
      let w := (c :: cs).takeWhile fun c => c.isAlpha || c = '.'
      .word ((w.filter (· ≠ '.')).map Char.toLower) :: pieces fuel ((c :: cs).drop w.length)
    else if c = '(' then pieces fuel ((cs.dropWhile (· ≠ ')')).drop 1)
    else .mark c :: pieces fuel cs

/-- The place of a name that a word is, whole or its first three letters, from 0 on. -/
def nameIndex? (names : List Text) (w : Text) : Option Nat :=
  names.findIdx? fun n => n.map Char.toLower = w || (n.take 3).map Char.toLower = w

/-- The month that a word names. -/
def month? (w : Text) : Option Nat :=
  if w = "sept".toList then some 9 else (nameIndex? monthNames w).map (· + 1)

/-- The day of the week that a word names. -/
def weekday? (w : Text) : Option Nat :=
  match String.ofList w with
  | "tues" => some 2
  | "wednes" => some 3
  | "thur" => some 4
  | "thurs" => some 4
  | _ => nameIndex? dayNames w

/-- A unit of time. -/
inductive Span
  | years (n : Int)
  | months (n : Int)
  | days (n : Int)
  | seconds (n : Int)

/-- So many times a unit. -/
def Span.times (k : Int) : Span → Span
  | .years n => .years (k * n)
  | .months n => .months (k * n)
  | .days n => .days (k * n)
  | .seconds n => .seconds (k * n)

/-- The unit that a word names, in the singular or in the plural. -/
def unit? (w : Text) : Option Span :=
  let single := if w.getLast? = some 's' then w.dropLast else w
  match String.ofList single with
  | "year" => some (.years 1)
  | "month" => some (.months 1)
  | "fortnight" => some (.days 14)
  | "week" => some (.days 7)
  | "day" => some (.days 1)
  | "hour" => some (.seconds 3600)
  | "minute" => some (.seconds 60)
  | "min" => some (.seconds 60)
  | "second" => some (.seconds 1)
  | "sec" => some (.seconds 1)
  | _ => none

/-- The number that a word stands for in front of a unit. -/
def ordinal? (w : Text) : Option Int :=
  match String.ofList w with
  | "last" => some (-1)
  | "this" => some 0
  | "next" => some 1
  | _ => (["first", "-", "third", "fourth", "fifth", "sixth", "seventh", "eighth", "ninth", "tenth", "eleventh",
      "twelfth"].findIdx? (·.toList = w)).map fun i => (i : Int) + 1

/-- How many days a word shifts the date. -/
def shift? (w : Text) : Option Int :=
  match String.ofList w with
  | "tomorrow" => some 1
  | "yesterday" => some (-1)
  | "today" => some 0
  | "now" => some 0
  | _ => none

/-- How many seconds the clocks of a zone that a word names are ahead. -/
def zone? (w : Text) : Option Int :=
  let known : List (String × Int) := [("gmt", 0), ("ut", 0), ("utc", 0), ("wet", 0), ("west", 1), ("bst", 1), ("art", -3),
    ("brt", -3), ("brst", -2), ("ast", -4), ("adt", -3), ("clt", -4), ("clst", -3), ("est", -5), ("edt", -4),
    ("cst", -6), ("cdt", -5), ("mst", -7), ("mdt", -6), ("pst", -8), ("pdt", -7), ("akst", -9), ("akdt", -8),
    ("hst", -10), ("cet", 1), ("cest", 2), ("mez", 1), ("mesz", 2), ("eet", 2), ("eest", 3), ("cat", 2), ("sast", 2),
    ("eat", 3), ("msk", 3), ("msd", 4), ("sgt", 8), ("kst", 9), ("jst", 9), ("nzst", 12), ("nzdt", 13), ("z", 0)]
  ((known.find? (·.1.toList = w)).map (·.2 * 3600)).or (match w with
    | [c] =>
      if 'a' ≤ c && c ≤ 'i' then some (3600 * ((c.toNat - 'a'.toNat + 1 : Nat) : Int))
      else if 'k' ≤ c && c ≤ 'm' then some (3600 * ((c.toNat - 'a'.toNat : Nat) : Int))
      else if 'n' ≤ c && c ≤ 'y' && c ≠ 't' then some (-3600 * ((c.toNat - 'm'.toNat : Nat) : Int))
      else none
    | _ => none)

/-! ### Descriptions -/

/-- What has been described. -/
structure Draft where
  /-- The year, with the number of its digits. -/
  year : Option (Int × Nat)
  /-- The month and the day. -/
  day : Option (Nat × Nat)
  /-- The hour, the minute, the second and the nanosecond. -/
  time : Option (Nat × Nat × Nat × Nat)
  /-- The zone. -/
  ahead : Option Int
  /-- The day of the week, and which of them. -/
  weekday : Option (Nat × Int)
  /-- The shifts. -/
  shifts : List Span

namespace Draft

/-- Nothing has been described. -/
def empty : Draft := ⟨none, none, none, none, none, []⟩

/-- With a date. -/
def withDate (d : Draft) (year : Option (Int × Nat)) (month day : Nat) : Option Draft :=
  if d.day.isSome then none else some { d with
    year := year
    day := some (month, day) }

/-- With a time. -/
def withTime (d : Draft) (hour minute second nanos : Nat) : Option Draft :=
  if d.time.isSome || 23 < hour || 59 < minute || 60 < second then none
  else some { d with time := some (hour, minute, second, nanos) }

/-- With a zone. -/
def withZone (d : Draft) (ahead : Int) : Option Draft :=
  if d.ahead.isSome then none else some { d with ahead := some ahead }

/-- With a shift. -/
def shifted (d : Draft) (s : Span) : Draft := { d with shifts := d.shifts ++ [s] }

end Draft

/-- The hour of a day that an hour before or after noon is. -/
def hourOf? (hour : Nat) (afternoon : Option Bool) : Option Nat :=
  match afternoon with
  | none => some hour
  | some late =>
    if hour = 0 || 12 < hour then none
    else some ((if hour = 12 then 0 else hour) + if late then 12 else 0)

/-- Whether a word says that an hour is before or after noon. -/
def half? : Piece → Option Bool
  | .word ['a', 'm'] => some false
  | .word ['p', 'm'] => some true
  | _ => none

/-- The nanoseconds that the digits after a point stand for. -/
def nanosOf (fraction : Text) : Nat :=
  (Text.toNat? ((fraction ++ List.replicate 9 '0').take 9)).getD 0

/-- The seconds that a number with a sign stands for as a zone, perhaps with minutes of its own. -/
def offset? (negative : Bool) (value digits : Nat) (minutes : Option Nat) : Option Int :=
  let total := match minutes with
    | some m => value * 60 + m
    | none => if digits ≤ 2 then value * 60 else value / 100 * 60 + value % 100
  if 24 * 60 < total then none else some (60 * (if negative then -(total : Int) else total))

/-- What is described by a number alone: a year, a date, or a time. -/
def bareNumber (d : Draft) (value digits : Nat) : Option Draft :=
  if d.day.isSome && d.year.isNone && d.shifts.isEmpty && (d.time.isSome || 2 < digits) then
    some { d with year := some (value, digits) }
  else if 4 < digits then d.withDate (some (value / 10000, digits - 4)) (value / 100 % 100) (value % 100)
  else if digits ≤ 2 then d.withTime value 0 0 0
  else d.withTime (value / 100) (value % 100) 0 0

/-- What comes after a time: the half of the day, or a zone. -/
def afterTime (d : Draft) (hour minute second nanos : Nat) : List Piece → Option (Draft × List Piece)
  | .number (some negative) value digits none :: .mark ':' :: .number none m _ none :: rest => do
    let d ← d.withTime hour minute second nanos
    return (← d.withZone (← offset? negative value digits (some m)), rest)
  | .number (some negative) value digits none :: rest => do
    let d ← d.withTime hour minute second nanos
    return (← d.withZone (← offset? negative value digits none), rest)
  | p :: rest => match half? p with
    | some late => do return (← d.withTime (← hourOf? hour (some late)) minute second nanos, rest)
    | none => do return (← d.withTime hour minute second nanos, p :: rest)
  | [] => do return (← d.withTime hour minute second nanos, [])

/-- A shift, which may be turned around by the word after it. -/
def withShift (d : Draft) (s : Span) : List Piece → Draft × List Piece
  | .word w :: rest =>
    if w = "ago".toList then (d.shifted (s.times (-1)), rest)
    else if w = "hence".toList then (d.shifted s, rest)
    else (d.shifted s, .word w :: rest)
  | rest => (d.shifted s, rest)

/-- The next thing that pieces describe. -/
def describe (d : Draft) : List Piece → Option (Draft × List Piece)
  | [] => none
  -- times
  | .number none h _ none :: .mark ':' :: .number none m _ none :: .mark ':' :: .number none s _ fraction :: rest =>
    afterTime d h m s ((fraction.map nanosOf).getD 0) rest
  | .number none h _ none :: .mark ':' :: .number none m _ none :: rest => afterTime d h m 0 0 rest
  -- dates
  | .number none a n none :: .mark '/' :: .number none b _ none :: .mark '/' :: .number none c k none :: rest =>
    if 4 ≤ n then do return (← d.withDate (some (a, n)) b c, rest)
    else do return (← d.withDate (some (c, k)) a b, rest)
  | .number none a _ none :: .mark '/' :: .number none b _ none :: rest => do return (← d.withDate none a b, rest)
  | .number none y n none :: .number (some true) m _ none :: .number (some true) day _ none :: rest => do
    return (← d.withDate (some (y, n)) m day, match rest with
      | .word ['t'] :: rest => rest
      | rest => rest)
  | .number none value digits none :: .word w :: rest =>
    match half? (.word w), month? w, unit? w, weekday? w with
    | some late, _, _, _ => do return (← d.withTime (← hourOf? value (some late)) 0 0 0, rest)
    | none, some m, _, _ => match rest with
      | .number (some true) y n none :: rest => do return (← d.withDate (some (y, n)) m value, rest)
      | .number none y n none :: .mark ':' :: more => do
        return (← d.withDate none m value, .number none y n none :: .mark ':' :: more)
      | .number none y n none :: rest => do return (← d.withDate (some (y, n)) m value, rest)
      | rest => do return (← d.withDate none m value, rest)
    | none, none, some u, _ => some (withShift d (u.times value) rest)
    | none, none, none, some k =>
      if d.weekday.isSome then none else some ({ d with weekday := some (k, (value : Int)) }, rest)
    | none, none, none, none => do return (← bareNumber d value digits, .word w :: rest)
  | .number none value digits none :: rest => do return (← bareNumber d value digits, rest)
  | .number (some negative) value _ none :: .word w :: rest => do
    return withShift d ((← unit? w).times (if negative then -(value : Int) else value)) rest
  | .word w :: rest =>
    match month? w, weekday? w, ordinal? w, shift? w with
    | some m, _, _, _ => match rest with
      | .number (some true) day _ none :: .number (some true) y n none :: rest => do
        return (← d.withDate (some (y, n)) m day, rest)
      | .number none day _ none :: .mark ',' :: .number none y n none :: rest => do
        return (← d.withDate (some (y, n)) m day, rest)
      | .number none day _ none :: rest => do return (← d.withDate none m day, rest)
      | _ => none
    | none, some k, _, _ =>
      if d.weekday.isSome then none
      else some ({ d with weekday := some (k, 0) }, if rest.head? = some (.mark ',') then rest.drop 1 else rest)
    | none, none, some n, _ => match rest with
      | .word u :: rest => match unit? u, weekday? u with
        | some s, _ => some (withShift d (s.times n) rest)
        | none, some k => if d.weekday.isSome then none else some ({ d with weekday := some (k, n) }, rest)
        | none, none => none
      | _ => none
    | none, none, none, some n => some (if n = 0 then d.shifted (.days 0) else d.shifted (.days n), rest)
    | none, none, none, none => match unit? w, zone? w with
      | some s, _ => some (withShift d s rest)
      | none, some z => match rest with
        | .number (some negative) value digits none :: rest => do
          return (← d.withZone (z + (← offset? negative value digits none)), rest)
        | rest => do return (← d.withZone z, rest)
      | none, none => none
  | _ => none

/-- Everything that pieces describe. -/
def describeAll : Nat → Draft → List Piece → Option Draft
  | 0, _, _ => none
  | _, d, [] => some d
  | fuel + 1, d, ps => (describe d ps).bind fun (d, rest) => describeAll fuel d rest

/-- The year that digits stand for: two of them stand for one near to the year 2000. -/
def fullYear (year : Int) (digits : Nat) : Int :=
  if digits = 2 then (if year < 69 then year + 2000 else year + 1900) else year

/-- The moment that a draft describes at a time. -/
def Draft.moment? (d : Draft) (zone : Zone) (now : Int) : Option Int :=
  let zone : Zone := match d.ahead with
    | some n => ⟨[], n⟩
    | none => zone
  let today := Reading.ofMoment zone now
  let year := match d.year with
    | some (y, n) => fullYear y n
    | none => today.date.year
  let (month, day) := d.day.getD (today.date.month, today.date.day)
  let isRelative := !d.shifts.isEmpty && d.day.isNone && d.weekday.isNone
  let (hour, minute, seconds, nanos) := match d.time with
    | some t => t
    | none => if isRelative then (today.hour, today.minute, today.seconds, today.nanos) else (0, 0, 0, 0)
  if d.day.isSome && (month < 1 || 12 < month || day < 1 || daysIn year month < day) then none
  else
    let start : Date := ⟨year, month, day⟩
    let toWeekday : Int := match d.weekday with
      | some (k, n) =>
        if d.day.isSome then 0
        else ((k : Int) - start.weekday + 7) % 7 + 7 * (n - if 0 < n && start.weekday ≠ k then 1 else 0)
      | none => 0
    let total (f : Span → Int) : Int := (d.shifts.map f).foldl (· + ·) 0
    let months := 12 * (year + total fun | .years n => n | _ => 0) + ((month : Int) - 1)
      + total fun | .months n => n | _ => 0
    let moved : Date := ⟨months / 12, (months % 12).toNat + 1, day⟩
    let days := moved.number + toWeekday + total fun | .days n => n | _ => 0
    let r : Reading := ⟨zone, .ofNumber days, hour, minute, seconds, nanos⟩
    some (r.moment + second * total fun | .seconds n => n | _ => 0)

/-- The moment that seconds since the start of the calendar stand for. -/
def ofSeconds? (t : Text) : Option Int :=
  let (negative, t) := match t.dropWhile (· = ' ') with
    | '-' :: ds => (true, ds)
    | '+' :: ds => (false, ds)
    | ds => (false, ds)
  let ds := t.takeWhile Char.isDigit
  let signed (n : Int) : Int := if negative then -n else n
  match Text.toNat? ds, t.drop ds.length with
  | some n, [] => some (signed (second * n))
  | some n, '.' :: fs =>
    if fs ≠ [] && fs.all Char.isDigit then some (signed (second * n + nanosOf fs)) else none
  | _, _ => none

/-- The moment that a text describes at a time in a zone. -/
def parse (zone : Zone) (now : Int) (t : Text) : Option Int :=
  match t.dropWhile fun c => c = ' ' || c = '\t' || c = '\n' with
  | '@' :: t => ofSeconds? t
  | t =>
    let ps := pieces (t.length + 1) t
    (describeAll (ps.length + 1) .empty ps).bind fun d => d.moment? zone now

/-- The moment that digits stand for: the month, the day, the hour and the minute, perhaps after the year, and with the
second after a point. -/
def ofDigits? (zone : Zone) (now : Int) (t : Text) : Option Int :=
  let ds := t.takeWhile (· ≠ '.')
  let seconds := match t.drop ds.length with
    | [] => some 0
    | '.' :: s => if s.length = 2 then Text.toNat? s else none
    | _ => none
  let two (i : Nat) : Nat := (Text.toNat? ((ds.drop i).take 2)).getD 0
  let made (year : Int) (i : Nat) : Option Int := do
    let s ← seconds
    let (month, day, hour, minute) := (two i, two (i + 2), two (i + 4), two (i + 6))
    if month < 1 || 12 < month || day < 1 || daysIn year month < day || 23 < hour || 59 < minute || 60 < s then none
    else some (Reading.mk zone ⟨year, month, day⟩ hour minute s 0).moment
  if !ds.all Char.isDigit then none
  else if ds.length = 8 then made (Reading.ofMoment zone now).date.year 0
  else if ds.length = 10 then made (fullYear (two 0) 2) 2
  else if ds.length = 12 then made ((100 * two 0 + two 2 : Nat) : Int) 4
  else none

end Rollout.Calendar
