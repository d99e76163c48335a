import Rollout.Text.Basic

/-!
The calendar: days that are counted from the first one of the year 1970, their dates, and the clock of a zone. A
moment is counted in nanoseconds since the start of that day.
-/

namespace Rollout.Calendar

/-- A day of a month of a year. -/
structure Date where
  /-- The year, of which 0 comes before 1. -/
  year : Int
  /-- The month, from 1 to 12. -/
  month : Nat
  /-- The day of the month, from 1 on. -/
  day : Nat
  deriving DecidableEq

/-- Has the year a day more than others? -/
def isLeap (year : Int) : Bool := year % 4 = 0 && (year % 100 ≠ 0 || year % 400 = 0)

/-- The number of days of a month. -/
def daysIn (year : Int) (month : Nat) : Nat :=
  if month = 2 then (if isLeap year then 29 else 28)
  else if month = 4 || month = 6 || month = 9 || month = 11 then 30
  else 31

namespace Date

/-- The number of a date, where years start in March, so that the day that may be missing comes last. -/
def number (d : Date) : Int :=
  let year := if d.month ≤ 2 then d.year - 1 else d.year
  let era := year / 400
  let ofEra := year - era * 400
  let month : Int := (d.month + 9) % 12
  let ofYear := (153 * month + 2) / 5 + d.day - 1
  era * 146097 + ofEra * 365 + ofEra / 4 - ofEra / 100 + ofYear - 719468

/-- The date with a number. -/
def ofNumber (n : Int) : Date :=
  let z := n + 719468
  let era := z / 146097
  let ofEra := z - era * 146097
  let yearOfEra := (ofEra - ofEra / 1460 + ofEra / 36524 - ofEra / 146096) / 365
  let ofYear := ofEra - (365 * yearOfEra + yearOfEra / 4 - yearOfEra / 100)
  let fromMarch := (5 * ofYear + 2) / 153
  let day := ofYear - (153 * fromMarch + 2) / 5 + 1
  let month := if fromMarch < 10 then fromMarch + 3 else fromMarch - 9
  let year := yearOfEra + era * 400
  ⟨if month ≤ 2 then year + 1 else year, month.toNat, day.toNat⟩

/-- The day of the week, from Sunday on. -/
def weekday (d : Date) : Nat := ((d.number + 4) % 7).toNat

/-- The day of the year, from 1 on. -/
def ofYear (d : Date) : Nat := (d.number - (Date.mk d.year 1 1).number + 1).toNat

/-- The year and the number of a week: weeks start on Mondays, and the first one of a year has its fourth day. -/
def week (d : Date) : Int × Nat :=
  let fromMonday : Int := (d.weekday + 6) % 7
  let thursday := ofNumber (d.number - fromMonday + 3)
  (thursday.year, (thursday.ofYear - 1) / 7 + 1)

example : (Date.mk 1970 1 1).number = 0 ∧ ofNumber 0 = ⟨1970, 1, 1⟩ ∧ (Date.mk 1970 1 1).weekday = 4 := by decide

end Date

/-! ### Clocks -/

/-- A zone: what it is called, and how many seconds its clocks are ahead. -/
structure Zone where
  /-- Its name. -/
  name : Text
  /-- The seconds. -/
  ahead : Int

/-- The zone of the clocks that are not ahead. -/
def Zone.universal : Zone := ⟨"UTC", 0⟩

/-- The seconds that hours, minutes and seconds between colons stand for. -/
def clockSeconds? (t : Text) : Option Nat :=
  match (Text.split ':' t).mapM Text.toNat? with
  | some [h] => some (3600 * h)
  | some [h, m] => some (3600 * h + 60 * m)
  | some [h, m, s] => some (3600 * h + 60 * m + s)
  | _ => none

/-- The zone that a text describes: a name, and how far its clocks are behind; one that is not known has clocks that
are not ahead. -/
def Zone.ofText (t : Text) : Zone :=
  let name := t.takeWhile Char.isAlpha
  let rest := t.drop name.length
  let (sign, digits) : Int × Text := match rest with
    | '-' :: ds => (1, ds)
    | '+' :: ds => (-1, ds)
    | ds => (-1, ds)
  let behind := digits.takeWhile fun c => c.isDigit || c = ':'
  if t = [] then universal
  else if name.length < 3 then universal
  else match clockSeconds? behind with
    | some n => ⟨name, sign * n⟩
    | none => ⟨name, 0⟩

/-- The number of nanoseconds of a second. -/
def second : Int := 1000000000

/-- A moment as a calendar and a clock of a zone show it. -/
structure Reading where
  /-- The zone. -/
  zone : Zone
  /-- The date. -/
  date : Date
  /-- The hour. -/
  hour : Nat
  /-- The minute. -/
  minute : Nat
  /-- The second. -/
  seconds : Nat
  /-- The nanosecond. -/
  nanos : Nat

namespace Reading

/-- What a calendar and a clock of a zone show. -/
def ofMoment (zone : Zone) (moment : Int) : Reading :=
  let total := moment / second + zone.ahead
  let ofDay := (total % 86400).toNat
  ⟨zone, .ofNumber (total / 86400), ofDay / 3600, ofDay / 60 % 60, ofDay % 60, (moment % second).toNat⟩

/-- The moment that a calendar and a clock show. -/
def moment (r : Reading) : Int :=
  (r.date.number * 86400 + (3600 * r.hour + 60 * r.minute + r.seconds : Nat) - r.zone.ahead) * second + r.nanos

end Reading

end Rollout.Calendar
