import Rollout.Machine.Calendar.Basic

/-!
Moments as text. A format is copied, but a percent sign and a letter stand for a part of the date or of the clock;
between them may stand how the part is filled up, and how wide it is at least.
-/

namespace Rollout.Calendar

/-- The names of the days of the week. -/
def dayNames : List Text :=
  ["Sunday", "Monday", "Tuesday", "Wednesday", "Thursday", "Friday", "Saturday"].map String.toList

/-- The names of the months. -/
def monthNames : List Text :=
  ["January", "February", "March", "April", "May", "June", "July", "August", "September", "October", "November",
    "December"].map String.toList

/-- How a part is written. -/
structure Manner where
  /-- What it is filled up with, if that is not what is usual: nothing, blanks or zeros. -/
  fill : Option Char
  /-- Are its letters great? -/
  upper : Bool
  /-- Are its letters of the other case? -/
  swapped : Bool
  /-- How wide it is at least. -/
  width : Option Nat
  /-- The number of colons in front of the letter. -/
  colons : Nat

namespace Manner

/-- The usual manner. -/
def usual : Manner := ⟨none, false, false, none, 0⟩

/-- A number, usually filled up with a character to a width. -/
def number (m : Manner) (fill : Char) (width : Nat) (n : Int) : Text :=
  let digits := Text.ofNat n.natAbs
  let sign : Text := if n < 0 then ['-'] else []
  match m.fill.getD fill with
  | '-' => sign ++ digits
  | c =>
    let gap := (m.width.getD width) - digits.length - sign.length
    if c = '_' || c = ' ' then List.replicate gap ' ' ++ sign ++ digits
    else sign ++ List.replicate gap '0' ++ digits

/-- A word, of which the other case is the given one. -/
def word (m : Manner) (other : Char → Char) (t : Text) : Text :=
  let cased := if m.upper then t.map Char.toUpper else if m.swapped then t.map other else t
  let gap := (m.width.getD 0) - cased.length
  if m.fill = some '-' then cased
  else List.replicate gap (if m.fill = some '0' then '0' else ' ') ++ cased

end Manner

/-- The flags, the width and the colons in front of a letter, and the rest. -/
def readManner : Manner → Text → Manner × Text
  | m, [] => (m, [])
  | m, c :: cs =>
    if m.width.isNone && (c = '-' || c = '_' || c = '0') then readManner { m with fill := some c } cs
    else if c = '+' then readManner { m with fill := some '0' } cs
    else if c = '^' then readManner { m with upper := true } cs
    else if c = '#' then readManner { m with swapped := true } cs
    else if c.isDigit then readManner { m with width := some (10 * m.width.getD 0 + (c.toNat - '0'.toNat)) } cs
    else if c = ':' then readManner { m with colons := m.colons + 1 } cs
    else if c = 'E' || c = 'O' then readManner m cs
    else (m, c :: cs)

/-- How far a zone is ahead, with so many colons. -/
def aheadText (m : Manner) (ahead : Int) : Text :=
  let n := ahead.natAbs
  let two (k : Nat) : Text := List.replicate (2 - (Text.ofNat k).length) '0' ++ Text.ofNat k
  let sign : Text := if ahead < 0 then ['-'] else ['+']
  let (hours, minutes, seconds) := (two (n / 3600), two (n / 60 % 60), two (n % 60))
  sign ++ match m.colons with
    | 0 => hours ++ minutes
    | 1 => hours ++ ':' :: minutes
    | 2 => hours ++ ':' :: minutes ++ ':' :: seconds
    | _ =>
      if n % 60 ≠ 0 then hours ++ ':' :: minutes ++ ':' :: seconds
      else if n / 60 % 60 ≠ 0 then hours ++ ':' :: minutes
      else hours

/-- The nanoseconds, or their first digits. -/
def fractionText (m : Manner) (nanos : Nat) : Text :=
  let digits := List.replicate (9 - (Text.ofNat nanos).length) '0' ++ Text.ofNat nanos
  let shown := digits.take (m.width.getD 9)
  if m.fill = some '-' then
    match (shown.reverse.dropWhile (· = '0')).reverse with
    | [] => ['0']
    | t => t
  else shown ++ List.replicate (m.width.getD 9 - 9) '0'

/-- The format that a letter stands for. -/
def compound? (letter : Char) : Option Text :=
  match letter with
  | 'c' => some "%a %b %e %H:%M:%S %Y"
  | 'D' => some "%m/%d/%y"
  | 'x' => some "%m/%d/%y"
  | 'F' => some "%Y-%m-%d"
  | 'r' => some "%I:%M:%S %p"
  | 'R' => some "%H:%M"
  | 'T' => some "%H:%M:%S"
  | 'X' => some "%H:%M:%S"
  | _ => none

/-- The part that a letter stands for. -/
def part? (r : Reading) (m : Manner) (letter : Char) : Option Text :=
  let half := if r.hour % 12 = 0 then 12 else r.hour % 12
  let dayName := dayNames.getD r.date.weekday []
  let monthName := monthNames.getD (r.date.month - 1) []
  let ofYear := r.date.ofYear - 1
  let noon : Text := if r.hour < 12 then "AM" else "PM"
  match letter with
  | '%' => some (m.word id ['%'])
  | 'n' => some (m.word id ['\n'])
  | 't' => some (m.word id ['\t'])
  | 'a' => some (m.word Char.toUpper (dayName.take 3))
  | 'A' => some (m.word Char.toUpper dayName)
  | 'b' => some (m.word Char.toUpper (monthName.take 3))
  | 'h' => some (m.word Char.toUpper (monthName.take 3))
  | 'B' => some (m.word Char.toUpper monthName)
  | 'C' => some (m.number '0' 2 (r.date.year / 100))
  | 'd' => some (m.number '0' 2 r.date.day)
  | 'e' => some (m.number '_' 2 r.date.day)
  | 'g' => some (m.number '0' 2 (r.date.week.1 % 100))
  | 'G' => some (m.number '0' 4 r.date.week.1)
  | 'H' => some (m.number '0' 2 r.hour)
  | 'I' => some (m.number '0' 2 half)
  | 'j' => some (m.number '0' 3 r.date.ofYear)
  | 'k' => some (m.number '_' 2 r.hour)
  | 'l' => some (m.number '_' 2 half)
  | 'm' => some (m.number '0' 2 r.date.month)
  | 'M' => some (m.number '0' 2 r.minute)
  | 'N' => some (fractionText m r.nanos)
  | 'p' => some (m.word Char.toLower noon)
  | 'P' => some (m.word id (noon.map Char.toLower))
  | 'q' => some (m.number '0' 1 ((r.date.month - 1) / 3 + 1 : Nat))
  | 's' => some (m.number '0' 1 (r.moment / second))
  | 'S' => some (m.number '0' 2 r.seconds)
  | 'u' => some (m.number '0' 1 (if r.date.weekday = 0 then 7 else r.date.weekday : Nat))
  | 'U' => some (m.number '0' 2 ((ofYear + 7 - r.date.weekday) / 7 : Nat))
  | 'V' => some (m.number '0' 2 r.date.week.2)
  | 'w' => some (m.number '0' 1 r.date.weekday)
  | 'W' => some (m.number '0' 2 ((ofYear + 7 - (r.date.weekday + 6) % 7) / 7 : Nat))
  | 'y' => some (m.number '0' 2 (r.date.year % 100))
  | 'Y' => some (m.number '0' 4 r.date.year)
  | 'z' => some (m.word id (aheadText m r.zone.ahead))
  | 'Z' => some (m.word Char.toLower r.zone.name)
  | _ => none

/-- The text that a format makes of a moment; the depth bounds formats inside of each other. -/
def formatWithin (r : Reading) : Nat → Nat → Text → Text
  | _, 0, _ => []
  | 0, _, _ => []
  | _, _, [] => []
  | depth + 1, fuel + 1, '%' :: cs =>
    let (m, rest) := readManner .usual cs
    match rest with
    | [] => '%' :: cs
    | letter :: rest =>
      let shown := match part? r m letter, compound? letter with
        | some t, _ => t
        | none, some format => m.word id (formatWithin r depth (format.length + 1) format)
        | none, none => '%' :: cs.take (cs.length - rest.length)
      shown ++ formatWithin r (depth + 1) fuel rest
  | depth + 1, fuel + 1, c :: cs => c :: formatWithin r (depth + 1) fuel cs

/-- The text that a format makes of a moment. -/
def format (r : Reading) (t : Text) : Text := formatWithin r 3 (t.length + 1) t

end Rollout.Calendar
