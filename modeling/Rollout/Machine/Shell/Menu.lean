import Rollout.Machine.Shell.Builtin.Reading

/-!
Menus: words with numbers in columns, from which the standard input chooses; and how long a command has taken, as it is
told.
-/

namespace Rollout.Shell

/-! ### Menus -/

/-- The width of what menus are shown on, unless a variable tells it. -/
def usualWidth : Nat := 80

/-- How far tabs are set. -/
def tabWidth : Nat := 8

/-- The blanks that lead from a column to another one. -/
def blanksTo : Nat → Nat → Nat → Text
  | 0, _, _ => []
  | fuel + 1, start, goal =>
    if goal ≤ start then []
    else if start / tabWidth < goal / tabWidth then
      '\t' :: blanksTo fuel (start + (tabWidth - start % tabWidth)) goal
    else ' ' :: blanksTo fuel (start + 1) goal

/-- Words with their numbers in columns, for a width. -/
def menuLines (width : Nat) (items : List Text) : Text :=
  let count := items.length
  let digits (n : Nat) : Nat := (Text.ofNat n).length
  let longest := items.foldl (fun n t => max n t.length) 0 + digits count + 2 + 2
  let columns := max (width / longest) 1
  let rows := (count + columns - 1) / columns
  let columns := (count + rows - 1) / rows
  let rows := if rows = 1 then columns else rows
  let row (r : Nat) : Text :=
    let places := (List.range ((count - r + rows - 1) / rows)).map fun k => (k, r + k * rows)
    places.flatMap fun (k, i) =>
      let numberWidth := if k = 0 then digits rows else digits count
      let number := Text.ofNat (i + 1)
      let item := (items[i]?).getD []
      let shown := List.replicate (numberWidth - number.length) ' ' ++ number ++ ')' :: ' ' :: item
      let column := k * longest
      shown ++ if i + rows < count then
        blanksTo longest (column + item.length + numberWidth + 2) (column + longest)
      else []
  (List.range rows).flatMap fun r => row r ++ ['\n']

/-- Let a word be chosen from a menu, which may be shown first; an answer that is no number stands for the empty text,
and the end of the input for nothing. -/
def chooseFrom (items : List Text) (shows : Bool) : Nat → Action (Option Text)
  | 0 => return none
  | fuel + 1 => do
    let s ← get
    let width := ((s.value? "COLUMNS").bind Text.toNat?).getD usualWidth
    Unix.flush
    if shows then Unix.write 2 (menuLines width items)
    Unix.write 2 ((s.value? "PS3").getD "#? ")
    if (← Builtin.read []) ≠ 0 then do
      Unix.say ['\n']
      Unix.flush
      return none
    else do
      let reply := ((← get).value? "REPLY").getD []
      if reply = [] then chooseFrom items true fuel
      else return match Condition.integer? reply with
        | some n => some (if n < 1 then [] else (items[n.toNat - 1]?).getD [])
        | none => some []

/-! ### Times -/

/-- How times are told by themselves. -/
def timeFormat : Text := "\nreal\t%3lR\nuser\t%3lU\nsys\t%3lS"

/-- How times are told in the older form. -/
def olderTimeFormat : Text := "real %2R\nuser %2U\nsys %2S"

/-- A time in seconds with so many places, perhaps with minutes. -/
def timeText (places : Nat) (long : Bool) (micros : Nat) : Text :=
  let unit := Nat.pow 10 (6 - places)
  let parts := micros / unit
  let seconds := parts / Nat.pow 10 places
  let rest := Text.ofNat (parts % Nat.pow 10 places)
  let fraction : Text := if places = 0 then [] else '.' :: List.replicate (places - rest.length) '0' ++ rest
  if long then Text.ofNat (seconds / 60) ++ 'm' :: Text.ofNat (seconds % 60) ++ fraction ++ ['s']
  else Text.ofNat seconds ++ fraction

/-- A text in which signs stand for times, with the time that has passed; the character of a sign that is none is an
error. -/
def timesIn (real : Nat) : Nat → Text → Except Char Text
  | 0, _ => .ok []
  | _, [] => .ok []
  | fuel + 1, '%' :: '%' :: cs => ('%' :: ·) <$> timesIn real fuel cs
  | fuel + 1, '%' :: 'P' :: cs => ("0.00".toList ++ ·) <$> timesIn real fuel cs
  | fuel + 1, '%' :: cs =>
    let (places, cs) := match cs with
      | c :: rest => if c.isDigit then (min (c.toNat - '0'.toNat) 3, rest) else (3, cs)
      | [] => (3, [])
    let (long, cs) := match cs with
      | 'l' :: rest => (true, rest)
      | cs => (false, cs)
    match cs with
    | 'R' :: rest => (timeText places long real ++ ·) <$> timesIn real fuel rest
    | 'U' :: rest => (timeText places long 0 ++ ·) <$> timesIn real fuel rest
    | 'S' :: rest => (timeText places long 0 ++ ·) <$> timesIn real fuel rest
    | c :: _ => .error c
    | [] => .ok ['%']
  | fuel + 1, c :: cs => (c :: ·) <$> timesIn real fuel cs

/-- Tell how long something has taken, in microseconds. -/
def tellTime (older : Bool) (real : Nat) : Action Unit := do
  let s ← get
  let format := if older then olderTimeFormat else (s.value? "TIMEFORMAT").getD timeFormat
  if format ≠ [] then
    Unix.flush
    match timesIn real (format.length + 1) format with
    | .ok t => Unix.write 2 (t ++ ['\n'])
    | .error c => report ("TIMEFORMAT: `" ++ c :: "': invalid format character".toList)

end Rollout.Shell
