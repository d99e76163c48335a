import Rollout.Machine.Calendar.Parser
import Rollout.Machine.Program.Input

/-!
Telling the time: the current moment, one that is described, or the one at which a file was changed, in a format.
-/

namespace Rollout.Program

open Unix

/-! ### Formats -/

/-- The format in which moments are told by themselves. -/
def usualDateFormat : Text := "%a %b %e %H:%M:%S %Z %Y"

/-- The formats whose parts are written from the year on, each with the words that ask for it. -/
def ordinalFormats : List (String × Text) :=
  [("hours", "%Y-%m-%dT%H%:z"), ("minutes", "%Y-%m-%dT%H:%M%:z"), ("date", "%Y-%m-%d"),
    ("seconds", "%Y-%m-%dT%H:%M:%S%:z"), ("ns", "%Y-%m-%dT%H:%M:%S,%N%:z")]

/-- The same with a blank in front of the time. -/
def spacedFormats : List (String × Text) :=
  [("date", "%Y-%m-%d"), ("seconds", "%Y-%m-%d %H:%M:%S%:z"), ("ns", "%Y-%m-%d %H:%M:%S.%N%:z")]

/-- The format of letters. -/
def letterFormat : Text := "%a, %d %b %Y %H:%M:%S %z"

/-- The format of a table that a word asks for. -/
def formatOf (option : String) (table : List (String × Text)) (word : Text) : Act Text := do
  let name ← choose 1 option (table.map fun e => [e.1]) word
  return ((table.find? fun e => e.1 = name).map (·.2)).getD usualDateFormat

/-- The format that an option asks for, if it does. -/
def formatFrom? (option : Text × Text) : Act (Option Text) := do
  match String.ofList option.1 with
  | "I" =>
    if option.2 = [] then return some "%Y-%m-%d" else return some (← formatOf "--iso-8601" ordinalFormats option.2)
  | "rfc-3339" => return some (← formatOf "--rfc-3339" spacedFormats option.2)
  | "R" => return some letterFormat
  | _ => return none

/-! ### Moments -/

/-- Tell a moment in a zone. -/
def tellMoment (zone : Calendar.Zone) (format : Text) (moment : Int) : Act Nat := do
  sayLine (Calendar.format (.ofMoment zone moment) format)
  return 0

/-- Tell the moment that a text describes. -/
def tellDescribed (zone : Calendar.Zone) (format t : Text) : Act Nat := do
  match Calendar.parse zone (← get).now t with
  | some m => tellMoment zone format m
  | none => do
    grumble ("invalid date " ++ inQuotes t)
    return 1

/-- Refuse to set the clock to a moment, and tell that moment. -/
def refuseClock (zone : Calendar.Zone) (format t : Text) : Option Int → Act Nat
  | none => giveUp 1 ("invalid date " ++ inQuotes t)
  | some m => do
    grumble "cannot set date: Operation not permitted"
    let _ ← tellMoment zone format m
    return 1

/-- The digits of a moment with their year in front, which may stand behind them. -/
def yearFirst (t : Text) : Text :=
  let ds := t.takeWhile (· ≠ '.')
  if ds.length ≤ 8 then t else ds.drop 8 ++ ds.take 8 ++ t.drop ds.length

/-- Tell the time. -/
def date : Routine := fun ts => do
  let flags := [Flag.valued 'd' "date", .wordOnly "debug", .valued 'f' "file", ⟨some 'I', some "iso-8601".toList, .optional⟩,
    .valued 'r' "reference", .plain 'R' "rfc-email", .plain 'R' "rfc-822", .plain 'R' "rfc-2822",
    .valuedWord "rfc-3339", .valued 's' "set", .plain 'u' "utc", .plain 'u' "universal", .plain 'u' "uct"]
  let a ← arguments flags true 1 ts
  let p ← get
  let zone := if a.has "u" then Calendar.Zone.universal else zoneOf p
  let asked ← a.options.filterMapM formatFrom?
  if 1 < asked.length then giveUp 1 "multiple output formats specified"
  let sources := (["d", "f", "r"].filter a.has).length
  if 1 < sources then misused 1 "the options to specify dates for printing are mutually exclusive"
  if a.has "s" && 0 < sources then misused 1 "the options to print and set the time may not be used together"
  let (format, digits) : Option Text × Option Text ← match a.operands with
    | [] => pure (asked.head?, none)
    | _ :: t :: _ => misused 1 ("extra operand " ++ inQuotes t)
    | ['+' :: format] =>
      if asked ≠ [] then giveUp 1 "multiple output formats specified" else pure (some format, none)
    | [t] =>
      if a.has "s" || 0 < sources then misused 1 ("the argument " ++ inQuotes t ++ " lacks a leading '+';\n" ++
        "when using an option to specify date(s), any non-option\n" ++
        "argument must be a format string beginning with '+'")
      else pure (asked.head?, some t)
  let format := format.getD usualDateFormat
  match a.value? "d", a.value? "f", a.value? "r", a.value? "s", digits with
  | some t, _, _, _, _ => tellDescribed zone format t
  | _, some path, _, _, _ => match ← contentOf path with
    | .ok t => forEach (tellDescribed zone format) (linesOf t)
    | .error e => giveUp 1 (nameOf path ++ ": " ++ e)
  | _, _, some path, _, _ => match p.look path with
    | .ok t => tellMoment zone format t.about.changed
    | .error e => giveUp 1 (nameOf path ++ ": " ++ e)
  | _, _, _, some t, _ => refuseClock zone format t (Calendar.parse zone p.now t)
  | _, _, _, _, some t => refuseClock zone format t (Calendar.ofDigits? zone p.now (yearFirst t))
  | none, none, none, none, none => tellMoment zone format p.now

end Rollout.Program
