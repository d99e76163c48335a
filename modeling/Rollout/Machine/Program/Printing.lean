import Rollout.Machine.Program.Input
import Rollout.Machine.Shell.Condition
import Rollout.Machine.Unix.Format

/-!
Programs that print their arguments, or variables, or answer conditions about texts, numbers and files.
-/

namespace Rollout.Program

open Unix

/-! ### Printing -/

/-- Print the arguments. -/
def echo : Routine := fun ts => do
  Manual.tellAlone ts
  say (Format.echo .program ts)
  return 0

/-- Print arguments by a format. -/
def printf : Routine := fun ts => do
  Manual.tellAlone ts
  match if ts.head? = some ['-', '-'] then ts.drop 1 else ts with
  | [] => misused 1 "missing operand"
  | format :: ts => do
    let p ← get
    let r := Format.format .program ⟨zoneOf p, p.now, p.now⟩ format ts
    say r.text
    flush
    r.complaints.forM grumble
    match r.goesOn, r.arguments with
    | true, t :: _ => grumble ("warning: ignoring excess arguments, starting with " ++ inQuotes t)
    | _, _ => pure ()
    return r.status

/-- How often a line is printed that is printed until nobody reads it. -/
def maxRepetitions : Nat := 10000

/-- Print a line again and again, until nobody reads it. -/
def yes : Routine := fun ts => do
  let a ← arguments [] true 1 ts
  let line := Text.join [' '] (if a.operands = [] then [['y']] else a.operands) ++ ['\n']
  say (List.replicate maxRepetitions line).flatten
  flush
  throw (.killed pipeSignal)

/-- Print the values of environment variables, or all of them with their names. -/
def printenv : Routine := fun ts => do
  let a ← arguments [.plain '0' "null"] false 2 ts
  let ending : Text := if a.has "0" then ['\x00'] else ['\n']
  let env := (← get).env
  if a.operands = [] then do
    say (env.entries.flatMap fun e => e.1 ++ '=' :: e.2 ++ ending)
    return 0
  else forEach (fun name => do
    match env.get? name with
    | some v => do
      say (v ++ ending)
      return 0
    | none => return 1) a.operands

/-! ### Conditions -/

/-- What is said about a condition that makes no sense. -/
def conditionFault (message : Text) : Text :=
  let ending : Text := ": integer expression expected"
  let name := message.take (message.length - ending.length)
  if message = name ++ ending then "invalid integer " ++ inQuotes name
  else
    let subject := message.takeWhile (· ≠ ':')
    if subject.length < message.length then inQuotes subject ++ message.drop subject.length else message

/-- Answer a condition. -/
def test : Routine := fun ts => do
  let p ← get
  match Shell.Condition.evaluate .rich ⟨p, fun _ => false, fun _ => false, fun _ => false⟩ ts with
  | .ok answer => return if answer then 0 else 1
  | .error message => do
    grumble (conditionFault message)
    return 2

/-- Answer a condition in brackets. -/
def bracket : Routine := fun ts => do
  Manual.tellAlone ts
  if ts.getLast? = some [']'] then test ts.dropLast
  else do
    grumble "missing ']'"
    return 2

end Rollout.Program
