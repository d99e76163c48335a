import Rollout.Machine.Number.Rounded
import Rollout.Machine.Program.Environment

/-!
Programs that run other programs with less claim to the machine, or for some time only, and waiting.
-/

namespace Rollout.Program

open Unix

/-- What is said about a program that cannot be started. -/
def refusal (name reason : Text) : Text := inQuotes name ++ ": " ++ reason

/-- Run a program with less claim to the machine, or print that claim. -/
def nice (run : Runner) : Routine := fun ts => do
  let ts := match ts with
    | ('-' :: c :: cs) :: rest =>
      if c.isDigit || (c = '-' && cs.head?.any Char.isDigit) then ['-', 'n'] :: (c :: cs) :: rest
      else ('-' :: c :: cs) :: rest
    | ts => ts
  let a ← arguments [.valued 'n' "adjustment"] false 125 ts
  let change : Int ← match a.value? "n" with
    | some v => match Text.toNat? (if v.head? = some '-' || v.head? = some '+' then v.drop 1 else v) with
      | some n => pure (if v.head? = some '-' then -(n : Int) else n)
      | none => giveUp 125 ("invalid adjustment " ++ inQuotes v)
    | none => pure 10
  match a.operands with
  | [] =>
    if (a.value? "n").isSome then misused 125 "a command must be given with an adjustment"
    else do
      sayLine (Text.ofInt (← get).niceness)
      return 0
  | name :: rest => do
    modify fun p => { p with niceness := max (-20) (min 19 (p.niceness + change)) }
    become run (refusal name) name rest

/-- Run a program that goes on when its terminal goes away. -/
def nohup (run : Runner) : Routine := fun ts => do
  let a ← arguments [] false 125 ts
  match a.operands with
  | [] => misused 125 "missing operand"
  | name :: rest =>
    become run (fun reason => "failed to run command " ++ inShellQuotes name ++ ": " ++ reason) name rest

/-- Run a program whose streams are buffered in some way. -/
def stdbuf (run : Runner) : Routine := fun ts => do
  let a ← arguments [.valued 'i' "input", .valued 'o' "output", .valued 'e' "error"] false 125 ts
  for (stream, mode) in a.options do
    if stream = ['i'] && mode = ['L'] then misused 125 "line buffering stdin is meaningless"
    if mode ≠ ['L'] then match sizeOf? mode with
      | some n =>
        if maxCount < n then
          giveUp 125 ("invalid mode " ++ inQuotes mode ++ ": Value too large for defined data type")
      | none => giveUp 125 ("invalid mode " ++ inQuotes mode)
  match a.operands with
  | [] => misused 125 "missing operand"
  | name :: rest => do
    if a.options.isEmpty then misused 125 "you must specify a buffering mode option"
    become run (fun reason => "failed to run command " ++ refusal name reason) name rest

/-! ### Time -/

/-- The microseconds that a text stands for. -/
def interval? (t : Text) : Option Nat := do
  let (n, unit) ← Rounded.read .extended t
  let seconds ← match String.ofList unit with
    | "" => some 1
    | "s" => some 1
    | "m" => some 60
    | "h" => some 3600
    | "d" => some 86400
    | _ => none
  match n with
  | .infinite false => some (10000000000000 * seconds)
  | n => n.ceilTimes? (1000000 * seconds)

/-- Wait for time to pass. -/
def sleep : Routine := fun ts => do
  let a ← arguments [] true 1 ts
  if a.operands = [] then misused 1 "missing operand"
  let wrong := a.operands.filter fun t => (interval? t).isNone
  wrong.forM fun t => grumble ("invalid time interval " ++ inQuotes t)
  if wrong ≠ [] then seeHelp 1
  Unix.pass ((a.operands.filterMap interval?).foldl (· + ·) 0)
  return 0

/-- The options of `timeout`. -/
def timeoutFlags : List Flag :=
  [.valued 's' "signal", .valued 'k' "kill-after", .plain 'v' "verbose", .wordOnly "preserve-status",
    .wordOnly "foreground"]

/-- How a program that was run for some time has ended. -/
structure TimedEnd where
  /-- How it has ended. -/
  started : Started
  /-- Was its time over? -/
  isOver : Bool
  /-- Was it killed afterwards? -/
  isKilled : Bool

/-- Run a program until a time at most; what is to be said when its time is over is said then. -/
def runUntil (run : Runner) (limit : Option Deadline) (name : Text) (rest : List Text) : Act TimedEnd := do
  let p ← get
  let inner := match limit, p.deadline with
    | some mine, some other => if mine.time ≤ other.time then some mine else some other
    | mine, other => mine.or other
  set { p with deadline := inner }
  -- the program inherits the deadline, and this process gets its own back
  let started ← start (fun f n as => do
    flush
    let q ← get
    let (r, q) := (run f n as).run.run q
    set { q with deadline := p.deadline }
    match r with
    | .ok r => return r
    | .error (.exited n) => return .ok n
    | .error (.killed n) => return .error n) name rest
  modify fun q => { q with deadline := p.deadline }
  meetDeadline
  let time := (← get).time
  return ⟨started, limit.any (·.time ≤ time), limit.any fun d => d.last.any (· ≤ time)⟩

/-- Run a program for some time at most. -/
def timeout (run : Runner) : Routine := fun ts => do
  let a ← arguments timeoutFlags false 125 ts
  let signal ← match a.value? "s" with
    | none => pure endSignal
    | some t => match signalOf? t with
      | some n => pure n
      | none => misused 125 (inQuotes t ++ ": invalid signal")
  let after ← match a.value? "k" with
    | none => pure none
    | some t => match interval? t with
      | some n => pure (if n = 0 then none else some n)
      | none => misused 125 ("invalid time interval " ++ inQuotes t)
  match a.operands with
  | time :: name :: rest => do
    match interval? time with
    | none => misused 125 ("invalid time interval " ++ inQuotes time)
    | some limit => do
      let now := (← get).time
      let deadline : Option Deadline :=
        if limit = 0 then none
        else some ⟨now + limit, signal, if signal = killSignal then none else after.map (now + limit + ·)⟩
      let r ← runUntil run deadline name rest
      let sent (n : Nat) : Act Unit :=
        if a.has "v" then grumble ("sending signal " ++ Signal.name n ++ " to command " ++ inQuotes name) else pure ()
      if r.isOver then
        sent signal
        if r.isKilled then sent killSignal
        if (signal = killSignal || r.isKilled) && !a.has "foreground" then throw (.killed killSignal)
      match r.started with
      | .refused status reason => do
        grumble ("failed to run command " ++ refusal name reason)
        return status
      | .ended status => return if r.isOver && !a.has "preserve-status" then 124 else status
      | .killed n =>
        if !r.isOver then throw (.killed n)
        else return if a.has "preserve-status" || n = killSignal then 128 + n else 124
  | _ => seeHelp 125

end Rollout.Program
