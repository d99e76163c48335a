import Rollout.Machine.Shell.Builtin.Basic
import Rollout.Machine.Unix.Signal

/-!
Commands about signals: what is done when one comes, and sending them.
-/

namespace Rollout.Shell.Builtin

/-! ### Names -/

/-- The condition that a command has failed. -/
def failure : Nat := 65

/-- The condition that a command is run next. -/
def nextCommand : Nat := 66

/-- The condition that a named command has been left. -/
def departure : Nat := 67

/-- Is what is done on the condition done inside of named commands and of shells inside of the shell, too? -/
def reaches (s : State) (n : Nat) : Bool :=
  if n = failure then s.has "errtrace" else (n = nextCommand || n = departure) && s.has "functrace"

/-- The condition that a text names: a signal, or 0 for the end of the shell. -/
def condition? (d : Dialect) (t : Text) : Option Nat :=
  match Text.toNat? t with
  | some n => if n ≤ Unix.Signal.greatest then some n else none
  | none =>
    let upper := t.map Char.toUpper
    if upper = "EXIT".toList then some 0
    else match d with
      | .plain => Unix.Signal.ofName? upper
      | .rich => match String.ofList upper with
        | "ERR" => some failure
        | "DEBUG" => some nextCommand
        | "RETURN" => some departure
        | _ => Unix.Signal.ofName? (if "SIG".toList.isPrefixOf upper then upper.drop 3 else upper)

/-- The name of a signal; one of them has none in the plain dialect. -/
def signalName (d : Dialect) (n : Nat) : Text := if d = .plain && n = 16 then Text.ofNat n else Unix.Signal.name n

/-- The name of a condition. -/
def conditionName (d : Dialect) (n : Nat) : Text :=
  match n with
  | 0 => "EXIT"
  | 65 => "ERR"
  | 66 => "DEBUG"
  | 67 => "RETURN"
  | n => match d with
    | .plain => signalName .plain n
    | .rich => "SIG" ++ Unix.Signal.name n

/-- Show what is done on conditions. -/
def showTraps (wanted : Nat → Bool) : Action Unit := do
  let s ← get
  let shown := (s.traps.filter fun e => wanted e.1).mergeSort fun a b => a.1 ≤ b.1
  Unix.say (shown.flatMap fun (n, t) =>
    let quoted := match s.dialect with
      | .plain => Quoting.plain t
      | .rich => Quoting.single t
    "trap -- " ++ quoted ++ ' ' :: conditionName s.dialect n ++ ['\n'])

/-- Change what is done on a condition. -/
def setTrap (n : Nat) (t : Option Text) : Action Unit :=
  modify fun s => { s with
    traps := t.toList.map (n, ·) ++ s.traps.filter fun e => e.1 ≠ n
    ignored := (if t = some [] then [n] else []) ++ s.ignored.filter (· ≠ n)
    caught := (if t.any (· ≠ []) then [n] else []) ++ s.caught.filter (· ≠ n) }

/-- Cells in rows of five. -/
def rowsOf : Nat → List Text → Text
  | 0, _ => []
  | _, [] => []
  | fuel + 1, cs =>
    Text.join ['\t'] (cs.take 5) ++ (if (cs.drop 5).isEmpty then ['\t', '\n'] else ['\n']) ++ rowsOf fuel (cs.drop 5)

/-- Show the names of signals. -/
def listSignals (ts : List Text) : Action Nat := do
  let s ← get
  match s.dialect, ts with
  | .plain, [] => do
    Unix.say ("0\n" ++ Unix.Signal.all.flatMap fun e => signalName .plain e.1 ++ ['\n'])
    return 0
  | .plain, t :: _ => do
    let n ← number t
    let n := if 128 < n then n - 128 else n
    if 0 < n && n ≤ Unix.Signal.greatest then do
      print (signalName .plain n)
      return 0
    else abort ("invalid signal number or exit status: " ++ t)
  | .rich, [] => do
    let known := Unix.Signal.all.filter fun e => e.1 ≠ 32 && e.1 ≠ 33
    let cell (e : Nat × Text) : Text :=
      (if e.1 < 10 then [' '] else []) ++ Text.ofNat e.1 ++ ") SIG" ++ e.2
    Unix.say (rowsOf known.length (known.map cell))
    return 0
  | .rich, ts => forEach (fun t => do
      match Text.toNat? t with
      | some n =>
        let n := if 128 < n then n - 128 else n
        if 0 < n && n ≤ Unix.Signal.greatest then do
          print (Unix.Signal.name n)
          return 0
        else do
          protest (t ++ ": invalid signal specification")
          return 1
      | none => match condition? .rich t with
        | some n => do
          print (Text.ofNat n)
          return 0
        | none => do
          protest (t ++ ": invalid signal specification")
          return 1) ts

/-- Show or change what is done on conditions. -/
def trap : Routine := fun ts => do
  let s ← get
  let (os, ts) ← match s.dialect with
    | .plain => options "" "" ts
    | .rich => options "lp" "" ts
  let rich := s.dialect = .rich
  if has os 'l' then listSignals []
  else if has os 'p' then do
    showTraps fun n => ts = [] || (ts.filterMap (condition? s.dialect)).contains n
    return 0
  else match ts with
    | [] => do
      showTraps fun _ => true
      return 0
    | t :: rest =>
      let isAlone := rest = [] && t ≠ ['-'] && (condition? s.dialect t).isNone
      if rich && isAlone then
        showUsage
        return 2
      let resets := rest = [] || (Text.toNat? t).any (· ≤ Unix.Signal.greatest)
      let (text, conditions) : Option Text × List Text :=
        if t = ['-'] && rest ≠ [] then (none, rest) else if resets then (none, t :: rest) else (some t, rest)
      change rich text conditions
where
  /-- Change what is done on conditions; what is none is refused. -/
  change (rich : Bool) (text : Option Text) : List Text → Action Nat
    | [] => return 0
    | c :: cs => do
      match condition? (← get).dialect c with
      | some n => do
        setTrap n text
        change rich text cs
      | none =>
        if rich then do
          protest (c ++ ": invalid signal specification")
          let _ ← change rich text cs
          return 1
        else do
          mutter ("trap: " ++ c ++ ": bad trap")
          return 1

/-! ### Sending -/

/-- What a signal does to the shell. -/
def receive (n : Nat) : Action Unit := do
  let s ← get
  match s.traps.lookup n with
  | some [] => if n = Unix.killSignal then throw (.killed n)
  | some _ => if n = Unix.killSignal then throw (.killed n) else set { s with arrived := s.arrived ++ [n] }
  | none => if Unix.Signal.isHarmless n then pure () else throw (.killed n)

/-- What a job still has to do once it gets a signal. -/
def Postponed.stopped (p : Postponed) (time n : Nat) : Postponed :=
  { p with
    process := { p.process with deadline := some ⟨time, n, none⟩ }
    due := time }

/-- Send a signal to the job with a number. -/
def signalJob (n number : Nat) : Action Bool := do
  let s ← get
  match s.jobs.find? fun j => j.number = number && j.postponed.isSome with
  | none => return false
  | some _ => do
    if !Unix.Signal.isHarmless n then
      set { s with jobs := s.jobs.map fun (j : Job) =>
        if j.number = number then { j with postponed := j.postponed.map (Postponed.stopped · s.time n) } else j }
    return true

/-- The number of the job that a text names by its place. -/
def jobNumber? (s : Interpreter) (t : Text) : Option Nat :=
  match t with
  | '%' :: rest =>
    let jobs := s.jobs.filter (·.place ≠ 0)
    let found := if rest = [] || rest = ['%'] || rest = ['+'] then jobs.getLast?
      else if rest = ['-'] then (jobs.dropLast.getLast?).or jobs.getLast?
      else match Text.toNat? rest, rest with
        | some n, _ => jobs.find? (·.place = n)
        | none, '?' :: part => if s.dialect = .rich then jobs.find? (Text.occursIn part ·.shown) else none
        | none, start => if s.dialect = .rich then jobs.find? (start.isPrefixOf ·.shown) else none
    found.map (·.number)
  | _ => none

/-- Send a signal to a process. -/
def send (n : Nat) (t : Text) : Action Nat := do
  let s ← get
  let missing : Action Nat := do
    match s.dialect with
    | .plain => do
      report "No such process\n"
      return 1
    | .rich => do
      protest ('(' :: t ++ ") - No such process")
      return 1
  match jobNumber? s t, t with
  | some number, _ => do
    if s.dialect = .plain then missing
    else if ← signalJob n number then return 0
    else missing
  | none, '%' :: _ => match s.dialect with
    | .plain => abort ("No such job: " ++ t)
    | .rich => do
      protest (t ++ ": no such job")
      return 1
  | none, t =>
    let (digits, isGroup) := match t with
      | '-' :: ds => (ds, true)
      | ds => (ds, false)
    match Text.toNat? digits with
    | none => match s.dialect with
      | .plain => abort ("Illegal number: " ++ digits)
      | .rich => do
        protest (t ++ ": arguments must be process or job IDs")
        return 1
    | some number =>
      if number = 0 || (number = s.number && !isGroup) then do
        receive n
        return 0
      else if s.ancestors.contains number && !isGroup then do
        if n ≠ 0 then modify fun s => { s with raised := s.raised ++ [(number, n)] }
        return 0
      else if ← signalJob n number then return 0
      else missing

/-- Send a signal to processes, or show the names of signals. -/
def kill : Routine := fun ts => do
  let s ← get
  let usage : Action Nat := do
    match s.dialect with
    | .plain => abort "Usage: kill [-s sigspec | -signum | -sigspec] [pid | job]... or\nkill -l [exitstatus]"
    | .rich => do
      showUsage
      return 2
  let sendAll (n : Nat) (ts : List Text) : Action Nat := if ts = [] then usage else forEach (send n) ts
  let sendNamed (name : Text) (ts : List Text) : Action Nat := do
    match condition? s.dialect name with
    | some n => sendAll n ts
    | none => match s.dialect with
      | .plain => abort ("invalid signal number or name: " ++ name)
      | .rich => do
        protest (name ++ ": invalid signal specification")
        return 1
  match ts with
  | [] => usage
  | ['-', 'l'] :: rest => listSignals rest
  | ['-', 'L'] :: rest => listSignals rest
  | [['-', 's']] => match s.dialect with
    | .plain => abort "No arg for -s option"
    | .rich => do
      protest "-s: option requires an argument"
      return 1
  | ['-', 's'] :: name :: rest => sendNamed name rest
  | ['-', 'n'] :: name :: rest => match s.dialect with
    | .plain => abort "Illegal option -n"
    | .rich => sendNamed name rest
  | ['-', '-'] :: rest => sendAll 15 rest
  | ('-' :: name) :: rest => match condition? s.dialect name, s.dialect with
    | some n, _ => sendAll n (if rest.head? = some ['-', '-'] then rest.drop 1 else rest)
    | none, .plain => match name with
      | 's' :: more => sendNamed more rest
      | _ => abort ("Illegal option -" ++ name.take 1)
    | none, .rich => do
      protest (name ++ ": invalid signal specification")
      return 1
  | rest => sendAll 15 rest

end Rollout.Shell.Builtin
