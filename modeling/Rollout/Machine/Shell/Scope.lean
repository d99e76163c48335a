import Rollout.Machine.Shell.Builtin.Signals
import Rollout.Machine.Shell.State

/-!
What the descriptors of a shell stand for: files that are opened, given texts, and other descriptors. And how
far what commands do reaches: shells inside of shells, descriptors and variables for the time of a command,
loops that end or go on, and named commands that are left.
-/

namespace Rollout.Shell

open Unix (Descriptor)

/-! ### Descriptors -/

/-- Let a descriptor stand for something. -/
def point (descriptor : Nat) (d : Descriptor) : Action Unit := do
  Unix.flush
  modify fun s => { s with descriptors := (descriptor, d) :: s.descriptors.filter (·.1 ≠ descriptor) }

/-- Let a descriptor stand for nothing. -/
def close (descriptor : Nat) : Action Unit := do
  Unix.flush
  modify fun s => { s with descriptors := s.descriptors.filter (·.1 ≠ descriptor) }

/-- What is said about a file that cannot be opened, for a reason. -/
def cannotOpen (d : Dialect) (creates : Bool) (path reason : Text) : Text :=
  match d with
  | .plain =>
    let isGone := reason = Unix.describeFault .missing || reason = Unix.describeFault .notDirectory
    (if creates then "cannot create ".toList else "cannot open ") ++ path ++ ": "
      ++ if !isGone then reason else if creates then "Directory nonexistent".toList else "No such file"
  | .rich => path ++ ": " ++ reason

/-- Is there a file with contents at the path? -/
def isThere (s : Interpreter) (path : Text) : Bool :=
  match s.find? path with
  | some (.file ..) => true
  | _ => false

/-- Attach what was opened to a descriptor, or tell what is wrong. -/
def attachOpened (descriptor : Nat) (creates : Bool) (path : Text) :
    Except Text Descriptor → Action (Option Text)
  | .ok d => do
    point descriptor d
    return none
  | .error e => return some (cannotOpen (← get).dialect creates path e)

/-- Attach another descriptor that a text names, or tell what is wrong. -/
def attachCopy (descriptor : Nat) (target : Text) : Action (Option Text) := do
  let s ← get
  let isOneDigit := target.length = 1 && target.all Char.isDigit
  let (number, moved) := if s.dialect = .rich && 1 < target.length && target.getLast? = some '-' then
      (target.dropLast, true)
    else (target, false)
  if target = ['-'] then do
    close descriptor
    return none
  else if s.dialect = .plain && !isOneDigit then abort "Syntax error: Bad fd number"
  else match Text.toNat? number with
    | none => return some (target ++ ": ambiguous redirect")
    | some n => match s.descriptors.lookup n with
      | none => return some (target ++ ": Bad file descriptor")
      | some d => do
        point descriptor d
        if moved && n ≠ descriptor then close n
        return none

/-- Attach something to a descriptor, or tell what is wrong. -/
def attach (descriptor : Nat) (target : Text) : Attachment → Action (Option Text)
  | .read => do attachOpened descriptor false target (← Unix.openPath .read target)
  | .write force => do
    let s ← get
    if s.has "noclobber" && !force && isThere s target then
      return some (match s.dialect with
        | .plain => cannotOpen .plain true target "File exists"
        | .rich => target ++ ": cannot overwrite existing file")
    else attachOpened descriptor true target (← Unix.openForWriting false target)
  | .extend => do attachOpened descriptor true target (← Unix.openForWriting true target)
  | .update => do attachOpened descriptor true target (← Unix.openPath .update target)
  | .duplicate _ => attachCopy descriptor target
  | .document => do
    point descriptor (.reader (← Unix.openStream (.ofText target)))
    return none
  | .word => do
    point descriptor (.reader (← Unix.openStream (.ofText (target ++ ['\n']))))
    return none

/-! ### Shells inside of shells -/

/-- Take over what a shell inside of this one has done to files, streams and the time. -/
def takeOver (q : Interpreter) : Action Unit := do
  modify fun s => { s with toSystem := q.toSystem }
  (← Unix.takeRaised).forM Builtin.receive
  Unix.meetDeadline

/-- A copy of the shell as a shell inside of it starts. -/
def copied (s : Interpreter) : Interpreter :=
  { s with
    toProcess := s.toProcess.forked
    nesting := s.nesting + 1
    jobs := []
    partners := []
    traps := s.traps.filter fun t => t.2 = [] || Builtin.reaches s.toState t.1 }

/-- Do something in a changed copy of the shell; gives its status, or the signal that ended it, and what has
become of the copy. -/
def runCopy (change : Interpreter → Interpreter) (a : Action Unit) : Action (Except Nat Nat × Interpreter) := do
  Unix.flush
  let s ← get
  let (r, q) := a.run.run (change (copied s))
  let (_, q) := (Unix.flush : Action Unit).run.run q
  return match r with
    | .error (.killed n) => (.error n, q)
    | _ => (.ok q.status, q)

/-- Do something in a changed copy of the shell, of which only what is shared comes back; gives its status, or the
signal that ended it. -/
def inCopy (change : Interpreter → Interpreter) (a : Action Unit) : Action (Except Nat Nat) := do
  let (r, q) ← runCopy change a
  takeOver q
  return r

/-- The status that stands for a signal. -/
def signalStatus (n : Nat) : Nat := 128 + n

/-- The status of something that was waited for; the plain dialect says which signal ended it. -/
def waitedStatus : Except Nat Nat → Action Nat
  | .ok n => return n
  | .error n => do
    let s ← get
    if s.dialect = .plain && Unix.Signal.description n ≠ [] then mutter (Unix.Signal.description n)
    return signalStatus n

/-! ### Descriptors and variables -/

/-- Do something whatever happens, after something else. -/
def finally? {α : Type} (a : Action α) (after : Action Unit) : Action α := do
  let x ← try a catch stop => do
    after
    throw stop
  after
  return x

/-- Do something, and put the descriptors back. -/
def keepingDescriptors {α : Type} (a : Action α) : Action α := do
  Unix.flush
  let s ← get
  finally? a (do
    Unix.flush
    modify fun q => { q with descriptors := q.descriptors.filter (fun d => q.lasting.contains d.1)
      ++ s.descriptors.filter fun d => !q.lasting.contains d.1 && !s.lasting.contains d.1 })

/-- Put back what variables were, or take them away. -/
def restore (old : List (Text × Option Variable)) (vars : Dict Variable) : Dict Variable :=
  old.foldl (fun vs (name, v) => match v with
    | some v => vs.insert name v
    | none => vs.filter fun n _ => n ≠ name) vars

/-- Do something, and put the variables back that have these names. -/
def keepingVariables {α : Type} (names : List Text) (a : Action α) : Action α := do
  let s ← get
  let old := names.map fun n => (n, s.vars.get? n)
  let hashed := s.hashed
  finally? a (modify fun q => { q with
    vars := restore old q.vars
    hashed := if names.contains "PATH".toList then hashed else q.hashed })

/-- Do something while a command has a name for messages. -/
def underName {α : Type} (name : Text) (a : Action α) : Action α := do
  let old := (← get).command
  modify fun s => { s with command := name }
  finally? a (modify fun s => { s with command := old })

/-! ### Loops -/

/-- Do something once inside of a loop, and tell whether the loop goes on. -/
def onceInLoop (a : Action Unit) : Action Bool := do
  let loops := (← get).loops
  modify fun s => { s with loops := loops + 1 }
  let leaveLoop : Action Unit := modify fun s => { s with loops := loops }
  let goesOn ← try do
      a
      pure true
    catch
      | .again 0 => pure true
      | .again (n + 1) => do
        leaveLoop
        throw (.again n)
      | .leave (n + 2) => do
        leaveLoop
        throw (.leave (n + 1))
      | .leave _ => pure false
      | stop => do
        leaveLoop
        throw stop
  leaveLoop
  return goesOn

/-! ### Named commands -/

/-- Do something until it is left. -/
def untilFinished (a : Action Unit) : Action Unit := do
  try a catch
    | .finish => return
    | stop => throw stop

/-- Do something as a named command does, with arguments and variables of its own. -/
def asFunction (arguments : List Text) (a : Action Unit) : Action Unit := do
  let s ← get
  let isPlain := s.dialect = Dialect.plain
  set { s with
    arguments := arguments
    loops := 0
    hidden := []
    hiddenOptions := none
    taken := if isPlain then 0 else s.taken
    passed := if isPlain then 0 else s.passed
    depth := s.depth + 1 }
  finally? (untilFinished a) (modify fun q => { q with
    arguments := s.arguments
    loops := s.loops
    hidden := s.hidden
    hiddenOptions := s.hiddenOptions
    options := q.hiddenOptions.getD q.options
    taken := if isPlain then s.taken else q.taken
    passed := if isPlain then s.passed else q.passed
    depth := s.depth
    vars := restore q.hidden q.vars })

/-- Do something as a file that is read does, with messages of its own. -/
def asFile (arguments : List Text) (origin : Option Text) (a : Action Unit) : Action Unit := do
  let s ← get
  set { s with
    arguments := if arguments = [] then s.arguments else arguments
    reading := s.reading + 1
    loops := 0
    origin := origin.getD s.origin
    given := [] }
  finally? (untilFinished a) (modify fun q => { q with
    arguments := if arguments = [] then q.arguments else s.arguments
    reading := s.reading
    loops := s.loops
    origin := s.origin
    given := s.given })

end Rollout.Shell
