import Rollout.Machine.Shell.Builtin.Table
import Rollout.Machine.Shell.Scope

/-!
How commands and shells start: what is said when something cannot be run, and the options of a shell.
-/

namespace Rollout.Shell

/-- How a command is run. -/
structure Setting where
  /-- Is its failure tested, so that it does not end the shell? -/
  tested : Bool
  /-- Does the shell end after it? -/
  last : Bool

/-- How most commands are run. -/
def Setting.usual : Setting := ⟨false, false⟩

/-- How a condition is run. -/
def Setting.condition : Setting := ⟨true, false⟩

/-- How a command is run that is not the last one. -/
def Setting.notLast (c : Setting) : Setting := { c with last := false }

/-! ### Descriptors -/

/-- The least number of a descriptor that is chosen for a variable. -/
def leastFree : Nat := 10

/-- Attach something to a descriptor, whose number a variable may get or hold, or tell what is wrong. -/
def attachSlot (slot : Slot) (target : Text) (attachment : Attachment) : Action (Option Text) := do
  match slot with
  | .fixed n => attach n target attachment
  | .free name => do
    let s ← get
    let holds := ((elementOf name).2.bind Text.toNat?).elim (s.value? name) fun i => s.element? (elementOf name).1 i
    match attachment, target, holds.bind Text.toNat? with
    | .duplicate _, ['-'], some n => do
      close n
      modify fun s => { s with lasting := s.lasting.filter (· ≠ n) }
      return none
    | .duplicate _, ['-'], none => return some (name ++ ": ambiguous redirect")
    | _, _, _ => do
      let isFree (i : Nat) : Bool := (s.descriptors.lookup (leastFree + i)).isNone
      let n := leastFree + ((List.range (s.descriptors.length + 1)).find? isFree).getD 0
      match ← attach n target attachment with
      | some message => return some message
      | none => do
        modify fun s => { s with lasting := n :: s.lasting }
        Builtin.assignTo name (Text.ofNat n)
        return none

/-! ### Refusals -/

/-- The status of a command whose descriptors cannot be changed. -/
def redirectionStatus : Dialect → Nat
  | .plain => 2
  | .rich => 1

/-- Say that a text is not made of commands. -/
def refuseText (e : SyntaxError) : Action Unit := do
  let s ← get
  match s.dialect with
  | .plain => do
    set { s with line := e.line }
    abort ("Syntax error: " ++ Text.join ['\n'] e.messages)
  | .rich => do
    Unix.flush
    e.messages.forM fun m =>
      Unix.complain (s.origin ++ ": " ++ s.given ++ "line " ++ Text.ofNat e.line ++ ": " ++ m)
    setStatus 2

/-- Show what is read from a source before it is run. -/
def echoText (source : Source) (t : Text) : Action Unit :=
  match source.dialect with
  | .plain => if source.fromFile then Unix.write 2 t else return
  | .rich => Unix.write 2 (if source.fromFile || t.getLast? = some '\n' then t else t ++ ['\n'])

/-- Say why a program cannot be run under a name, in the role of an argument or by itself; gives the status. -/
def refuseProgram (role : Text) (name path : Text) (found : Unix.Found) : Action Nat := do
  let s ← get
  let hasSlash := name.contains '/'
  match s.dialect with
  | .plain => do
    let (status, reason) := (found.obstacle? s.root s.cwd).getD (127, [])
    let isGone := reason = Unix.describeFault .missing || reason = Unix.describeFault .notDirectory
    report (role ++ name ++ ": " ++ if name = [] then "Permission denied".toList
      else if isGone then "not found" else reason)
    return status
  | .rich => do
    let said (status : Nat) (name reason : Text) : Action Nat := do
      report (role ++ name ++ ": " ++ reason)
      return status
    match found with
    | .nothing fault =>
      if !hasSlash && role = [] then
        if name ≠ [] && Builtin.directories s = [] then said 127 name (Unix.describeFault .missing)
        else said 127 (Quoting.shown name) "command not found"
      else if !hasSlash then said 127 name "not found"
      else said (if fault = .missing then 127 else 126) name (Unix.describeFault fault)
    | .directory => said 126 name "Is a directory"
    | .denied => said 126 path "Permission denied"
    | _ => said 127 path "cannot execute: required file not found"

/-! ### Options of a shell -/

/-- What a shell reads its commands from. -/
inductive Given
  /-- An argument. -/
  | text
  /-- A file, or the standard input if there are no arguments left. -/
  | file
  /-- The standard input. -/
  | input

/-- How shells of the rich dialect are used. -/
def usage : Text :=
  "Usage:\tbash [GNU long option] [option] ...\n\tbash [GNU long option] [option] script-file ...\nGNU long options:\n"
    ++ (["debug", "debugger", "dump-po-strings", "dump-strings", "help", "init-file", "login", "noediting", "noprofile",
      "norc", "posix", "pretty-print", "rcfile", "restricted", "verbose", "version"] : List String).flatMap
        (fun w => '\t' :: '-' :: '-' :: w.toList ++ ['\n'])
    ++ "Shell options:\n\t-ilrsD or -c command or -O shopt_option\t\t(invocation only)\n"
    ++ "\t-abefhkmnptuvxBCEHPT or -o option\n"

/-- The version of the rich dialect. -/
def versionText : Text := "GNU bash, version 5.2.15(1)-release"

/-- Follow an option that is a word; gives the arguments that are left. -/
def startWord (word : Text) (rest : List Text) : Action (List Text) := do
  let finish (t : Text) : Action (List Text) := do
    Unix.say t
    setStatus 0
    throw .exit
  match String.ofList word with
  | "version" => finish (versionText ++ " (x86_64-pc-linux-gnu)\n")
  | "help" => finish (versionText ++ "-(x86_64-pc-linux-gnu)\n" ++ usage)
  | "posix" => do
    setOption "posix" true
    return rest
  | "verbose" => do
    setOption "verbose" true
    return rest
  | "rcfile" => return rest.drop 1
  | "init-file" => return rest.drop 1
  | w =>
    if ["debug", "debugger", "login", "noediting", "noprofile", "norc", "restricted"].contains w then return rest
    else do
      Unix.grumble ("--" ++ word ++ ": invalid option")
      Unix.write 2 usage
      setStatus 2
      throw .exit

/-- Turn on the options among the arguments with which a shell is started; gives what it reads its commands from
and the arguments that are left. -/
def startOptions : Nat → Given → List Text → Action (Given × List Text)
  | 0, g, ts => return (g, ts)
  | fuel + 1, g, ts => do
    let rich := (← get).dialect = .rich
    match ts with
    | ['-', '-'] :: rest => return (g, rest)
    | ['-'] :: rest => return (g, rest)
    | ('-' :: '-' :: c :: cs) :: rest =>
      if rich then do startOptions fuel g (← startWord (c :: cs) rest) else abort ("Illegal option -" ++ '-' :: c :: cs)
    | ('-' :: c :: cs) :: rest => do
      let more := if cs = [] then [] else ['-' :: cs]
      if c = 'c' then do
        if rich then setOption "command-string" true
        startOptions fuel .text (more ++ rest)
      else if c = 's' then do
        setOption "stdin" true
        startOptions fuel (match g with
          | .text => .text
          | _ => .input) (more ++ rest)
      else if c = 'o' then do
        let rest ← Builtin.setLetters true [c] rest
        startOptions fuel g (more ++ rest)
      else if rich && "liDOr".toList.contains c then startOptions fuel g (more ++ rest)
      else do
        let _ ← Builtin.setLetters true [c] []
        startOptions fuel g (more ++ rest)
    | ('+' :: c :: cs) :: rest => do
      let rest ← Builtin.setLetters false (c :: cs) rest
      startOptions fuel g rest
    | ts => return (g, ts)

/-- The dialect of the shell that a program of the system is, if it is one. -/
def dialect? (program : Text) : Option Dialect :=
  match String.ofList program with
  | "sh" => some .plain
  | "dash" => some .plain
  | "bash" => some .rich
  | "rbash" => some .rich
  | _ => none

/-- Do something as a shell that a process is. -/
def asShell (d : Dialect) (arguments : List Text) (a : Action Unit) : Unix.Act Nat := do
  let p ← get
  let (r, q) := a.run.run (Interpreter.start d p arguments)
  set q.toProcess
  match r with
  | .error (.killed n) => throw (.killed n)
  | _ => return q.status

end Rollout.Shell
