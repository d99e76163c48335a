import Rollout.Machine.Shell.Condition
import Rollout.Machine.Shell.Quoting

/-!
Commands that a shell runs by itself: their names, and how they read options and numbers.
-/

namespace Rollout.Shell.Builtin

/-! ### Names -/

/-- Commands whose mistakes end a shell of the plain dialect, and whose assignments stay. -/
def specialNames : List Text :=
  [".", ":", "break", "continue", "eval", "exec", "exit", "export", "local", "readonly", "return", "set", "shift",
    "times", "trap", "unset"].map String.toList

/-- All commands that a shell of a dialect runs by itself. -/
def names (d : Dialect) : List Text :=
  let common := ["[", "alias", "bg", "cd", "command", "echo", "false", "fg", "getopts", "hash", "jobs", "kill",
    "printf", "pwd", "read", "test", "true", "type", "ulimit", "umask", "unalias", "wait"]
  specialNames ++ (match d with
    | .plain => "chdir" :: common
    | .rich => ["bind", "builtin", "caller", "compgen", "complete", "compopt", "declare", "dirs", "disown", "enable",
        "fc", "help", "history", "let", "logout", "mapfile", "popd", "pushd", "readarray", "shopt", "source",
        "suspend", "typeset"] ++ common).map String.toList

/-- Does a shell of the dialect run the command by itself? -/
def isName (d : Dialect) (name : Text) : Bool := (names d).contains name

/-- Does a mistake in the command end the shell? -/
def isSpecial (d : Dialect) (name : Text) : Bool := d = .plain && specialNames.contains name

/-- Are arguments that look like assignments read as such? -/
def declares (d : Dialect) (name : Text) : Bool :=
  match d with
  | .plain => (["alias", "export", "local", "readonly"].map String.toList).contains name
  | .rich => Parser.declaringNames.contains name

/-! ### Options -/

/-- How the commands of the rich dialect are used. -/
def usage (name : Text) : Text :=
  let after : String := match String.ofList name with
    | "." => "filename [arguments]"
    | "bind" => "[-lpsvPSVX] [-m keymap] [-f filename] [-q name] [-u name] [-r keyseq] [-x keyseq:shell-command]" ++
      " [keyseq:readline-function or readline-command]"
    | "break" => "[n]"
    | "builtin" => "[shell-builtin [arg ...]]"
    | "caller" => "[expr]"
    | "cd" => "[-L|[-P [-e]] [-@]] [dir]"
    | "compgen" => "[-abcdefgjksuv] [-o option] [-A action] [-G globpat] [-W wordlist] [-F function] [-C command]" ++
      " [-X filterpat] [-P prefix] [-S suffix] [word]"
    | "complete" => "[-abcdefgjksuv] [-pr] [-DEI] [-o option] [-A action] [-G globpat] [-W wordlist] [-F function]" ++
      " [-C command] [-X filterpat] [-P prefix] [-S suffix] [name ...]"
    | "compopt" => "[-o|+o option] [-DEI] [name ...]"
    | "continue" => "[n]"
    | "dirs" => "[-clpv] [+N] [-N]"
    | "disown" => "[-h] [-ar] [jobspec ... | pid ...]"
    | "enable" => "[-a] [-dnps] [-f filename] [name ...]"
    | "eval" => "[arg ...]"
    | "exit" => "[n]"
    | "fc" => "[-e ename] [-lnr] [first] [last] or fc -s [pat=rep] [command]"
    | "fg" => "[job_spec]"
    | "bg" => "[job_spec ...]"
    | "help" => "[-dms] [pattern ...]"
    | "history" => "[-c] [-d offset] [n] or history -anrw [filename] or history -ps arg [arg...]"
    | "jobs" => "[-lnprs] [jobspec ...] or jobs -x command [args]"
    | "let" => "arg [arg ...]"
    | "logout" => "[n]"
    | "popd" => "[-n] [+N | -N]"
    | "pushd" => "[-n] [+N | -N | dir]"
    | "readarray" => "[-d delim] [-n count] [-O origin] [-s count] [-t] [-u fd] [-C callback] [-c quantum] [array]"
    | "return" => "[n]"
    | "shift" => "[n]"
    | "suspend" => "[-f]"
    | "test" => "[expr]"
    | "times" => ""
    | "declare" => "[-aAfFgiIlnrtux] [name[=value] ...] or declare -p [-aAfFilnrtux] [name ...]"
    | "typeset" => "[-aAfFgiIlnrtux] name[=value] ... or typeset -p [-aAfFilnrtux] [name ...]"
    | "export" => "[-fn] [name[=value] ...] or export -p"
    | "getopts" => "optstring name [arg ...]"
    | "hash" => "[-lr] [-p pathname] [-dt] [name ...]"
    | "kill" => "[-s sigspec | -n signum | -sigspec] pid | jobspec ... or kill -l [sigspec]"
    | "local" => "[option] name[=value] ..."
    | "mapfile" => "[-d delim] [-n count] [-O origin] [-s count] [-t] [-u fd] [-C callback] [-c quantum] [array]"
    | "printf" => "[-v var] format [arguments]"
    | "pwd" => "[-LP]"
    | "read" => "[-ers] [-a array] [-d delim] [-i text] [-n nchars] [-N nchars] [-p prompt] [-t timeout] [-u fd] [name ...]"
    | "readonly" => "[-aAf] [name[=value] ...] or readonly -p"
    | "set" => "[-abefhkmnptuvxBCEHPT] [-o option-name] [--] [-] [arg ...]"
    | "shopt" => "[-pqsu] [-o] [optname ...]"
    | "source" => "filename [arguments]"
    | "trap" => "[-lp] [[arg] signal_spec ...]"
    | "type" => "[-afptP] name [name ...]"
    | "ulimit" => "[-SHabcdefiklmnpqrstuvxPRT] [limit]"
    | "umask" => "[-p] [-S] [mode]"
    | "unalias" => "[-a] name [name ...]"
    | "unset" => "[-f] [-v] [-n] [name ...]"
    | "wait" => "[-fn] [-p var] [id ...]"
    | "alias" => "[-p] [name[=value] ... ]"
    | "command" => "[-pVv] command [arg ...]"
    | "exec" => "[-cl] [-a name] [command [argument ...]] [redirection ...]"
    | _ => ""
  name ++ ": usage: " ++ name ++ ' ' :: after.toList

/-- Say how the command is used. -/
def showUsage : Action Unit := do
  mutter (usage (← get).command)

/-- Refuse an option. -/
def refuseOption {α : Type} (letter : Char) : Action α := do
  match (← get).dialect with
  | .plain => abort ("Illegal option -" ++ [letter])
  | .rich => do
    protest ('-' :: letter :: ": invalid option".toList)
    showUsage
    setStatus 2
    throw .failed

/-- Refuse an option without its value. -/
def refuseMissing {α : Type} (letter : Char) : Action α := do
  match (← get).dialect with
  | .plain => abort ("No arg for -" ++ letter :: " option".toList)
  | .rich => do
    protest ('-' :: letter :: ": option requires an argument".toList)
    showUsage
    setStatus 2
    throw .failed

/-- The options among arguments, some of which take values, and the arguments after them. -/
def optionsIn (known valued : String) : Nat → List Text → Action (List (Char × Text) × List Text)
  | 0, ts => return ([], ts)
  | fuel + 1, ts => match ts with
    | ['-', '-'] :: rest => return ([], rest)
    | ('-' :: c :: cs) :: rest =>
      if valued.toList.contains c then match cs, rest with
        | [], v :: rest => do
          let (os, ts) ← optionsIn known valued fuel rest
          return ((c, v) :: os, ts)
        | [], [] => refuseMissing c
        | cs, rest => do
          let (os, ts) ← optionsIn known valued fuel rest
          return ((c, cs) :: os, ts)
      else if known.toList.contains c then do
        let (os, ts) ← optionsIn known valued fuel (if cs = [] then rest else ('-' :: cs) :: rest)
        return ((c, []) :: os, ts)
      else refuseOption c
    | ts => return ([], ts)

/-- The options among arguments, some of which take values, and the arguments after them. -/
def options (known valued : String) (ts : List Text) : Action (List (Char × Text) × List Text) :=
  optionsIn known valued (ts.flatten.length + ts.length + 1) ts

/-- Is the option there? -/
def has (os : List (Char × Text)) (c : Char) : Bool := os.any (·.1 = c)

/-- The greatest number of most commands. -/
def greatest : Int := 2147483647

/-- The number that an argument denotes in the plain dialect. -/
def number (t : Text) : Action Nat := do
  match Condition.integer? t with
  | some n => if 0 ≤ n && n ≤ greatest then return n.toNat else abort ("Illegal number: " ++ t)
  | none => abort ("Illegal number: " ++ t)

/-- Print a line. -/
def print (t : Text) : Action Unit := Unix.sayLine t

/-- Do something for each argument; the worst status counts. -/
def forEach {α : Type} (f : α → Action Nat) : List α → Action Nat
  | [] => return 0
  | t :: ts => do
    let first ← f t
    let rest ← forEach f ts
    return max first rest

/-! ### Printing and asking -/

/-- The manner in which formats are read. -/
def manner : Dialect → Unix.Format.Manner
  | .plain => .plain
  | .rich => .rich

/-- Print the arguments. -/
def echo : Routine := fun ts => do
  let s ← get
  if s.dialect = .rich && s.has "xpg_echo" then Unix.say (Unix.Format.echo .plain ts)
  else Unix.say (Unix.Format.echo (manner s.dialect) ts)
  return 0

/-- Put texts between lines together. -/
def reportAll : List Text → Action Unit
  | [] => return
  | t :: ts => do
    let s ← get
    Unix.complain (match s.dialect with
      | .plain => s.name ++ ": " ++ Text.ofNat s.line ++ ": " ++ s.command ++ ": " ++ t
      | .rich => s.origin ++ ": line " ++ Text.ofNat s.line ++ ": " ++ s.command ++ ": " ++ t)
    reportAll ts

/-- Give a variable or an element that a text names a value. -/
def assignTo (target value : Text) : Action Unit := do
  match elementOf target with
  | (name, none) => assign name value
  | (name, some index) => assignAt name index value

/-- Print arguments by a format. -/
def printf : Routine := fun ts => do
  let s ← get
  let (os, ts) ← match s.dialect with
    | .plain => options "" "" ts
    | .rich => options "" "v" ts
  match ts with
  | [] =>
    match s.dialect with
    | .plain => abort "usage: printf format [arg ...]"
    | .rich => do
      showUsage
      return 2
  | format :: ts => do
    let zone := Unix.zoneOf { s.toProcess with env := s.environment }
    let r := Unix.Format.format (manner s.dialect) ⟨zone, s.now, s.epoch⟩ format ts
    reportAll r.complaints
    r.counts.forM fun (name, n) => if isName s.dialect name then assign name (Text.ofNat n) else return
    match os.getLast? with
    | some (_, name) => assignTo name r.text
    | none => Unix.say r.text
    return r.status

/-- What conditions of the shell are about. -/
def world (s : Interpreter) : Condition.World where
  process := s.toProcess
  isSet name := match elementOf name with
    | (name, none) => (s.value? name).isSome
    | (name, some index) => ((s.holder? name).map fun v =>
        v.content.elements.any fun e => e.1 = index || index = ['@'] || index = ['*']).getD false
  isOn option := s.options.contains option
  isReference name := ((s.vars.get? name).map Variable.reference).getD false

/-- Answer a condition. -/
def test : Routine := fun ts => do
  let s ← get
  match Condition.evaluate s.dialect (world s) ts with
  | .ok answer => return if answer then 0 else 1
  | .error message => do
    protest message
    return 2

/-- Answer a condition in brackets. -/
def bracket : Routine := fun ts => do
  if ts.getLast? = some [']'] then test ts.dropLast
  else do
    protest (match (← get).dialect with
      | .plain => "missing ]"
      | .rich => "missing `]'")
    return 2

/-! ### Leaving -/

/-- The status that an argument asks for. -/
def statusOf (ts : List Text) : Action Nat := do
  let s ← get
  match s.dialect, ts with
  | _, [] => return s.status
  | .plain, t :: _ => number t
  | .rich, t :: rest => match Condition.integer? t with
    | none => do
      protest (t ++ ": numeric argument required")
      return 2
    | some n =>
      if rest = [] then return (n % 256).toNat
      else do
        protest "too many arguments"
        setStatus 1
        throw .nextLine

/-- End the shell. -/
def exit : Routine := fun ts => do
  exitWith ((← statusOf (if ts.head? = some ['-', '-'] then ts.drop 1 else ts)) % 256)

/-- Leave a named command or a file. -/
def finish : Routine := fun ts => do
  let s ← get
  let n ← statusOf ts
  if s.dialect = .rich && s.depth = 0 && s.reading = 0 then do
    protest "can only `return' from a function or sourced script"
    return 2
  else do
    setStatus n
    if s.depth = 0 && s.reading = 0 then throw .exit else throw .finish

/-- Tell where a named command is run from. -/
def caller : Routine := fun ts => do
  let s ← get
  let lines := s.frames.map fun f => Text.ofNat f.line
  if s.frames.all (·.name = mainName) then return 1
  else match ts with
    | [] => do
      print (lines.headD "NULL" ++ ' ' :: ((s.frames[1]?).map Frame.origin).getD "NULL")
      return 0
    | t :: _ => match Condition.integer? t with
      | none => do
        protest (t ++ ": invalid number")
        showUsage
        return 2
      | some n => match lines[n.toNat]?, s.frames[n.toNat + 1]? with
        | some line, some f => do
          if n < 0 then return 1
          print (line ++ ' ' :: f.name ++ ' ' :: f.origin)
          return 0
        | _, _ => return 1

/-- The number of loops that a command is about. -/
def loopCount : List Text → Action (Option Nat)
  | [] => return some 1
  | t :: _ => do
    match (← get).dialect, Condition.integer? t with
    | .rich, none => do
      protest (t ++ ": numeric argument required")
      exitWith 128
    | .rich, some n =>
      if n ≤ 0 then do
        protest (t ++ ": loop count out of range")
        return none
      else return some n.toNat
    | .plain, _ => do
      let n ← number t
      if n = 0 then abort ("Illegal number: " ++ t) else return some n

/-- Leave loops, or repeat one after leaving those inside of it. -/
def leaveWith (stop : Nat → Stop) : Routine := fun ts => do
  let s ← get
  if s.dialect = .rich && s.loops = 0 then do
    protest "only meaningful in a `for', `while', or `until' loop"
    return 0
  else match ← loopCount ts with
    | none => do
      setStatus 1
      throw (.leave s.loops)
    | some n =>
      if s.loops = 0 then return 0
      else do
        setStatus 0
        throw (stop (min n s.loops))

/-- Leave loops. -/
def leave : Routine := leaveWith .leave

/-- Repeat a loop. -/
def again : Routine := leaveWith fun n => .again (n - 1)

end Rollout.Shell.Builtin
