import Rollout.Machine.Files
import Rollout.Machine.Unix.Process

/-!
What names of programs lead to: programs of the system, or files with commands, some of which name an interpreter
on their first line.
-/

namespace Rollout.Unix

/-- What a name of a program leads to. -/
inductive Found
  /-- A program of the system. -/
  | program (name : Text)
  /-- A file that may be run. -/
  | script (path : Text) (data : Text)
  /-- Something that may not be run. -/
  | denied
  /-- A directory. -/
  | directory
  /-- Nothing, for a reason. -/
  | nothing (fault : FileTree.PathFault)

/-- Is there something to run? -/
def Found.isRunnable : Found → Bool
  | .program _ => true
  | .script .. => true
  | _ => false

/-- What a path leads to when it is to be run. -/
def foundAt (root : FileTree) (cwd : List Text) (path : Text) : Found :=
  match root.locate cwd path with
  | .error e => .nothing e
  | .ok place => match root.at? place with
    | some (.file data mode) =>
      if !(FileTree.file data mode).isProgram then .denied
      else if data = [] && place.dropLast = Workspace.programPlace then .program (place.getLast?.getD [])
      else .script path (Octets.ofBytes data)
    | some (.dir ..) => .directory
    | some _ => .denied
    | none => .nothing .missing

/-- The path of a name in a directory. -/
def inDirectory (directory name : Text) : Text := if directory = [] then name else directory ++ '/' :: name

/-- What a name leads to in directories, of which the first that has something to run counts, and its path. -/
def foundIn (root : FileTree) (cwd : List Text) (name : Text) : List Text → Found × Text
  | [] => (.nothing .missing, name)
  | d :: ds =>
    let path := inDirectory d name
    let later := foundIn root cwd name ds
    match foundAt root cwd path with
    | .nothing _ => later
    | .directory => later
    | .denied => match later.1 with
      | .nothing _ => (.denied, path)
      | _ => later
    | f => (f, path)

/-- What a name leads to, and its path: a path by itself if it has a slash, else something in the directories. -/
def findProgram (root : FileTree) (cwd : List Text) (directories : Text) (name : Text) : Found × Text :=
  if name = [] then (.nothing .missing, name)
  else if name.contains '/' then (foundAt root cwd name, name)
  else foundIn root cwd name (Text.split ':' directories)

/-- The interpreter that the first line of a file names, with an argument for it. -/
def interpreter? (data : Text) : Option (Text × Option Text) :=
  match data with
  | '#' :: '!' :: rest =>
    let isSpace (c : Char) : Bool := c = ' ' || c = '\t'
    let line := (rest.takeWhile (· ≠ '\n')).dropWhile isSpace
    let name := line.takeWhile (!isSpace ·)
    let argument := (((line.drop name.length).dropWhile isSpace).reverse.dropWhile isSpace).reverse
    if name = [] then none else some (name, if argument = [] then none else some argument)
  | _ => none

/-- The directories of programs for a process without a path of its own. -/
def defaultPath : Text := "/bin:/usr/bin"

/-- The directories of programs for a shell without a path of its own. -/
def shellPath : Text := "/usr/local/sbin:/usr/local/bin:/usr/sbin:/usr/bin:/sbin:/bin"

/-- The directories in which the process looks for programs. -/
def Process.directories (p : Process) : Text := (p.env.get? "PATH").getD defaultPath

/-- How often an interpreter may have an interpreter. -/
def maxInterpreters : Nat := 4

/-- The program of the system that runs what was found, its name, and its arguments; a file that names no
interpreter is run by none. -/
def resolveProgram (root : FileTree) (cwd : List Text) : Nat → Text → Found → List Text →
    Option (Text × Text × List Text)
  | 0, _, _, _ => none
  | fuel + 1, name, f, arguments => match f with
    | .program program => some (program, name, arguments)
    | .script path data => (interpreter? data).bind fun (interpreter, argument) =>
      resolveProgram root cwd fuel interpreter (foundAt root cwd interpreter) (argument.toList ++ path :: arguments)
    | _ => none

/-- Why what was found cannot be run, and the status of that. -/
def Found.obstacle? (root : FileTree) (cwd : List Text) : Found → Option (Nat × Text)
  | .program _ => none
  | .script _ data => match (interpreter? data).map fun i => foundAt root cwd i.1 with
    | some (.nothing _) => some (127, describeFault .missing)
    | some .denied => some (126, "Permission denied")
    | some .directory => some (126, "Permission denied")
    | _ => none
  | .denied => some (126, "Permission denied")
  | .directory => some (126, "Permission denied")
  | .nothing fault => some (127, describeFault fault)

/-! ### Running -/

/-- Runs what was found, under a name with arguments, in a process of its own; gives its status, or the signal
that ended it. -/
abbrev Runner := Found → Text → List Text → Act (Except Nat Nat)

/-- How a program that was started has ended, or why it could not be started. -/
inductive Started
  /-- With a status. -/
  | ended (status : Nat)
  /-- By a signal. -/
  | killed (signal : Nat)
  /-- It was not started, for a reason that has a status. -/
  | refused (status : Nat) (reason : Text)

/-- How long an argument or a variable must not be that a program gets. -/
def maxArgument : Nat := 131072

/-- Is an argument or a variable too long to be given to a program? -/
def isTooLong (arguments : List Text) (env : Dict Text) : Bool :=
  arguments.any (maxArgument ≤ ·.length) || env.entries.any fun e => maxArgument ≤ e.1.length + 1 + e.2.length

/-- What is said of arguments or variables that are too long. -/
def tooLongArguments : Text := "Argument list too long"

/-- Why what was found cannot be run with arguments in an environment, and the status of that. -/
def Found.refusal? (f : Found) (p : Process) (arguments : List Text) (env : Dict Text) : Option (Nat × Text) :=
  (f.obstacle? p.root p.cwd).or (if isTooLong arguments env then some (126, tooLongArguments) else none)

/-- Run the program that a name leads to. -/
def start (run : Runner) (name : Text) (arguments : List Text) : Act Started := do
  flush
  let p ← get
  let (found, _) := findProgram p.root p.cwd p.directories name
  match found.refusal? p arguments p.env with
  | some (status, reason) => return .refused status reason
  | none => return match ← run found name arguments with
    | .ok status => .ended status
    | .error signal => .killed signal

/-- End as the program that a name leads to ends; if it cannot be started, what is said is made of the reason. -/
def become (run : Runner) (complaint : Text → Text) (name : Text) (arguments : List Text) : Act Nat := do
  match ← start run name arguments with
  | .ended status => return status
  | .killed signal => throw (.killed signal)
  | .refused status reason => do
    grumble (complaint reason)
    return status

/-- Run a command in a shell under a name, with descriptors of its own; what is to be written waits. -/
def runLine (run : Runner) (name : String) (line : Text) (ds : List (Nat × Descriptor)) : Act Nat := do
  let p ← get
  let held := p.held
  set { p with
    held := []
    descriptors := ds ++ p.descriptors.filter fun (d : Nat × Descriptor) => (ds.lookup d.1).isNone }
  let r ← run (foundAt p.root p.cwd "/bin/sh") name ["-c", line]
  modify fun q => { q with
    held := held
    descriptors := p.descriptors }
  return match r with
    | .ok n => n
    | .error s => 256 + s

end Rollout.Unix
