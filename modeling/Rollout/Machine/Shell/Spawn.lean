import Rollout.Machine.Shell.Eval
import Rollout.Run.Shell

/-!
Launching a program on the machine that lines run on. The program is found as a system finds programs, and runs in
a process of its own. Texts become bytes on the way in. A session is given this machine from outside; what is
proved of runs is proved for any launcher and any shell.
-/

namespace Rollout

namespace Shell

/-- The steps that a process may take inside of each other. -/
def budget : Nat := 1000000

/-- Can the text be given to a process? -/
def isPassable (t : Text) : Bool := !t.contains '\x00'

/-- Can the variables be given to a process? -/
def arePassable (env : Dict Text) : Bool := env.entries.all fun e => isPassable e.1 && isPassable e.2

/-- The variables as a process gets them: each is written as its name, a sign and its value, and the name of what
is written ends before the first sign that does not start it. -/
def received (env : Dict Text) : Dict Text :=
  .ofList (env.entries.filterMap fun (name, value) =>
    let written := name ++ '=' :: value
    match written with
    | [] => none
    | c :: cs =>
      let rest := cs.takeWhile (· ≠ '=')
      if name = [] then none else some (c :: rest, cs.drop (rest.length + 1)))

/-- A system that runs lines, each in a shell of its own that starts at a place and in an environment. -/
structure Machine where
  /-- The system. -/
  system : Unix.System
  /-- The names that lead from the root to the place, in bytes. -/
  cwd : List Text
  /-- The environment variables. -/
  env : Dict Text

namespace Machine

/-- The machine on which a workspace is. -/
def ofWorkspace (w : Workspace) : Machine := ⟨.ofFiles w.root, w.cwd.map Octets.ofText, w.env⟩

/-- Run a program under a name from its start to its end, as a shell if it is one; without a status it was ended
by a signal. -/
def runAlone (m : Machine) (env : Dict Text) (name program : Text) (arguments : List Text) :
    Option Nat × Unix.Process :=
  let started := Unix.Process.first m.system m.cwd env name
  match (launch budget .plain false (.program program) name arguments).run.run started with
  | (.ok (.ok status), p) => (some status, p)
  | (_, p) => (none, p)

/-- What was written to a stream of a process, in the order of the times. -/
def written (p : Unix.Process) (i : Nat) : Bytes :=
  match p.streams[i]? with
  | some s => Octets.toBytes ((s.pieces.mergeSort fun a b => a.1 ≤ b.1).flatMap (·.2))
  | none => []

/-- Launch a program; also gives the machine as it is afterwards. -/
def launch : Launcher Machine := fun i m =>
  let env := m.env.insertAll i.vars.entries
  if isPassable i.program && i.arguments.all isPassable && arePassable env then
    let inner : Dict Text := .ofList ((received env).entries.map fun e => (Octets.ofText e.1, Octets.ofText e.2))
    let directories := (inner.get? "PATH").getD Unix.defaultPath
    let name := Octets.ofText i.program
    let root := m.system.root
    let (found, path) := Unix.findProgram root m.cwd directories name
    match Unix.resolveProgram root m.cwd Unix.maxInterpreters path found (i.arguments.map Octets.ofText) with
    | none => (none, m)
    | some (program, started, arguments) =>
      let (status, p) := m.runAlone inner (if started = path then name else started) program arguments
      (some ⟨status, written p 0, written p 1⟩, { m with system := p.toSystem.rested })
  else (none, m)

end Machine

end Shell

end Rollout
