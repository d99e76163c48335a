import Rollout.Run.Task

/-!
Running a command on one group of hosts. All lines of all guards run on all hosts, and the body runs on
the whole group unless all of them succeeded. A line runs on every host of the group before the next
line starts, and if it fails on several hosts the first of them in the group is blamed.
-/

namespace Rollout

/-- What to run, and what its lines may refer to. -/
structure Deployment where
  /-- The Upfile. -/
  upfile : Upfile
  /-- The command to run. -/
  command : Command
  /-- The variables. -/
  vars : Dict Text
  /-- The checksum of the directory that is deployed. -/
  checksum : Text

/-- What a non-zero exit code of a line means. -/
inductive Purpose
  /-- The work is to be done. -/
  | check
  /-- The work has failed. -/
  | work
  deriving DecidableEq

/-- What came of a host. -/
inductive Outcome | deployed | satisfied
  deriving DecidableEq

/-- A host with what came of it. -/
structure HostResult where
  /-- The host. -/
  host : Text
  /-- What came of it. -/
  outcome : Outcome
  deriving DecidableEq

namespace Deployment

variable {σ : Type}

/-- What the lines of the command may refer to. -/
def scope (d : Deployment) : Scope := (Scope.ofUpfile d.upfile).withValue "checksum" d.checksum

/-- What they may refer to on a host. -/
def hostScope (d : Deployment) (host : Text) : Scope := d.scope.withValue "server" host

/-- The line as it is run on a host. -/
def hostLine (d : Deployment) (host line : Text) : Except PossibleCycle Text :=
  substitute d.vars (d.hostScope host) line

/-- The lines that a line of the body stands for: it is expanded without regard to the host, and the blank
ones of the resulting lines are dropped. -/
def bodyLines (d : Deployment) (line : Text) : Except PossibleCycle (List Text) :=
  (substitute d.vars d.scope line).map fun t => (Text.split '\n' t).filter fun l => !Text.isBlankText l

/-! ### One line -/

/-- Run a line on a host, and tell whether it succeeded. -/
def runOnHost (d : Deployment) (a : Agents σ) (purpose : Purpose) (line host : Text) : Task σ Bool :=
  match d.hostLine host line with
  | .error cause => .fail (.hostExpansion host line cause)
  | .ok hostLine => do
    match ← Task.consult (a.shell host hostLine) (Event.called host hostLine) with
    | .error f => Task.fail (.shell f)
    | .ok r =>
      if r.success then return true
      else match purpose with
        | .check => do
          Task.record (.guardFailed host r)
          return false
        | .work => Task.fail (.exit host hostLine r.exitCode)

/-- The results of the turns in the order of the group. -/
def inGroupOrder {α : Type} (size : Nat) (results : List (Nat × α)) : List α :=
  (List.range size).filterMap fun i => results.lookup i

/-- Did the line succeed on all hosts? The first failure decides. -/
def verdict : List (Except TaskError Bool) → Except TaskError Bool
  | [] => .ok true
  | .error e :: _ => .error e
  | .ok b :: rs => (verdict rs).map (b && ·)

/-- Run a line on every host of the group, each at its turn, and tell whether it succeeded on all. -/
def dispatch (d : Deployment) (a : Agents σ) (purpose : Purpose) (hosts : List Text) (line : Text) :
    Task σ Bool := do
  let turns := (a.schedule.turns (← Task.history) hosts.length).filterMap fun i => hosts[i]?.map (i, ·)
  let results ← Task.attemptAll (fun turn => d.runOnHost a purpose line turn.2) turns
  Task.ofExcept (verdict (inGroupOrder hosts.length ((turns.map (·.1)).zip results)))

/-! ### Guards and body -/

/-- Run the lines of a guard, all of them, and tell whether all succeeded. -/
def runChecks (d : Deployment) (a : Agents σ) (hosts : List Text) : List Text → Task σ Bool
  | [] => pure true
  | line :: lines => do
    let passed ← d.dispatch a .check hosts line
    let rest ← runChecks d a hosts lines
    return passed && rest

/-- Run the guards, all of them, and tell whether all passed. -/
def runGuards (d : Deployment) (a : Agents σ) (hosts : List Text) : List Text → Task σ Bool
  | [] => pure true
  | guard :: guards =>
    match d.upfile.get? guard with
    | none => .fail (.undefinedGuard guard)
    | some c => do
      let passed ← d.runChecks a hosts c.lines
      let rest ← runGuards d a hosts guards
      return passed && rest

/-- Run the lines on the group one after another. -/
def runLines (d : Deployment) (a : Agents σ) (hosts : List Text) : List Text → Task σ Unit
  | [] => pure ()
  | line :: lines => do
    let _ ← d.dispatch a .work hosts line
    runLines d a hosts lines

/-- Run the body on the group, each line expanded when it comes to its turn. -/
def runBody (d : Deployment) (a : Agents σ) (hosts : List Text) : List Text → Task σ Unit
  | [] => pure ()
  | line :: lines =>
    match d.bodyLines line with
    | .error cause => .fail (.expansion line cause)
    | .ok expanded => do
      d.runLines a hosts expanded
      runBody d a hosts lines

/-- Run the command on the group. -/
def runGroup (d : Deployment) (a : Agents σ) (hosts : List Text) : Task σ (List HostResult) := do
  let passed ← d.runGuards a hosts d.command.guards
  if !d.command.guards.isEmpty && passed then
    Task.record (.upToDate hosts)
    return hosts.map (⟨·, .satisfied⟩)
  else
    d.runBody a hosts d.command.lines
    return hosts.map (⟨·, .deployed⟩)

end Deployment

end Rollout
