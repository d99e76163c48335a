import Rollout.Batch
import Rollout.Blake3
import Rollout.Checksum
import Rollout.Inventory.Basic
import Rollout.Load
import Rollout.Options
import Rollout.Prompt
import Rollout.Run.Rolling
import Rollout.Run.Shell
import Rollout.Transcript
import Rollout.Upfile.Basic

/-!
A session: what the program does for its options, from loading files to the summary of the run. What it
shows on the way stays shown when it fails. The machine that lines run on is given from outside.
-/

namespace Rollout

/-- Why a session failed. -/
inductive SessionError
  /-- Something could not be loaded. -/
  | load (cause : LoadError)
  /-- The command is not in the Upfile. -/
  | command (cause : Upfile.UndefinedCommand)
  /-- The tags are no selection. -/
  | tags (cause : SelectionError)
  /-- The selection does not fit the inventory. -/
  | select (cause : SelectError)
  /-- The directory has no checksum. -/
  | checksum (cause : Checksum.WalkError)
  /-- There are no batches. -/
  | batches (cause : BatchError)
  /-- The run failed. -/
  | run (cause : RunError)

/-- What the error is reported as. -/
def SessionError.message : SessionError → Text
  | .load e => e.message
  | .command e => e.message
  | .tags e => e.message
  | .select e => e.message
  | .checksum e => e.message
  | .batches e => e.message
  | .run e => e.message

/-- A part of a session, which shows something and may fail. -/
abbrev Session := ExceptT SessionError (StateM Transcript)

namespace Session

/-- Show something. -/
def print (t : Transcript) : Session Unit := modify (· ++ t)

/-- Log a line. -/
def log (line : Text) : Session Unit := print (.logged line)

/-- Log a line if everything is to be logged. -/
def logDetail (o : Options) (line : Text) : Session Unit := if o.verbose then log line else return

/-- A result that may be an error of the session. -/
def ofExcept {ε α : Type} (f : ε → SessionError) : Except ε α → Session α
  | .ok a => return a
  | .error e => throw (f e)

/-! ### Listing -/

/-- List the commands of the Upfile, and write it if more is wanted. -/
def list (w : Workspace) (o : Options) (input : Bytes) : Session Unit := do
  let u ← ofExcept .load (w.loadUpfile input (.ofOption o.upfile))
  print ⟨u.list, []⟩
  if o.verbose then print ⟨'\n' :: u.write, []⟩

/-! ### Running -/

/-- The tags that are wanted: without any, the tag that is named like the command. -/
def selection (o : Options) (command : Text) : Except SelectionError TagSelection :=
  match o.tags with
  | some t => TagSelection.parse t
  | none => .ok (.single command)

/-- The batches as they are logged. -/
def showBatches (batches : Batches) : Text :=
  let bracketed (ts : List Text) : Text := "[" ++ Text.commaList ts ++ "]"
  let entry (e : Text × List (List Text)) : Text :=
    Text.quoted e.1 ++ ": " ++ bracketed (e.2.map fun hosts => bracketed (hosts.map Text.quoted))
  "\x7b" ++ Text.commaList (batches.entries.map entry) ++ "\x7d"

/-- What the agents of a run change: the machine, and what the operator has not yet said. -/
structure Surroundings (μ : Type) where
  /-- The machine on which lines are run. -/
  machine : μ
  /-- The standard input. -/
  input : Bytes

variable {μ : Type}

/-- The shell of the workspace, and the operator if questions are wanted. -/
def agents (launch : Launcher μ) (w : Workspace) (o : Options) (vars : Dict Text) : Agents (Surroundings μ) where
  shell host line s :=
    let (reply, machine) := launch.runLine w.shell vars host line s.machine
    (reply, { s with machine := machine })
  operator :=
    if o.prompt then some fun tag group s =>
      let (answer, rest) := Prompt.ask tag group s.input
      (answer, { s with input := rest })
    else none
  schedule := .inOrder

/-- An outcome as it is logged. -/
def outcomeName : Outcome → Text
  | .deployed => "Deployed"
  | .satisfied => "Satisfied"

/-- Log what came of a tag. -/
def logReport (o : Options) (tag : Text) (r : TagReport) : Session Unit := do
  for result in r.groups.flatten do
    logDetail o (tag ++ " [" ++ result.host ++ "] " ++ outcomeName result.outcome)
  if r.stopped then
    log ("⚠️ " ++ tag ++ " stopped after " ++ Text.ofNat r.groups.length ++ " group(s)")

/-- Log what came of the run. -/
def logSummary (o : Options) (s : Summary) : Session Unit := do
  for (tag, report) in s.entries do
    logReport o tag report
  log ("✅ success: " ++ Text.ofNat (s.count .deployed) ++ " deployed, " ++ Text.ofNat (s.count .satisfied)
    ++ " already up to date")

/-- Run a command of the Upfile on hosts of the inventory, in random order. -/
def deploy (launch : Launcher μ) (machine : μ) (w : Workspace) (o : Options) (input : Bytes) (random : Words) :
    Session Unit := do
  for file in w.presentVarsFile.toList do
    log (Workspace.varsNotice file)
  let vars ← ofExcept .load (w.loadVars input)
  let source := UpfileSource.ofOption o.upfile
  let upfile ← ofExcept .load (w.loadUpfile input source)
  let (name, command) ← ofExcept .command (upfile.choose o.command)
  let selected ← ofExcept .tags (selection o name)
  let inventory ← ofExcept .load (w.loadInventory input o.inventory)
  let hosts ← ofExcept .select (inventory.select selected)
  log ("⚡ Running " ++ name ++ " on " ++ selected.display)
  log "calculating checksum"
  let checksum ← ofExcept .checksum (Checksum.ofPath Blake3.hash w.root w.cwd o.directory)
  logDetail o ("checksum: " ++ checksum)
  let (batches, _) ← ofExcept .batches (makeBatches hosts.hostsByTag o.serial random)
  logDetail o ("got batches: " ++ showBatches batches)
  let deployment : Deployment := ⟨upfile, command, vars, checksum⟩
  let left := if source = .input then [] else input
  let (result, progress) := deployment.run (agents launch w o vars) batches ⟨⟨machine, left⟩, []⟩
  print (.ofEvents o.verbose progress.events)
  logSummary o (← ofExcept .run result)

/-- Does the session read the standard input? -/
def readsInput (w : Workspace) (o : Options) : Bool :=
  let isInput (path : Text) : Bool := match w.find? path with
    | some (.device (.descriptor 0) _) => true
    | _ => false
  o.prompt || o.upfile = ['-'] || [o.upfile, o.inventory, w.varsFile].any isInput

/-- Do what the options ask for. -/
def start (launch : Launcher μ) (machine : μ) (w : Workspace) (o : Options) (input : Bytes) (random : Words) :
    Session Unit :=
  if o.list then list w o input else deploy launch machine w o input random

/-- The result of a session, and what it has shown. -/
def result (s : Session Unit) : Except SessionError Unit × Transcript := s.run.run .empty

end Session

end Rollout
