import Rollout.Run.Group

/-!
Rolling a command over the groups of a tag, and over all tags. The groups of a tag follow one another, and
between them the operator may stop the tag. Tags do not wait for each other: each has a pipeline in a thread
of its own, the pipelines all run to their end, and the run fails with the first failure that is delivered.
A thread is named after its tag, and starting one panics if the name holds a NUL.
-/

namespace Rollout

/-- The groups of hosts of each tag, in the order in which they roll. -/
abbrev Batches := Dict (List (List Text))

/-- What came of a tag. -/
structure TagReport where
  /-- The results of the groups that ran. -/
  groups : List (List HostResult)
  /-- Did the operator stop the tag? -/
  stopped : Bool
  deriving DecidableEq

/-- What came of each tag. -/
abbrev Summary := Dict TagReport

/-- The number of hosts with that outcome. -/
def Summary.count (s : Summary) (o : Outcome) : Nat :=
  ((s.values.flatMap (·.groups)).flatten.filter (·.outcome = o)).length

/-- Why a run came to no summary. -/
inductive RunError
  /-- The pipeline of the tag failed. -/
  | failed (tag : Text) (cause : TaskError)
  /-- The thread for the tag could not be named, and nothing was returned at all. -/
  | panicked (tag : Text)
  deriving DecidableEq

/-- What the error is reported as, by the run itself or, if it panicked, by its thread. -/
def RunError.message : RunError → Text
  | .failed tag cause => "tag " ++ tag ++ ": " ++ cause.message
  | .panicked _ => "thread name may not contain interior null bytes"

/-! ### Threads -/

/-- The name of the thread for a tag. -/
def threadName (tag : Text) : Text := "up-" ++ tag

/-- Can a thread for the tag be started? No thread has a NUL in its name. -/
def isStartable (tag : Text) : Bool := !(threadName tag).contains '\x00'

/-- The first tag for which no thread can be started. -/
def Batches.unstartable? (b : Batches) : Option Text := b.keys.find? (!isStartable ·)

/-! ### Pipelines -/

namespace Deployment

variable {σ : Type}

/-- Ask the operator, if there is one, whether to go on with a group; nobody is asked before the first. -/
def mayGoOn (a : Agents σ) (tag : Text) (group : Nat) : Task σ Bool :=
  match a.operator with
  | none => pure true
  | some ask =>
    if group = 0 then pure true
    else do
      match (← Task.consult (ask tag group) (Event.asked tag group)).verdict with
      | .ok b => return b
      | .error f => Task.fail (.confirmation f)

/-- Run the groups of a tag, of which the first is counted as `group` among `total`. -/
def runGroups (d : Deployment) (a : Agents σ) (tag : Text) (total : Nat) :
    Nat → List (List Text) → Task σ TagReport
  | _, [] => pure ⟨[], false⟩
  | group, hosts :: rest => do
    if ← mayGoOn a tag group then
      Task.record (.groupStarted tag group total hosts)
      let results ← d.runGroup a hosts
      let report ← runGroups d a tag total (group + 1) rest
      return { report with groups := results :: report.groups }
    else
      Task.record (.stopped tag group total)
      return ⟨[], true⟩

/-- Run the pipeline of a tag. -/
def runTag (d : Deployment) (a : Agents σ) (tag : Text) (groups : List (List Text)) : Task σ TagReport :=
  d.runGroups a tag groups.length 0 groups

/-- Run the pipelines of the tags, each to its end. -/
def runTags (d : Deployment) (a : Agents σ) :
    List (Text × List (List Text)) → Progress σ → List (Text × Except TaskError TagReport) × Progress σ
  | [], p => ([], p)
  | (tag, groups) :: rest, p =>
    let (r, p) := d.runTag a tag groups p
    let (rs, p) := runTags d a rest p
    ((tag, r) :: rs, p)

end Deployment

/-- Add the results of tags to a summary, in the order in which they are delivered. -/
def collectInto : Summary → List (Text × Except TaskError TagReport) → Except RunError Summary
  | s, [] => .ok s
  | s, (tag, .ok report) :: rest => collectInto (s.insert tag report) rest
  | _, (tag, .error cause) :: _ => .error (.failed tag cause)

/-- The summary of the results of tags, in the order in which they are delivered. -/
def collect (results : List (Text × Except TaskError TagReport)) : Except RunError Summary :=
  collectInto .empty results

/-- Run the command over all tags. Their pipelines are started one after another; if a thread cannot be
started, those before it run on, but nothing is collected. -/
def Deployment.run {σ : Type} (d : Deployment) (a : Agents σ) (batches : Batches) (p : Progress σ) :
    Except RunError Summary × Progress σ :=
  let (results, p) := d.runTags a (batches.entries.takeWhile fun e => isStartable e.1) p
  match batches.unstartable? with
  | some tag => (.error (.panicked tag), p)
  | none => (collect results, p)

end Rollout
