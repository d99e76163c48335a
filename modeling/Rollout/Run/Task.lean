import Rollout.Run.Event
import Rollout.Substitution

/-!
Tasks: computations that record events, call the agents outside of the program, and may fail. What
happened before a failure stays recorded.
-/

namespace Rollout

/-- Why the pipeline of a tag failed. -/
inductive TaskError
  /-- The shell did not run a line. -/
  | shell (failure : Failure)
  /-- A line of the body did not succeed. -/
  | exit (host line : Text) (code : Int)
  /-- A line does not expand for a host. -/
  | hostExpansion (host line : Text) (cause : PossibleCycle)
  /-- A line of the body does not expand. -/
  | expansion (line : Text) (cause : PossibleCycle)
  /-- The operator could not be asked. -/
  | confirmation (failure : Failure)
  /-- A guard is no command. -/
  | undefinedGuard (guard : Text)
  deriving DecidableEq

/-- What the error is reported as. -/
def TaskError.message : TaskError → Text
  | .shell f => f.message
  | .exit host line code =>
    "❌ [" ++ host ++ "] failed at: '" ++ line ++ "' -> Exit code " ++ Text.ofInt code
  | .hostExpansion host line cause =>
    "[" ++ host ++ "] Failed to substitute: " ++ line ++ ": " ++ cause.message
  | .expansion line cause => "Failed to substitute: " ++ line ++ ": " ++ cause.message
  | .confirmation f => f.message
  | .undefinedGuard g => g ++ " is undefined"

/-- How far a run has come. -/
structure Progress (σ : Type) where
  /-- The state of the agents. -/
  agents : σ
  /-- What happened so far. -/
  events : List Event

/-- A computation that moves a run on. -/
def Task (σ α : Type) : Type := Progress σ → Except TaskError α × Progress σ

namespace Task

variable {σ α β : Type}

instance : Monad (Task σ) where
  pure a := fun p => (.ok a, p)
  bind x f := fun p => match x p with
    | (.ok a, p') => f a p'
    | (.error e, p') => (.error e, p')

/-- The task that fails. -/
def fail (e : TaskError) : Task σ α := fun p => (.error e, p)

/-- Record an event. -/
def record (e : Event) : Task σ Unit := fun p => (.ok (), { p with events := p.events ++ [e] })

/-- Let an agent act, and record what comes of it. -/
def consult (act : σ → α × σ) (event : α → Event) : Task σ α := fun p =>
  let (a, s) := act p.agents
  (.ok a, ⟨s, p.events ++ [event a]⟩)

/-- What happened so far. -/
def history : Task σ (List Event) := fun p => (.ok p.events, p)

/-- Run a task and hand out its failure as a result. -/
def attempt (x : Task σ α) : Task σ (Except TaskError α) := fun p =>
  match x p with
  | (r, p') => (.ok r, p')

/-- A result as a task. -/
def ofExcept : Except TaskError α → Task σ α
  | .ok a => pure a
  | .error e => fail e

/-- Attempt a task for each item in order, whatever comes of the others. -/
def attemptAll (f : α → Task σ β) : List α → Task σ (List (Except TaskError β))
  | [] => pure []
  | a :: as => do
    let r ← attempt (f a)
    let rs ← attemptAll f as
    return r :: rs

/-! ### Running tasks -/

theorem pure_apply (a : α) (p : Progress σ) : (pure a : Task σ α) p = (.ok a, p) := rfl

theorem bind_apply (x : Task σ α) (f : α → Task σ β) (p : Progress σ) :
    (x >>= f) p = match x p with
      | (.ok a, p') => f a p'
      | (.error e, p') => (.error e, p') := rfl

theorem bind_apply_ok {x : Task σ α} {p p' : Progress σ} {a : α} (h : x p = (.ok a, p')) (f : α → Task σ β) :
    (x >>= f) p = f a p' := by rw [bind_apply, h]

theorem bind_apply_error {x : Task σ α} {p p' : Progress σ} {e : TaskError} (h : x p = (.error e, p'))
    (f : α → Task σ β) : (x >>= f) p = (.error e, p') := by rw [bind_apply, h]

end Task

end Rollout
