import Rollout.Text.Basic

/-!
What happens while a command rolls over its groups, as events in the order in which they happen, and the
lines that are logged about them. It happens between the run and the agents outside of the program: the
shell that runs lines, the operator who is asked between groups, and the scheduler that decides in which
order the hosts of a group come to their turn.
-/

namespace Rollout

/-- An agent outside of the program did not answer. -/
inductive Failure
  /-- It refused with a message. -/
  | refused (message : Text)
  /-- Reaching it failed, in the context given. -/
  | unreachable (context : Text)
  deriving DecidableEq

/-- What the failure is reported as. -/
def Failure.message : Failure → Text
  | .refused m => m
  | .unreachable c => c

/-- What a line left behind when its shell ended. -/
structure Reply where
  /-- Zero means success. -/
  exitCode : Int
  /-- What was written to the standard output. -/
  stdout : Text
  /-- What was written to the standard error. -/
  stderr : Text
  deriving DecidableEq

namespace Reply

/-- Did the line succeed? -/
def success (r : Reply) : Bool := r.exitCode = 0

/-- Everything that was written, the standard output first. -/
def output (r : Reply) : Text := r.stdout ++ r.stderr

end Reply

/-- What the operator said to a question, and what was shown to them. -/
structure Answer where
  /-- Whether to go on. -/
  verdict : Except Failure Bool
  /-- What was shown. -/
  shown : Text

/-- Something that happened. Groups are counted from 0. -/
inductive Event
  /-- A group of the tag was started. -/
  | groupStarted (tag : Text) (group total : Nat) (hosts : List Text)
  /-- A line was run on behalf of a host. -/
  | called (host line : Text) (reply : Except Failure Reply)
  /-- A line of a guard did not succeed. -/
  | guardFailed (host : Text) (reply : Reply)
  /-- All guards passed on these hosts. -/
  | upToDate (hosts : List Text)
  /-- The operator was asked whether to go on with the group. -/
  | asked (tag : Text) (group : Nat) (answer : Answer)
  /-- The operator did not want to go on with the group. -/
  | stopped (tag : Text) (group total : Nat)

/-! ### Log lines -/

/-- The longest line about a call, in characters, that is logged in full. -/
def maxLogLine : Nat := 90

/-- The line about a call, cut unless everything is wanted. -/
def dispatchLine (host line : Text) (verbose : Bool) : Text :=
  let full := "[" ++ host ++ "] " ++ line
  if verbose || full.length ≤ maxLogLine then full else full.take (maxLogLine - 3) ++ "..."

/-- A group among all groups of its tag, counted from 1. -/
def groupOf (group total : Nat) : Text := Text.ofNat (group + 1) ++ "/" ++ Text.ofNat total

/-- What is logged about an event. -/
def Event.log (verbose : Bool) : Event → Option Text
  | .groupStarted tag group total hosts =>
    some ("🚀 " ++ tag ++ " group " ++ groupOf group total ++ ": " ++ Text.commaList hosts)
  | .called host line _ => some (dispatchLine host line verbose)
  | .guardFailed host r =>
    if verbose then
      some ("[" ++ host ++ "] condition failed with exit code " ++ Text.ofInt r.exitCode ++ ": "
        ++ Text.trim r.output)
    else none
  | .upToDate hosts => some ("✨ " ++ Text.commaList hosts ++ " already up to date")
  | .asked .. => none
  | .stopped tag group total => some ("✋ Stopping " ++ tag ++ " before group " ++ groupOf group total)

/-! ### Agents -/

/-- The order in which the hosts of a group take their turns, by their positions in the group; it may
depend on all that happened before. -/
structure Schedule where
  /-- The positions of a group of the given size in the order of their turns. -/
  turns : List Event → Nat → List Nat
  /-- Each host has one turn. -/
  perm : ∀ events size, (turns events size).Perm (List.range size)

namespace Schedule

/-- Every host in the order of its group. -/
def inOrder : Schedule := ⟨fun _ size => List.range size, fun _ _ => .refl _⟩

end Schedule

/-- The agents, with a state that passes from call to call. -/
structure Agents (σ : Type) where
  /-- Run a line on behalf of a host. -/
  shell : Text → Text → σ → Except Failure Reply × σ
  /-- Ask whether to go on with a group of a tag; without an operator nobody is asked. -/
  operator : Option (Text → Nat → σ → Answer × σ)
  /-- The order of turns in a group. -/
  schedule : Schedule

end Rollout
