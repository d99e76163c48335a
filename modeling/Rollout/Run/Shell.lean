import Rollout.Dict
import Rollout.Run.Event
import Rollout.Text.Utf8

/-!
The shell that lines are handed to. It gets a line behind a flag, the variables of the run and the name of
the host, and what it has written is read as text. Which programs there are and what they do is up to the
machine that launches them: whatever is said of a run holds of every machine.
-/

namespace Rollout

/-- A program that is to run, with nothing on its standard input. -/
structure Invocation where
  /-- The name of the program. -/
  program : Text
  /-- Its arguments. -/
  arguments : List Text
  /-- The variables that are set besides those of the environment. -/
  vars : Dict Text

/-- What a program has left behind. -/
structure ProgramExit where
  /-- Its exit code; a program that a signal has ended has none. -/
  code : Option Nat
  /-- What was written to the standard output. -/
  stdout : Bytes
  /-- What was written to the standard error. -/
  stderr : Bytes

/-- A machine that runs programs to their end; a program that cannot be started leaves nothing behind. -/
abbrev Launcher (μ : Type) := Invocation → μ → Option ProgramExit × μ

/-- The flag that tells a shell that a line follows. -/
def shellFlag (shell : Text) : Text :=
  if Text.occursIn "cmd" shell && !Text.occursIn "sh" shell then "/C" else "-c"

/-- The variable that names the host. -/
def hostVariable : Text := "UP_SERVER"

/-- The shell for a line on behalf of a host. -/
def Invocation.ofLine (shell : Text) (vars : Dict Text) (host line : Text) : Invocation :=
  ⟨shell, [shellFlag shell, line], vars.insert hostVariable host⟩

/-- What a program has left behind as a reply; to be ended by a signal is a failure. -/
def ProgramExit.reply (e : ProgramExit) : Reply :=
  ⟨(e.code.getD 1 : Nat), Utf8.decodeLossy e.stdout, Utf8.decodeLossy e.stderr⟩

/-- Run a line on behalf of a host. -/
def Launcher.runLine {μ : Type} (launch : Launcher μ) (shell : Text) (vars : Dict Text) (host line : Text) (m : μ) :
    Except Failure Reply × μ :=
  match launch (.ofLine shell vars host line) m with
  | (some e, m) => (.ok e.reply, m)
  | (none, m) => (.error (.unreachable ("Failed to spawn " ++ shell ++ " for [" ++ host ++ "]")), m)

end Rollout
