import Rollout.Machine.Shell.Builtin.Completing
import Rollout.Machine.Shell.Builtin.Declaring
import Rollout.Machine.Shell.Builtin.Directories
import Rollout.Machine.Shell.Builtin.Jobs
import Rollout.Machine.Shell.Builtin.Naming
import Rollout.Machine.Shell.Builtin.Reading

/-!
The commands that a shell runs by itself, by their names; those that run other commands are not among them.
-/

namespace Rollout.Shell.Builtin

/-- Succeed. -/
def succeed : Routine := fun _ => return 0

/-- Fail. -/
def fail : Routine := fun _ => return 1

/-- What a command of a name does, with an action for what jobs have to do. -/
def routine? (catchUp : CatchUp) (name : Text) : Option Routine :=
  match String.ofList name with
  | ":" => some succeed
  | "true" => some succeed
  | "false" => some fail
  | "[" => some bracket
  | "alias" => some nameTexts
  | "bg" => some resume
  | "bind" => some bind
  | "break" => some leave
  | "caller" => some caller
  | "cd" => some cd
  | "chdir" => some cd
  | "compgen" => some compgen
  | "complete" => some complete
  | "compopt" => some compopt
  | "continue" => some again
  | "declare" => some declare
  | "dirs" => some dirs
  | "disown" => some disown
  | "echo" => some echo
  | "enable" => some enable
  | "exit" => some exit
  | "export" => some exportTo
  | "fc" => some fixCommand
  | "fg" => some resume
  | "getopts" => some getopts
  | "hash" => some hash
  | "help" => some help
  | "history" => some history
  | "jobs" => some jobs
  | "kill" => some kill
  | "let" => some letAll
  | "logout" => some logout
  | "popd" => some popd
  | "printf" => some printf
  | "pushd" => some pushd
  | "pwd" => some pwd
  | "read" => some read
  | "readonly" => some readonly
  | "return" => some finish
  | "set" => some setting
  | "shift" => some shift
  | "shopt" => some shopt
  | "suspend" => some suspend
  | "test" => some test
  | "times" => some times
  | "trap" => some trap
  | "type" => some type
  | "typeset" => some declare
  | "ulimit" => some ulimit
  | "umask" => some umask
  | "unalias" => some unalias
  | "unset" => some unset
  | "wait" => some (wait catchUp)
  | _ => none

/-- What a command of a name does in a dialect. -/
def find? (catchUp : CatchUp) (d : Dialect) (name : Text) : Option Routine :=
  if name = "local".toList then some (match d with
    | .plain => declareLocal
    | .rich => declare)
  else if isName d name then routine? catchUp name
  else none

end Rollout.Shell.Builtin
