import Rollout.Dict
import Rollout.Text.Basic
import Rollout.Text.Utf8

/-!
The table of commands that an Upfile declares, its written form, and the list of them that is shown. A
command without guards also serves as a value that other lines refer to.
-/

namespace Rollout

/-- A unit of work: its lines run unless all of its guards pass. -/
structure Command where
  /-- Names of the commands that tell whether the work is already done. -/
  guards : List Text
  /-- The lines to run, in order. -/
  lines : List Text
  deriving DecidableEq

namespace Command

/-- A command without guards may be referred to as a value. -/
def isValue (c : Command) : Bool := c.guards.isEmpty

/-- What a reference to the command stands for: its lines without the blanks around them. -/
def value (c : Command) : Text := Text.trim (Text.join ['\n'] c.lines)

end Command

/-- The commands of an Upfile by name. -/
structure Upfile where
  /-- The commands by name. -/
  commands : Dict Command
  /-- The command that the Upfile declares first. -/
  defaultName : Text
  deriving DecidableEq

namespace Upfile

/-- The command of that name. -/
def get? (u : Upfile) (name : Text) : Option Command := u.commands.get? name

/-- The names of the commands, the default first and the others in ascending order. -/
def names (u : Upfile) : List Text := u.defaultName :: u.commands.keys.filter (· ≠ u.defaultName)

/-- The values that references to commands stand for. -/
def values (u : Upfile) : Dict Text := (u.commands.filter fun _ c => c.isValue).map fun _ c => c.value

/-! ### Choosing a command -/

/-- The Upfile has no command of that name. -/
structure UndefinedCommand where
  /-- The name. -/
  name : Text
  deriving DecidableEq

/-- What the error is reported as. -/
def UndefinedCommand.message (e : UndefinedCommand) : Text := "undefined command: " ++ e.name

/-- The command that is asked for with its name; the default if none is asked for. -/
def choose (u : Upfile) (wanted : Option Text) : Except UndefinedCommand (Text × Command) :=
  let name := wanted.getD u.defaultName
  match u.get? name with
  | some c => .ok (name, c)
  | none => .error ⟨name⟩

/-! ### Written form -/

/-- A command as it is written: its name and guards on one line, its lines after a tab each, and an
empty line. -/
def writeCommand (name : Text) (c : Command) : Text :=
  name ++ c.guards.flatMap (' ' :: ·) ++ ['\n'] ++ c.lines.flatMap (fun l => '\t' :: l ++ ['\n']) ++ ['\n']

/-- The Upfile as it is written, its commands in the order of `names`. -/
def write (u : Upfile) : Text :=
  u.names.flatMap fun name =>
    match u.get? name with
    | some c => writeCommand name c
    | none => []

/-! ### List to read -/

/-- The width of a name is the number of its bytes. -/
def nameWidth (name : Text) : Nat := (Utf8.encode name).length

/-- The width of the column of names. -/
def columnWidth (u : Upfile) : Nat := ((u.names.map nameWidth).max?).getD 0

/-- The line of a command. -/
def listLine (u : Upfile) (width : Nat) (name : Text) : Text :=
  let guards := ((u.get? name).map (·.guards)).getD []
  let condition : Text := if guards = [] then [] else "if not: " ++ Text.commaList guards
  let mark : Text := if name = u.defaultName then " (default)" else []
  Text.trimEnd ("  " ++ name ++ List.replicate (width - nameWidth name + 2) ' ' ++ condition ++ mark)

/-- The list of commands. -/
def list (u : Upfile) : Text :=
  "Available Commands:\n" ++ u.names.flatMap fun name => u.listLine u.columnWidth name ++ ['\n']

end Upfile

end Rollout
