import Rollout.Dotenv
import Rollout.Inventory.Json
import Rollout.Text.Printable
import Rollout.Upfile.Parser
import Rollout.Workspace

/-!
Loading what a run needs from the workspace: the Upfile, the inventory, and the variables.
-/

namespace Rollout

/-- Where an Upfile comes from. -/
inductive UpfileSource
  /-- The standard input. -/
  | input
  /-- A file. -/
  | file (path : Text)
  deriving DecidableEq

/-- The source that the option names: a dash stands for the standard input. -/
def UpfileSource.ofOption (path : Text) : UpfileSource := if path = ['-'] then .input else .file path

/-- The source as it is written in errors. -/
def UpfileSource.describe : UpfileSource → Text
  | .input => "from stdin"
  | .file path => Text.quoted path

/-- Why something could not be loaded. -/
inductive LoadError
  /-- The Upfile does not exist. -/
  | openUpfile (path : Text)
  /-- The Upfile is no text. -/
  | readUpfile (source : UpfileSource)
  /-- The text is no Upfile. -/
  | parseUpfile (source : UpfileSource) (cause : Upfile.ParseError)
  /-- The inventory does not exist. -/
  | openInventory (path : Text)
  /-- The file is no inventory. -/
  | parseInventory (path : Text) (cause : Inventory.DecodeError)
  /-- The file is no file of variables. -/
  | parseVars (file : Text)
  deriving DecidableEq

/-- What the error is reported as. -/
def LoadError.message : LoadError → Text
  | .openUpfile path => "Failed to open Upfile " ++ Text.quoted path
  | .readUpfile source => "Failed to parse Upfile " ++ source.describe ++ ": Failed to read Upfile"
  | .parseUpfile source cause => "Failed to parse Upfile " ++ source.describe ++ ": " ++ cause.message
  | .openInventory path => "Failed to open inventory " ++ Text.quoted path
  | .parseInventory path cause => "Failed to parse inventory " ++ Text.quoted path ++ ": " ++ cause.message
  | .parseVars file => "Failed to parse " ++ file

namespace Workspace

/-- The Upfile that bytes hold. -/
def readUpfile (source : UpfileSource) (bytes : Option Bytes) : Except LoadError Upfile :=
  match bytes.bind Utf8.decode? with
  | none => .error (.readUpfile source)
  | some t => (Upfile.parse t).mapError (.parseUpfile source)

/-- The bytes that are read from something that was opened: the standard input starts anew with each opening. -/
def contents (input : Bytes) : FileTree → Option Bytes
  | .device (.descriptor 0) _ => some input
  | t => t.data?

/-- Load the Upfile from a file or the standard input. -/
def loadUpfile (w : Workspace) (input : Bytes) : UpfileSource → Except LoadError Upfile
  | .input => readUpfile .input (some input)
  | .file path => match w.find? path with
    | none => .error (.openUpfile path)
    | some t => readUpfile (.file path) (contents input t)

/-- Load the inventory from a file. -/
def loadInventory (w : Workspace) (input : Bytes) (path : Text) : Except LoadError Inventory :=
  match w.find? path with
  | none => .error (.openInventory path)
  | some t => match contents input t with
    | none => .error (.parseInventory path {})
    | some bytes => (Inventory.decode bytes).mapError (.parseInventory path)

/-- The name of the file of variables, which depends on the deployment environment. -/
def varsFile (w : Workspace) : Text :=
  match w.env.get? "UP_ENV" with
  | some name => ".env." ++ name
  | none => ".env"

/-- What is logged when a file of variables is there. -/
def varsNotice (file : Text) : Text := "🌿 Loading environment from: " ++ file

/-- The file of variables, if it is there. -/
def presentVarsFile (w : Workspace) : Option Text :=
  (w.find? w.varsFile).map fun _ => w.varsFile

/-- The variables: those of the environment, and over them those of the file. -/
def loadVars (w : Workspace) (input : Bytes) : Except LoadError (Dict Text) :=
  match w.find? w.varsFile with
  | none => .ok w.env
  | some t =>
    match ((contents input t).bind Utf8.decode?).map (Dotenv.parse w.env) with
    | some (.ok set) => .ok (w.env.insertAll set.entries)
    | _ => .error (.parseVars w.varsFile)

/-- The shell that the environment asks for. -/
def shell (w : Workspace) : Text :=
  match w.env.get? "SHELL" with
  | some s => if s = [] then "sh" else s
  | none => "sh"

end Workspace

end Rollout
