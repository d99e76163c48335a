import Rollout.Machine.Files
import Rollout.Machine.Shell.Spawn
import Rollout.Session

/-!
The command line. The current directory, the environment and the standard input are read before the session
starts, and what it has shown is written when it has ended. Lines run on a machine of the library's own that has
the files that were read; nothing is written back.
-/

namespace Rollout.CommandLine

/-- The tree that an entry of a directory leads to. Whether a file may be run cannot be seen, so every file
may. -/
partial def snapshot (entry : IO.FS.DirEntry) : IO FileTree := do
  match (← entry.path.symlinkMetadata).type with
  | .dir =>
    let entries ← (← entry.path.readDir).toList.mapM fun e => do
      return (e.fileName.toList, ← snapshot e)
    return .dir entries (.ofMode FileTree.openMode)
  | .symlink =>
    try
      return .ofTarget (← IO.FS.realPath entry.path).toString.toList
    catch _ => return .ofTarget []
  | .file => return .ofData (← IO.FS.readBinFile entry.path).toList true
  | .other => return .ofDevice .null

/-- The environment, as the system shows it. -/
def environment : IO (Dict Text) := do
  try
    let text := Utf8.decodeLossy (← IO.FS.readBinFile "/proc/self/environ").toList
    return .ofList ((Text.split '\x00' text).filterMap fun entry =>
      let name := entry.takeWhile (· ≠ '=')
      if name.length < entry.length then some (name, entry.drop (name.length + 1)) else none)
  catch _ => return .empty

/-- The workspace of the process. -/
def workspace : IO Workspace := do
  let path ← IO.currentDir
  let names := (Text.split '/' path.toString.toList).filter (· ≠ [])
  return ⟨Workspace.system.put (← snapshot ⟨path, "."⟩) names, names, ← environment⟩

/-- All that can be read from a stream. -/
partial def readAll (input : IO.FS.Stream) : IO Bytes := do
  let chunk ← input.read 65536
  if chunk.isEmpty then return [] else return chunk.toList ++ (← readAll input)

/-- The number of random words at hand; if a run needs more, zeros follow. -/
def wordCount : Nat := 10000

/-- Random words. -/
def randomWords : IO Words :=
  (List.range wordCount).mapM fun _ => do return UInt32.ofNat (← IO.rand 0 4294967295)

/-- How the program is called. -/
def usage : String :=
  "Usage: up [-f UPFILE] [-i INVENTORY] [-c COMMAND] [-t TAGS] [-n SERIAL] [-d DIRECTORY] [-p] [-v] [-l]"

/-- Start a session, write what it has shown, and give the exit code. -/
def start (o : Options) : IO UInt32 := do
  let w ← workspace
  let input ← if Session.readsInput w o then readAll (← IO.getStdin) else pure []
  let (result, shown) := (Session.start Shell.Machine.launch (.ofWorkspace w) w o input (← randomWords)).result
  IO.print (String.ofList shown.stdout)
  IO.eprint (String.ofList shown.stderr)
  match result with
  | .ok _ => return 0
  | .error (.run (.panicked tag)) =>
    IO.eprintln ("thread panicked: " ++ String.ofList (RunError.panicked tag).message)
    return 101
  | .error e =>
    IO.eprintln ("Error: " ++ String.ofList e.message)
    return 1

end Rollout.CommandLine

/-- Run the program with the arguments of the command line. -/
def main (arguments : List String) : IO UInt32 := do
  match Rollout.Options.parse (arguments.map String.toList) with
  | .ok o => Rollout.CommandLine.start o
  | .error .help =>
    IO.println Rollout.CommandLine.usage
    return 0
  | .error .version =>
    IO.println "up 0.1.0"
    return 0
  | .error _ =>
    IO.eprintln Rollout.CommandLine.usage
    return 2
