import Rollout.Dict
import Rollout.FileTree

/-!
Where the program works: the files of a system, the current directory, and the process environment.
-/

namespace Rollout

/-- The surroundings of a process. -/
structure Workspace where
  /-- All files, from the root on. -/
  root : FileTree
  /-- The names that lead from the root to the current directory. -/
  cwd : List Text
  /-- The environment variables. -/
  env : Dict Text

namespace Workspace

/-- Files with these names that hold these lines. -/
def textFiles (files : List (String × List String)) : List (Text × FileTree) :=
  files.map fun (name, lines) =>
    (name.toList, .ofData (Utf8.encode (lines.flatMap fun l => l.toList ++ ['\n'])) false)

/-- A directory with entries. -/
def directory (entries : List (Text × FileTree)) : FileTree := .dir entries (.ofMode FileTree.openMode)

/-- Put something where a path leads to. -/
def add (w : Workspace) (path : Text) (t : FileTree) : Workspace :=
  { w with root := w.root.make w.cwd path t }

/-- What a path leads to. -/
def find? (w : Workspace) (path : Text) : Option FileTree := w.root.find? w.cwd path

end Workspace

end Rollout
