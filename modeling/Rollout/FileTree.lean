import Rollout.Text.Utf8

/-!
Files and directories, and finding them by paths. A path is followed component by component from a
directory, through symbolic links, of which only so many are followed.
-/

namespace Rollout

/-- What stands for something outside of the files. -/
inductive Device
  /-- Nothing: it is always empty, and what is written to it is gone. -/
  | null
  /-- As many zeros as anybody wants. -/
  | zero
  /-- As many zeros as anybody wants, and no room for what is written. -/
  | full
  /-- As many bytes in no order as anybody wants. -/
  | random
  /-- What a descriptor of the process that uses it stands for. -/
  | descriptor (n : Nat)
  /-- A place where one process reads what another one writes. -/
  | pipe
  deriving DecidableEq

/-- What is known of a file beside what it holds. -/
structure About where
  /-- The permissions: three bits each for the owner, the group and the others, and three special ones. -/
  mode : Nat
  /-- The number that all names of one file share. -/
  node : Nat
  /-- Has it, or had it, more than one name? -/
  shared : Bool
  /-- When it was changed, in nanoseconds. -/
  changed : Int
  /-- When it was read, in nanoseconds. -/
  used : Int
  /-- The number of the owner. -/
  owner : Nat
  /-- The number of the group. -/
  group : Nat
  /-- How often its content has been changed. -/
  version : Nat
  deriving DecidableEq

/-- What is known of a new file with permissions. -/
def About.ofMode (mode : Nat) : About := ⟨mode, 0, false, 0, 0, 0, 0, 0⟩

/-- A file, a directory with what it holds by name, a symbolic link with the path it points to, or a device. -/
inductive FileTree
  | file (data : Bytes) (about : About)
  | dir (entries : List (Text × FileTree)) (about : About)
  | link (target : Text) (about : About)
  | device (d : Device) (about : About)

instance : Inhabited FileTree := ⟨.device .null (.ofMode 0o666)⟩

namespace FileTree

/-- The permissions of a file that everybody reads and its owner writes. -/
def plainMode : Nat := 0o644

/-- The permissions of a file that is also a program, or of a directory. -/
def openMode : Nat := 0o755

/-- The permissions of a link. -/
def linkMode : Nat := 0o777

/-- The permission of anybody to run a file. -/
def runMode : Nat := 0o111

/-- An empty directory. -/
def emptyDir : FileTree := .dir [] (.ofMode openMode)

/-- A file with the usual permissions. -/
def ofData (data : Bytes) (executable : Bool) : FileTree :=
  .file data (.ofMode (if executable then openMode else plainMode))

/-- A link to a path. -/
def ofTarget (target : Text) : FileTree := .link target (.ofMode linkMode)

/-- A device that everybody uses. -/
def ofDevice (d : Device) : FileTree := .device d (.ofMode 0o666)

/-- What is known of something. -/
def about : FileTree → About
  | .file _ a => a
  | .dir _ a => a
  | .link _ a => a
  | .device _ a => a

/-- The same with something else known of it. -/
def withAbout (a : About) : FileTree → FileTree
  | .file data _ => .file data a
  | .dir es _ => .dir es a
  | .link target _ => .link target a
  | .device d _ => .device d a

/-- Is it a directory? -/
def isDir : FileTree → Bool
  | .dir .. => true
  | _ => false

/-- May it be run as a program? -/
def isProgram : FileTree → Bool
  | .file _ a => a.mode &&& runMode ≠ 0
  | _ => false

mutual

/-- The tree with every name and every target of a link changed. -/
def mapNames (f : Text → Text) : FileTree → FileTree
  | .dir es a => .dir (mapEntries f es) a
  | .link target a => .link (f target) a
  | t => t

/-- The entries with every name and every target of a link changed. -/
def mapEntries (f : Text → Text) : List (Text × FileTree) → List (Text × FileTree)
  | [] => []
  | (n, t) :: es => (f n, mapNames f t) :: mapEntries f es

end

mutual

/-- The tree with everything changed that has a number. -/
def mapNode (node : Nat) (f : FileTree → FileTree) : FileTree → FileTree
  | .dir es a => .dir (mapNodeIn node f es) a
  | t => if t.about.node = node then f t else t

/-- The entries with everything changed that has a number. -/
def mapNodeIn (node : Nat) (f : FileTree → FileTree) : List (Text × FileTree) → List (Text × FileTree)
  | [] => []
  | (n, t) :: es => (n, mapNode node f t) :: mapNodeIn node f es

end

mutual

/-- The tree in which everything has a number of its own, from a number on, and a time. -/
def numbered (time : Int) : Nat → FileTree → Nat × FileTree
  | n, .dir es a =>
    let (m, es) := numberedIn time (n + 1) es
    (m, .dir es { a with node := n, changed := time, used := time })
  | n, t => (n + 1, t.withAbout { t.about with node := n, changed := time, used := time })

/-- The entries in which everything has a number of its own, from a number on, and a time. -/
def numberedIn (time : Int) : Nat → List (Text × FileTree) → Nat × List (Text × FileTree)
  | n, [] => (n, [])
  | n, (name, t) :: es =>
    let (m, t) := numbered time n t
    let (k, es) := numberedIn time m es
    (k, (name, t) :: es)

end

mutual

/-- The number of names that something has by its number. -/
def countNode (node : Nat) : FileTree → Nat
  | .dir es _ => countNodeIn node es
  | t => if t.about.node = node then 1 else 0

/-- The number of names among the entries that something has by its number. -/
def countNodeIn (node : Nat) : List (Text × FileTree) → Nat
  | [] => 0
  | (_, t) :: es => countNode node t + countNodeIn node es

end

mutual

/-- What has a number in the tree. -/
def findNode? (node : Nat) : FileTree → Option FileTree
  | .dir es a => if a.node = node then some (.dir es a) else findNodeIn? node es
  | t => if t.about.node = node then some t else none

/-- What has a number among the entries. -/
def findNodeIn? (node : Nat) : List (Text × FileTree) → Option FileTree
  | [] => none
  | (_, t) :: es => (findNode? node t).or (findNodeIn? node es)

end

/-- What stands first under the name. -/
def child? (name : Text) : List (Text × FileTree) → Option FileTree
  | [] => none
  | (n, t) :: es => if n = name then some t else child? name es

/-- Put something under the name, in place of what stands there first. -/
def setEntry (name : Text) (t : FileTree) : List (Text × FileTree) → List (Text × FileTree)
  | [] => [(name, t)]
  | (n, u) :: es => if n = name then (name, t) :: es else (n, u) :: setEntry name t es

/-- What the names lead to, from directory to directory; links are not followed. -/
def at? : FileTree → List Text → Option FileTree
  | t, [] => some t
  | .dir es _, name :: names => match child? name es with
    | some t => at? t names
    | none => none
  | _, _ :: _ => none

/-- Put something where the names lead to; directories that are missing on the way are made. -/
def put : FileTree → FileTree → List Text → FileTree
  | _, new, [] => new
  | .dir es a, new, name :: names =>
    .dir (setEntry name (put ((child? name es).getD emptyDir) new names) es) a
  | _, new, name :: names => .dir [(name, put emptyDir new names)] (.ofMode openMode)

/-- Take away what the names lead to. -/
def erase : FileTree → List Text → FileTree
  | .dir es a, [name] => .dir (es.filter fun e => e.1 ≠ name) a
  | .dir es a, name :: names => match child? name es with
    | some t => .dir (setEntry name (erase t names) es) a
    | none => .dir es a
  | t, _ => t

/-! ### Paths -/

/-- The number of links that are followed on one path. -/
def maxLinks : Nat := 40

/-- The longest path, in bytes, that leads anywhere. -/
def maxPath : Nat := 4095

/-- The longest name, in bytes, that something can have. -/
def maxName : Nat := 255

/-- Why a path leads nowhere. -/
inductive PathFault
  /-- Something on it does not exist. -/
  | missing
  /-- It goes on after something that is no directory. -/
  | notDirectory
  /-- It takes too many links. -/
  | loop
  /-- It, or a name on it, is too long. -/
  | tooLong
  deriving DecidableEq

/-- Can the path lead anywhere? -/
def isPath (path : Text) : Bool := path ≠ [] && (Utf8.encode path).length ≤ maxPath

/-- The components of a path, and whether it starts at the root. -/
def components (path : Text) : Bool × List Text :=
  match path with
  | '/' :: rest => (true, Text.split '/' rest)
  | _ => (false, Text.split '/' path)

/-- The place that the components lead to from a directory whose names stand in reverse; links are
followed as long as the budget lasts. -/
def follow (root : FileTree) : Nat → List Text → List Text → Except PathFault (List Text)
  | _, here, [] => .ok here.reverse
  | budget, here, c :: cs =>
    if ((root.at? here.reverse).map isDir).getD false then
      if c = [] ∨ c = ['.'] then follow root budget here cs
      else if c = ['.', '.'] then follow root budget here.tail cs
      else if maxName < (Utf8.encode c).length then .error .tooLong
      else match root.at? (here.reverse ++ [c]) with
        | none => .error .missing
        | some (.link target _) =>
          match budget with
          | 0 => .error .loop
          | budget + 1 =>
            let (absolute, ts) := components target
            follow root budget (if absolute then [] else here) (ts ++ cs)
        | some _ => follow root budget (c :: here) cs
    else .error .notDirectory
  termination_by budget _ cs => (budget, cs.length)

/-- The place that a path leads to from a directory, or why it leads nowhere. -/
def locate (root : FileTree) (cwd : List Text) (path : Text) : Except PathFault (List Text) :=
  if path = [] then .error .missing
  else if !isPath path then .error .tooLong
  else
    let (absolute, cs) := components path
    follow root maxLinks (if absolute then [] else cwd.reverse) cs

/-- The place that a path leads to from a directory. -/
def resolve (root : FileTree) (cwd : List Text) (path : Text) : Option (List Text) :=
  (locate root cwd path).toOption

/-- What a path leads to from a directory. -/
def find? (root : FileTree) (cwd : List Text) (path : Text) : Option FileTree :=
  (resolve root cwd path).bind root.at?

/-- The components of a path without empty ones at its end. -/
def namesOf (path : Text) : Bool × List Text :=
  let (absolute, cs) := components path
  (absolute, (cs.reverse.dropWhile (· = [])).reverse)

/-- The place of the last name on a path, whether or not there is something, and even if it is a link: the
directory that holds it must exist. -/
def slotFor (root : FileTree) (cwd : List Text) (path : Text) : Except PathFault (List Text) :=
  if path = [] then .error .missing
  else if !isPath path then .error .tooLong
  else
    let (absolute, cs) := namesOf path
    let start := if absolute then [] else cwd.reverse
    match cs.getLast? with
    | none => follow root maxLinks start cs
    | some name =>
      if name = ['.'] ∨ name = ['.', '.'] then follow root maxLinks start cs
      else do
        let parent ← follow root maxLinks start cs.dropLast
        if !((root.at? parent).map isDir).getD false then throw .notDirectory
        if maxName < (Utf8.encode name).length then throw .tooLong
        return parent ++ [name]

/-- The place where something would be made that a path names: where the path leads to, or, if its last
component does not exist, where it would; links at the end are followed. -/
def placeWithin (root : FileTree) (cwd : List Text) : Nat → Text → Except PathFault (List Text)
  | 0, _ => .error .loop
  | budget + 1, path => match locate root cwd path with
    | .ok place => .ok place
    | .error .missing => do
      let place ← slotFor root cwd path
      match root.at? place with
      | some (.link target _) => placeWithin root place.dropLast budget target
      | _ => if path.getLast? = some '/' then throw .missing else return place
    | .error e => .error e

/-- The place where a path leads to or would lead to: its last component need not exist, but the
directory that holds it must. -/
def placeFor (root : FileTree) (cwd : List Text) (path : Text) : Except PathFault (List Text) :=
  placeWithin root cwd (maxLinks + 1) path

/-- Make the directories that a path names one inside the other. -/
def makeDirs (root : FileTree) (cwd : List Text) : List Text → FileTree × List Text
  | [] => (root, cwd)
  | c :: cs =>
    match follow root maxLinks cwd.reverse [c] with
    | .ok place => makeDirs root place cs
    | .error _ => makeDirs (root.put emptyDir (cwd ++ [c])) (cwd ++ [c]) cs

/-- Put something where a path leads to, and make the directories that are missing on the way. -/
def make (root : FileTree) (cwd : List Text) (path : Text) (new : FileTree) : FileTree :=
  let cs := (components path).2
  let (root, parent) := makeDirs root cwd cs.dropLast
  let name := cs.getLast?.getD []
  match new with
  | .dir .. => (makeDirs root parent [name]).1
  | _ => root.put new ((follow root maxLinks parent.reverse [name]).toOption.getD (parent ++ [name]))

/-! ### Contents -/

/-- The bytes that reading gives. -/
def data? : FileTree → Option Bytes
  | .file data _ => some data
  | .device .. => some []
  | _ => none

end FileTree

end Rollout
