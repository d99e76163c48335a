import Rollout.FileTree

/-!
The checksum of a directory. Each visible file contributes its path and the hash of its contents, in the
order of paths, so the checksum changes only when a visible file does. Names that start with a dot, and
symbolic links, are not visible.
-/

namespace Rollout

/-- A function from bytes to a hash. -/
abbrev Hash := Bytes → Bytes

namespace Checksum

mutual

/-- The visible files below something that stands under the name, each with the components of its path. -/
def filesAt (name : Text) : FileTree → List (List Text × Bytes)
  | .file data _ => [([name], data)]
  | .dir entries _ => (filesIn entries).map fun f => (name :: f.1, f.2)
  | .link .. => []
  | .device .. => []

/-- The visible files of a directory, in the order in which it lists them. -/
def filesIn : List (Text × FileTree) → List (List Text × Bytes)
  | [] => []
  | (name, t) :: es => (if name.head? = some '.' then [] else filesAt name t) ++ filesIn es

end

/-- The visible files of a directory in the order of their paths, component by component. -/
def visibleFiles (entries : List (Text × FileTree)) : List (List Text × Bytes) :=
  (filesIn entries).mergeSort fun a b => !decide (b.1 < a.1)

/-- Bytes in lower case hexadecimal. -/
def hexText (bs : Bytes) : Text :=
  bs.flatMap fun b => [Nat.digitChar (b.toNat / 16), Nat.digitChar (b.toNat % 16)]

/-- What a file contributes: its path, a NUL, the hash of its contents in hexadecimal, and a newline. -/
def contribution (hash : Hash) (f : List Text × Bytes) : Bytes :=
  Utf8.encode (Text.join ['/'] f.1) ++ [0] ++ Utf8.encode (hexText (hash f.2)) ++ [10]

/-- The checksum of a directory. -/
def ofEntries (hash : Hash) (entries : List (Text × FileTree)) : Text :=
  hexText (hash ((visibleFiles entries).flatMap (contribution hash)))

/-! ### Paths -/

/-- Why a directory has no checksum. -/
inductive WalkError
  /-- The path leads to no directory. -/
  | walk (path : Text)
  /-- The path of a file is too long to be opened. -/
  | openFile (path : Text)
  deriving DecidableEq

/-- What the error is reported as. -/
def WalkError.message : WalkError → Text
  | .walk path => "Failed to walk " ++ path
  | .openFile path => "checksum: Failed to open " ++ path

/-- The path of something in the directory that a path leads to. -/
def pathIn (path name : Text) : Text := if path.getLast? = some '/' then path ++ name else path ++ '/' :: name

theorem sizeOf_tail_lt (e : Text × FileTree) (es : List (Text × FileTree)) : sizeOf es < sizeOf (e :: es) := by
  rw [List.cons.sizeOf_spec]
  omega

theorem sizeOf_inner_lt (name : Text) (inner : List (Text × FileTree)) (about : About) (es : List (Text × FileTree)) :
    sizeOf inner < sizeOf ((name, FileTree.dir inner about) :: es) := by
  rw [List.cons.sizeOf_spec, Prod.mk.sizeOf_spec, FileTree.dir.sizeOf_spec]
  omega

/-- The first visible directory below a path whose own path is too long. -/
def longDirectory (path : Text) : List (Text × FileTree) → Option Text
  | [] => none
  | (name, .dir inner _) :: es =>
    if name.head? = some '.' then longDirectory path es
    else if !FileTree.isPath (pathIn path name) then some (pathIn path name)
    else (longDirectory (pathIn path name) inner).or (longDirectory path es)
  | _ :: es => longDirectory path es
  termination_by es => sizeOf es
  decreasing_by
    · exact sizeOf_tail_lt _ _
    · exact sizeOf_inner_lt _ _ _ _
    · exact sizeOf_tail_lt _ _
    · exact sizeOf_tail_lt _ _

/-- The first visible file below a path whose own path is too long. -/
def longFile (path : Text) (entries : List (Text × FileTree)) : Option Text :=
  ((visibleFiles entries).map fun f => pathIn path (Text.join ['/'] f.1)).find? (!FileTree.isPath ·)

/-- The checksum of the directory that a path leads to. -/
def ofPath (hash : Hash) (root : FileTree) (cwd : List Text) (path : Text) : Except WalkError Text :=
  match root.find? cwd path with
  | some (.dir entries _) => match longDirectory path entries, longFile path entries with
    | some p, _ => .error (.walk p)
    | none, some p => .error (.openFile p)
    | none, none => .ok (ofEntries hash entries)
  | _ => .error (.walk path)

end Checksum

end Rollout
