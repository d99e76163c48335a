import Rollout.Machine.Program.Bundle.Work

/-!
Putting files into archives: each with what is known of it, and directories with all that is in them.
-/

namespace Rollout.Program.Bundle

open Unix Archive

/-! ### Members -/

/-- The name of a number, or nothing if it has none. -/
def ownName (known : List (Text × Nat)) (n : Nat) : Text := ((known.find? (·.2 = n)).map (·.1)).getD []

/-- A number and its name after a wish to change them. -/
def changedOwner (wish : Option (Text × Option Nat)) (known : List (Text × Nat)) (n : Nat) : Text × Nat :=
  match wish with
  | none => (ownName known n, n)
  | some (name, some number) => (if name.isEmpty then ownName known number else name, number)
  | some (name, none) => (name, (known.lookup name).getD n)

/-- What is known of something, as a member without a name. -/
def memberOf (k : Wish) (mask : Nat) (t : FileTree) : Member :=
  let about := t.about
  let (ownerName, owner) := changedOwner k.owner userNumbers about.owner
  let (groupName, group) := changedOwner k.group groupNumbers about.group
  let data : Text := match t with
    | .file data _ => Octets.ofBytes data
    | _ => []
  { name := []
    kind := match t with
      | .file .. => .file
      | .dir .. => .directory
      | .link .. => .symbolicLink
      | .device .pipe _ => .pipe
      | .device .. => .characterDevice
    target := match t with
      | .link target _ => target
      | _ => []
    mode := ((k.mode.bind fun m => changeMode mask t.isDir m about.mode).getD about.mode) &&& 0o7777
    owner := owner
    group := group
    ownerName := if k.numeric then [] else ownerName
    groupName := if k.numeric then [] else groupName
    changed := k.changed.getD (about.changed / Calendar.second)
    size := data.length
    data := data
    device := match t with
      | .device .null _ => (1, 3)
      | .device .zero _ => (1, 5)
      | .device .full _ => (1, 7)
      | .device .random _ => (1, 8)
      | _ => (5, 0) }

/-- Put a member into the archive. -/
def store (k : Wish) (path : Text) (m : Member) : Working Bool := do
  match m.written k.style with
  | .ok t => do
    modify fun w => { w with
      parts := t :: w.parts
      blocks := w.blocks + t.length / blockSize }
    return true
  | .error e => do
    fault (colonName path ++ match e with
      | .tooLong most => ": file name is too long (max " ++ Text.ofNat most ++ "); not dumped"
      | .undivided => ": file name is too long (cannot be split); not dumped"
      | .longTarget => ": link name is too long; not dumped")
    return false

/-! ### Files -/

/-- Is a name left out because of a pattern? -/
def isLeftOut (patterns : List NamePattern) (path : Text) : Bool := patterns.any (·.picks path)

/-- What a path stands for, which is followed if links are. -/
def lookAt (k : Wish) (path : Text) : Act (Except Text (List Text × FileTree)) := do
  let p ← get
  let path := if withoutSlashes path = [] then path else withoutSlashes path
  match p.entry path with
  | .ok (place, .link target a) =>
    if k.follows then match p.root.locate p.cwd path with
      | .ok place => return .ok (place, (p.root.at? place).getD default)
      | .error e => return .error (describeFault e)
    else return .ok (place, .link target a)
  | .ok (place, t) => return .ok (place, t)
  | .error e => return .error e

/-- The entries of a directory in the order in which they are stored. -/
def entriesOf (k : Wish) (es : List (Text × FileTree)) : List Text :=
  let names := es.map (·.1)
  if k.sorted then names.mergeSort fun a b => !decide (b < a) else names

/-- Store what a path stands for, and what is in it; the depth bounds directories inside of each other. -/
def storePath (k : Wish) (archive : Option Nat) (patterns : List NamePattern) (recursive : Bool) : Nat → Text → Working Unit
  | 0, _ => return
  | depth + 1, path => do
    let safe ← safeName k false path
    match ← liftM (lookAt k path : Act _) with
    | .error e =>
      if k.lenient then
        flush
        grumble (colonName path ++ ": Warning: Cannot stat: " ++ e)
      else fault (colonName path ++ ": Cannot stat: " ++ e)
    | .ok (place, t) => do
      let p := ← getThe Process
      let name := k.changes.foldl (fun t x => if x.names then x.apply t else t) safe
      let isDir := t.isDir
      let m := { memberOf k p.mask t with name := if isDir && name.getLast? ≠ some '/' then name ++ ['/'] else name }
      let m := { m with
        target := if m.kind = .symbolicLink then
          k.changes.foldl (fun t x => if x.symbolic then x.apply t else t) m.target else m.target }
      let shown := if k.showsChanged then m.name
        else if isDir && path.getLast? ≠ some '/' then path ++ ['/'] else path
      let isOld : Bool := match k.since with
        | some since => !isDir && t.about.changed < since
        | none => false
      if !isDir && archive = some t.about.node then
        flush
        grumble (colonName path ++ ": file is the archive; not dumped")
      else if isOld then pure ()
      else do
        let w ← get
        let isShared := !isDir && t.about.shared && 1 < p.root.countNode t.about.node
        let m ← match if isShared then w.linked.lookup t.about.node else none with
          | some first => do
            let target ← safeName k true first
            pure { m with
              kind := Kind.hardLink
              target := k.changes.foldl (fun t x => if x.hard then x.apply t else t) target
              size := 0
              data := [] }
          | none => do
            if isShared then
              modify fun w => { w with linked := (t.about.node, path) :: w.linked }
            pure m
        if 0 < k.verbosity then showMember k (decide (1 < k.verbosity)) w.blocks m shown
        let _ ← store k path m
        match t with
        | .dir es _ =>
          if recursive then
            let tags := es.filter fun e => k.tags.contains e.1
            let names := if tags.isEmpty then entriesOf k es else tags.map (·.1)
            names.forM fun name => do
              let path := below path name
              if isLeftOut patterns path then return
              storePath k archive patterns recursive depth path
        | _ => pure ()
        if k.removes then
          match (← getThe Process).root.at? place with
          | some (.dir (_ :: _) _) =>
            fault (colonName path ++ ": Cannot rmdir: Directory not empty")
          | some _ => liftM (eraseFile place : Act Unit)
          | none => pure ()

end Rollout.Program.Bundle
