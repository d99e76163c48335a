import Rollout.Machine.Archive
import Rollout.Machine.Calendar.Format
import Rollout.Machine.Program.Bundle.Naming
import Rollout.Machine.Program.Permission

/-!
What is wanted of an archive, what is known while that is done, and how members are shown.
-/

namespace Rollout.Program.Bundle

open Unix Archive

/-! ### What is wanted -/

/-- What is wanted of an archive. -/
structure Wish where
  /-- What is done. -/
  deed : Deed
  /-- The archive. -/
  archive : Text
  /-- How much is told. -/
  verbosity : Nat
  /-- Is told in which block something is? -/
  tellsBlocks : Bool
  /-- Are blocks of zeros no end? -/
  overZeros : Bool
  /-- How long a record is. -/
  recordSize : Nat
  /-- How headers are written. -/
  style : Style
  /-- Do names stay as they are, even if they lead outside? -/
  absolute : Bool
  /-- Are links followed? -/
  follows : Bool
  /-- Are the files in a directory taken in the order of their names? -/
  sorted : Bool
  /-- Are files removed that are stored? -/
  removes : Bool
  /-- Is it no mistake if a file cannot be read? -/
  lenient : Bool
  /-- The owner that files get, with a name and a number. -/
  owner : Option (Text × Option Nat)
  /-- The group that files get. -/
  group : Option (Text × Option Nat)
  /-- How permissions are changed. -/
  mode : Option Text
  /-- When files are said to have been changed. -/
  changed : Option Int
  /-- Only files count that were changed after this. -/
  since : Option Int
  /-- Are owners told by their numbers? -/
  numeric : Bool
  /-- Are times told to the second? -/
  fullTime : Bool
  /-- Are names shown as they are changed? -/
  showsChanged : Bool
  /-- Changes of names. -/
  changes : List NameChange
  /-- How many components are left out in front. -/
  strips : Nat
  /-- The directory in which everything is put. -/
  topLevel : Option Text
  /-- What happens to files that are there. -/
  meeting : Meeting
  /-- Do directories that are there keep what is known of them? -/
  keepsDirs : Bool
  /-- Is what files hold written to the standard output? -/
  toOutput : Bool
  /-- The command that gets what files hold. -/
  command : Option Text
  /-- Do files get permissions as they are stored? -/
  samePermissions : Bool
  /-- Do files get the owners as they are stored? -/
  sameOwner : Bool
  /-- Is the time of files now? -/
  touches : Bool
  /-- Are all names held against patterns? -/
  nameManner : Option Manner
  /-- The name of the archive itself. -/
  label : Option Text
  /-- Files whose presence keeps a directory from being stored. -/
  tags : List Text

/-! ### What is known -/

/-- What is known while something is done. -/
structure Work where
  /-- The status. -/
  status : Nat
  /-- What has been left out of names. -/
  leftOut : List (Bool × Text)
  /-- How wide owners and sizes are shown. -/
  width : Nat
  /-- The parts of an archive that is written, the last first. -/
  parts : List Text
  /-- How many blocks they have. -/
  blocks : Nat
  /-- The names of files that have others. -/
  linked : List (Nat × Text)
  /-- What is to be known of directories in the end. -/
  directories : List (List Text × About)

/-- Doing something with an archive. -/
abbrev Working := StateT Work Act

/-- A mistake after which it goes on. -/
def fault (t : Text) : Working Unit := do
  flush
  grumble t
  modify fun w => { w with status := 2 }

/-- The safe part of a name, or of the name to which a hard link leads. -/
def safeName (k : Wish) (isTarget : Bool) (path : Text) : Working Text := do
  let n := if k.absolute then 0 else unsafeLength path
  let front := path.take n
  if 0 < n && !(← get).leftOut.contains (isTarget, front) then
    flush
    grumble ("Removing leading \x60" ++ front ++ "' from " ++ (if isTarget then "hard link targets" else "member names").toList)
    modify fun w => { w with leftOut := (isTarget, front) :: w.leftOut }
  let rest := path.drop n
  if rest.isEmpty && n = 0 then grumble "Substituting \x60.' for empty member name"
  return if rest.isEmpty then ['.'] else rest

/-! ### Lists -/

/-- The letter for the kind of a member. -/
def Kind.letter : Kind → Char
  | .file => '-'
  | .hardLink => 'h'
  | .symbolicLink => 'l'
  | .characterDevice => 'c'
  | .blockDevice => 'b'
  | .directory => 'd'
  | .pipe => 'p'
  | .label => 'V'
  | .other c => c

/-- Show a member under a name, with all that is known of it if wanted. -/
def showMember (k : Wish) (long : Bool) (block : Nat) (m : Member) (name : Text) : Working Unit := do
  let p := (← getThe Process)
  let toErrors := k.toOutput || (k.deed = .create && k.archive = ['-'])
  let put (t : Text) : Working Unit := do
    if toErrors then
      flush
      complain t
    else sayLine t
  let where_ : Text := if k.tellsBlocks then "block " ++ Text.ofNat block ++ ": " else []
  if !long then put (where_ ++ shownName name)
  else
    let own (name : Text) (n : Nat) : Text := if k.numeric || name.isEmpty then Text.ofNat n else name
    let owners := own m.ownerName m.owner ++ '/' :: own m.groupName m.group
    let isDevice := decide (m.kind = .characterDevice) || decide (m.kind = .blockDevice)
    let size := if isDevice then Text.ofNat m.device.1 ++ ',' :: Text.ofNat m.device.2 else Text.ofNat m.size
    let least := owners.length + 1 + size.length
    let width := max (← get).width least
    modify fun w => { w with width := width }
    let reading := Calendar.Reading.ofMoment (zoneOf p) (m.changed * Calendar.second)
    let time := Calendar.format reading (if k.fullTime then "%Y-%m-%d %H:%M:%S" else "%Y-%m-%d %H:%M")
    let behind : Text := match m.kind with
      | .symbolicLink => " -> " ++ shownName m.target
      | .hardLink => " link to " ++ shownName m.target
      | .label => "--Volume Header--"
      | _ => []
    put (where_ ++ Kind.letter m.kind :: modeText m.mode ++ ' ' :: owners ++ padLeft (width - least + size.length + 1) size
      ++ ' ' :: time ++ ' ' :: shownName name ++ behind)

end Rollout.Program.Bundle
