import Rollout.FileTree
import Rollout.Text.Utf8

/-!
What all processes of a system share: the files, the streams between processes, the files that are open, and the
time. A file that is open stays there for those who have opened it, whatever becomes of its names.
-/

namespace Rollout.Unix

/-! ### Streams -/

/-- What flows from its writers to its readers, in pieces, each with the time that had been waited until then. -/
structure Stream where
  /-- What is read next. -/
  ready : List (Nat × Text)
  /-- What comes after it, the latest first. -/
  added : List (Nat × Text)
  /-- When the last of its writers had gone. -/
  closed : Nat

namespace Stream

/-- A stream that nobody has written to. -/
def empty : Stream := ⟨[], [], 0⟩

/-- A stream that holds a text. -/
def ofText (t : Text) : Stream := ⟨[(0, t)], [], 0⟩

/-- Pieces, of which those with the same time are put together. -/
def merged : List (Nat × Text) → List (Nat × Text)
  | [] => []
  | (time, t) :: ps => match merged ps with
    | (other, u) :: rest => if time = other then (time, t ++ u) :: rest else (time, t) :: (other, u) :: rest
    | [] => [(time, t)]

/-- All pieces that are left in the stream. -/
def pieces (s : Stream) : List (Nat × Text) := if s.added = [] then s.ready else s.ready ++ merged s.added.reverse

/-- All that is left in the stream. -/
def text (s : Stream) : Text := (s.ready ++ s.added.reverse).flatMap (·.2)

/-- The stream with more at its end. -/
def push (time : Nat) (s : Stream) (t : Text) : Stream := { s with added := (time, t) :: s.added }

theorem text_push (time : Nat) (s : Stream) (t : Text) : (s.push time t).text = s.text ++ t := by
  simp [text, push]

/-- What pieces hold up to a character, when that was there, and what comes after it. -/
def cutAfter (stop : Char) : List (Nat × Text) → Text × Option Nat × List (Nat × Text)
  | [] => ([], none, [])
  | (time, t) :: ps =>
    let line := t.takeWhile (· ≠ stop)
    match t.drop line.length with
    | _ :: rest => (line, some time, if rest.isEmpty then ps else (time, rest) :: ps)
    | [] =>
      let (more, found, left) := cutAfter stop ps
      (line ++ more, found, left)

/-- What is there first in pieces, at most so many characters, when it was there, and what comes after it. -/
def cutReady (count : Nat) : List (Nat × Text) → Text × Option Nat × List (Nat × Text)
  | [] => ([], none, [])
  | (_, []) :: ps => cutReady count ps
  | (time, t) :: ps =>
    let rest := t.drop count
    (t.take count, some time, if rest.isEmpty then ps else (time, rest) :: ps)

/-- The first characters of pieces, when the last of them was there, and what comes after them. -/
def cutAt : Nat → List (Nat × Text) → Text × Option Nat × List (Nat × Text)
  | _, [] => ([], none, [])
  | count, (time, t) :: ps =>
    let part := t.take count
    if part.length < count then
      let (more, found, left) := cutAt (count - part.length) ps
      (part ++ more, found, left)
    else
      let rest := t.drop count
      (part, some time, if rest.isEmpty then ps else (time, rest) :: ps)

end Stream

/-! ### Open files -/

/-- A file that is open. -/
structure Handle where
  /-- The number of the file. -/
  node : Nat
  /-- Where it was when it was opened. -/
  place : List Text
  /-- How many bytes come before what is read or written next. -/
  offset : Nat
  /-- Is everything written at the end? -/
  appends : Bool
  /-- May it be read? -/
  reads : Bool
  /-- May it be written? -/
  writes : Bool
  /-- What comes next in a version of the file. -/
  rest : Option (Nat × Text)

/-- What a descriptor stands for. -/
inductive Descriptor
  /-- The start of a stream. -/
  | reader (stream : Nat)
  /-- The end of a stream. -/
  | writer (stream : Nat)
  /-- Both ends of a stream. -/
  | both (stream : Nat)
  /-- An open file. -/
  | file (handle : Nat)
  /-- A device. -/
  | device (d : Device)
  /-- A directory, from which nothing can be read. -/
  | directory
  deriving DecidableEq

/-! ### Systems -/

/-- What all processes share. -/
structure System where
  /-- All files, from the root on. -/
  root : FileTree
  /-- Open files that have no name any more. -/
  lost : List FileTree
  /-- The streams. -/
  streams : Array Stream
  /-- The files that are open. -/
  handles : Array Handle
  /-- The streams of pipes that have names, by the numbers of their files. -/
  pipes : List (Nat × Nat)
  /-- The number of the next file. -/
  nextNode : Nat
  /-- The number of the next process. -/
  nextNumber : Nat
  /-- The number of bytes in no order that have been read. -/
  drawn : Nat
  /-- When the system was started, in nanoseconds. -/
  epoch : Int
  /-- Signals that processes have been sent by those that they have started, behind their numbers. -/
  raised : List (Nat × Nat)
  /-- How long processes have waited since then, in microseconds. -/
  waited : Nat
  /-- How long they have worked since then, in microseconds. -/
  worked : Nat

namespace System

/-- The time that has passed since the start, in microseconds. -/
def time (s : System) : Nat := s.waited + s.worked

/-- The time, in nanoseconds. -/
def now (s : System) : Int := s.epoch + 1000 * (s.time : Int)

/-- The time at which systems start: the first second of the year 2025. -/
def firstEpoch : Int := 1735689600000000000

/-- The number of the first process. -/
def firstNumber : Nat := 100

/-- The system in which files are, with their names in bytes. -/
def ofFiles (root : FileTree) : System :=
  let (next, root) := (root.mapNames Octets.ofText).numbered firstEpoch 2
  ⟨root, [], #[], #[], [], next, firstNumber, 0, firstEpoch, [], 0, 0⟩

/-- How much time passes between two lines, in microseconds. -/
def pause : Nat := 10000

/-- The system after all its processes have gone, some time later. -/
def rested (s : System) : System :=
  { s with
    lost := []
    streams := #[]
    handles := #[]
    pipes := []
    raised := []
    waited := s.waited + pause }

/-! ### Names -/

/-- The system after the entries of a directory have been changed. -/
def withChangedDir (place : List Text) (s : System) : System :=
  match s.root.at? place with
  | some (.dir es a) => { s with root := s.root.put (.dir es { a with changed := s.now }) place }
  | _ => s

/-- Keep a file that loses a name, if it is open. -/
def keepOpen (t : FileTree) (s : System) : System :=
  if !t.isDir && s.handles.any (·.node = t.about.node) then { s with lost := t :: s.lost } else s

/-- Put something at a place. -/
def put (t : FileTree) (place : List Text) (s : System) : System :=
  let s := match s.root.at? place with
    | some old => s.keepOpen old
    | none => s
  { s with root := s.root.put t place }.withChangedDir place.dropLast

/-- Take away what is at a place. -/
def erase (place : List Text) (s : System) : System :=
  match s.root.at? place with
  | none => s
  | some t => { s.keepOpen t with root := s.root.erase place }.withChangedDir place.dropLast

/-- Make something new at a place. -/
def create (make : About → FileTree) (mode : Nat) (place : List Text) (s : System) : System :=
  let about : About := { About.ofMode mode with
    node := s.nextNode
    changed := s.now
    used := s.now }
  { s with nextNode := s.nextNode + 1 }.put (make about) place

/-- Give what is at a place another place. -/
def move (old new : List Text) (s : System) : System :=
  match s.root.at? old with
  | none => s
  | some t => (s.erase old).put t new

/-- Change what is at a place, under all of its names. -/
def alter (f : FileTree → FileTree) (place : List Text) (s : System) : System :=
  match s.root.at? place with
  | none => s
  | some t =>
    if t.about.shared then { s with root := s.root.mapNode t.about.node f } else { s with root := s.root.put (f t) place }

/-- Give the file at a place another name. -/
def share (old new : List Text) (s : System) : System :=
  let s := s.alter (fun t => t.withAbout { t.about with shared := true }) old
  match s.root.at? old with
  | some t => s.put t new
  | none => s

/-! ### Contents -/

/-- A file with another content. -/
def rewritten (now : Int) (f : Bytes → Bytes) : FileTree → FileTree
  | .file data a => .file (f data) { a with
    changed := now
    version := a.version + 1 }
  | t => t

/-- Change the content of the file at a place. -/
def rewrite (f : Bytes → Bytes) (place : List Text) (s : System) : System := s.alter (rewritten s.now f) place

/-- What is open. -/
def opened? (h : Handle) (s : System) : Option FileTree :=
  let elsewhere := (s.root.findNode? h.node).or (s.lost.find? (·.about.node = h.node))
  match s.root.at? h.place with
  | some t => if t.about.node = h.node then some t else elsewhere
  | none => elsewhere

/-- Change what is open. -/
def alterOpened (f : FileTree → FileTree) (h : Handle) (s : System) : System :=
  let elsewhere : System := { s with
    root := s.root.mapNode h.node f
    lost := s.lost.map fun t => if t.about.node = h.node then f t else t }
  match s.root.at? h.place with
  | some t => if t.about.node = h.node && !t.about.shared then s.alter f h.place else elsewhere
  | none => elsewhere

/-- What can be read next from what is open, and in which version of it. -/
def unread (h : Handle) (s : System) : Nat × Text :=
  match s.opened? h with
  | some (.file data a) => match h.rest with
    | some (version, t) => if version = a.version then (version, t) else (a.version, Octets.ofBytes (data.drop h.offset))
    | none => (a.version, Octets.ofBytes (data.drop h.offset))
  | _ => (0, [])

/-- Bytes with others in place of those from a position on, where zeros fill a gap. -/
def overwritten (offset : Nat) (new data : Bytes) : Bytes :=
  if offset = data.length then data ++ new
  else data.take offset ++ List.replicate (offset - data.length) 0 ++ new ++ data.drop (offset + new.length)

/-- Write to what is open. -/
def writeOpened (i : Nat) (h : Handle) (new : Bytes) (s : System) : System :=
  let size := match s.opened? h with
    | some (.file data _) => data.length
    | _ => 0
  let offset := if h.appends then size else h.offset
  let s := s.alterOpened (rewritten s.now (overwritten offset new)) h
  { s with handles := s.handles.modify i fun h => { h with
    offset := offset + new.length
    rest := none } }

/-- Bytes in no order. -/
def randomBytes (count : Nat) (s : System) : Text × System :=
  let byte (i : Nat) : Char :=
    let x : UInt64 := (UInt64.ofNat (s.drawn + i) + 1) * 0x9e3779b97f4a7c15
    let y := (x ^^^ (x >>> 30)) * 0xbf58476d1ce4e5b9
    Char.ofNat (((y ^^^ (y >>> 27)) * 0x94d049bb133111eb) >>> 33).toUInt8.toNat
  ((List.range count).map byte, { s with drawn := s.drawn + count })

end System

end Rollout.Unix
