import Rollout.Dict
import Rollout.Machine.Calendar.Basic
import Rollout.Machine.Unix.System

/-!
Processes of a system, and the descriptors by which they reach files and streams. All texts of a process are made
of bytes. What a process does is a computation over its state, so that what it does to what all processes share is
seen by the processes after it.
-/

namespace Rollout.Unix

/-! ### Processes -/

/-- When and how a process is ended. -/
structure Deadline where
  /-- When it gets a signal, in microseconds after the start of the system. -/
  time : Nat
  /-- The signal. -/
  signal : Nat
  /-- When it is ended whatever it does, if it has not ended until then. -/
  last : Option Nat

/-- A process. -/
structure Process extends System where
  /-- Its number. -/
  number : Nat
  /-- The numbers of the processes that have started it, the latest first. -/
  ancestors : List Nat
  /-- The names that lead from the root to the current directory. -/
  cwd : List Text
  /-- The environment variables. -/
  env : Dict Text
  /-- The name under which it was started. -/
  name : Text
  /-- The descriptors. -/
  descriptors : List (Nat × Descriptor)
  /-- The permissions that new files do not get. -/
  mask : Nat
  /-- How little claim it has to the machine. -/
  niceness : Int
  /-- What is to be written to the standard output when the process ends, the latest first. -/
  held : List Text
  /-- Why something could not be written to the standard output. -/
  fault : Option Text
  /-- When it is ended at the latest. -/
  deadline : Option Deadline
  /-- The signals that do nothing to it. -/
  ignored : List Nat
  /-- The signals that it deals with itself. -/
  caught : List Nat
  /-- Those of them that have come. -/
  arrived : List Nat

/-- How a process ends before it comes to its end. -/
inductive Ending
  /-- With a status. -/
  | exited (status : Nat)
  /-- By a signal. -/
  | killed (signal : Nat)
  deriving DecidableEq

/-- What a process does. -/
abbrev Act := ExceptT Ending (StateM Process)

/-- What is done with arguments, which ends in a status. -/
abbrev Routine := List Text → Act Nat

/-- The signal of a process that gives up. -/
def abortSignal : Nat := 6

/-- The signal that ends a process whatever it does. -/
def killSignal : Nat := 9

/-- The signal that ends a process which has no more room for what it has begun. -/
def faultSignal : Nat := 11

/-- The signal that ends a process which writes what nobody reads. -/
def pipeSignal : Nat := 13

/-- The signal that asks a process to end. -/
def endSignal : Nat := 15

/-- The signal that ends a process which takes too long. -/
def timeSignal : Nat := 24

/-- End a process that has taken too long. -/
def tooLong {α : Type} : Act α := throw (.killed timeSignal)

/-- The permissions that new files usually do not get. -/
def usualMask : Nat := 0o022

/-- The first process of a system, at a place and in an environment; there is nothing to be read, and what it
writes goes to the streams 0 and 1. -/
def Process.first (s : System) (cwd : List Text) (env : Dict Text) (name : Text) : Process where
  toSystem := { s with
    streams := #[.empty, .empty]
    nextNumber := s.nextNumber + 1 }
  number := s.nextNumber
  ancestors := [1]
  cwd := cwd
  env := env
  name := name
  descriptors := [(0, .device .null), (1, .writer 0), (2, .writer 1)]
  mask := usualMask
  niceness := 0
  held := []
  fault := none
  deadline := none
  ignored := []
  caught := []
  arrived := []

/-! ### Time -/

/-- The zone in which a process tells the time. -/
def zoneOf (p : Process) : Calendar.Zone :=
  match p.env.get? "TZ" with
  | some t => .ofText (if t.head? = some ':' then t.drop 1 else t)
  | none => .universal

/-- End the process if its time is over, unless it can do something about it. -/
def meetDeadline : Act Unit := do
  let p ← get
  match p.deadline with
  | none => return
  | some d =>
    if p.time < d.time then return
    let later := d.last.map fun n => Deadline.mk n killSignal none
    if d.signal ≠ killSignal && p.ignored.contains d.signal then set { p with deadline := later }
    else if d.signal ≠ killSignal && p.caught.contains d.signal then
      set { p with
        deadline := later
        arrived := p.arrived ++ [d.signal] }
    else throw (.killed d.signal)
    if later.any (·.time ≤ p.time) then throw (.killed killSignal)

/-- The number of the process that has started it. -/
def Process.parent (p : Process) : Nat := p.ancestors.headD 0

/-- Take the signals that others have sent to the process. -/
def takeRaised : Act (List Nat) := do
  let p ← get
  set { p with raised := p.raised.filter (·.1 ≠ p.number) }
  return (p.raised.filter (·.1 = p.number)).map (·.2)

/-- Let time pass, so many microseconds; a signal that comes meanwhile may be dealt with. -/
def pass (time : Nat) : Act Unit := do
  let p ← get
  let step := (p.deadline.map fun d => min time (d.time - p.time)).getD time
  set { p with waited := p.waited + step }
  if 0 < time then meetDeadline
  if step < time then
    let q ← get
    let left := time - step
    let step := (q.deadline.map fun d => min left (d.time - q.time)).getD left
    set { q with waited := q.waited + step }
    meetDeadline

/-- Wait until a time has come, without regard to the time that was worked. -/
def passUntil (waited : Nat) : Act Unit := do pass (waited - (← get).waited)

/-- Work for some time, so many microseconds. -/
def work (time : Nat) : Act Unit := do
  modify fun p => { p with worked := p.worked + time }
  meetDeadline

/-! ### Writing -/

/-- What is left in a stream. -/
def Process.stream (p : Process) (i : Nat) : Text := ((p.streams[i]?).map Stream.text).getD []

/-- The process after a change of a stream. -/
def Process.changeStream (p : Process) (i : Nat) (f : Stream → Stream) : Process :=
  { p with streams := p.streams.modify i f }

/-- Change what all processes share. -/
def change (f : System → System) : Act Unit := modify fun p => { p with toSystem := f p.toSystem }

/-- A new stream. -/
def openStream (s : Stream) : Act Nat := do
  let p ← get
  set { p with streams := p.streams.push s }
  return p.streams.size

/-- What is said of a descriptor that does not stand for what is wanted. -/
def badDescriptor : Text := "Bad file descriptor"

/-- Write to what a descriptor stands for; gives the reason if that is not possible. -/
def writeTo (t : Text) (d : Descriptor) : Act (Option Text) := do
  let p ← get
  let toStream (i : Nat) : Act (Option Text) := do
    set (p.changeStream i (·.push p.waited t))
    return none
  match d with
  | .writer i => toStream i
  | .both i => toStream i
  | .file i => match p.handles[i]? with
    | some h =>
      if !h.writes then return some badDescriptor
      else do
        if t ≠ [] then change (·.writeOpened i h (Octets.toBytes t))
        return none
    | none => return some badDescriptor
  | .device .full => return if t = [] then none else some "No space left on device"
  | .device _ => return none
  | _ => return some badDescriptor

/-- Write to a descriptor; gives the reason if that is not possible. -/
def tryWrite (descriptor : Nat) (t : Text) : Act (Option Text) := do
  match (← get).descriptors.lookup descriptor with
  | some d => writeTo t d
  | none => return some badDescriptor

/-- Write to a descriptor. -/
def write (descriptor : Nat) (t : Text) : Act Unit := do
  match ← tryWrite descriptor t with
  | some e => if descriptor = 1 && t ≠ [] then modify fun p => { p with fault := some e }
  | none => return

/-- Write what is to be written at the end. -/
def flush : Act Unit := do
  let p ← get
  match p.held with
  | [] => return
  | ts => do
    set { p with held := [] }
    write 1 ts.reverse.flatten

/-- Write to the standard output when the process ends. -/
def say (t : Text) : Act Unit := modify fun p => { p with held := t :: p.held }

/-- Write a line to the standard output when the process ends. -/
def sayLine (t : Text) : Act Unit := say (t ++ ['\n'])

/-- Write a line to the standard error. -/
def complain (t : Text) : Act Unit := write 2 (t ++ ['\n'])

/-- Write a message of the process to the standard error, after what is to be written to the output. -/
def grumble (t : Text) : Act Unit := do
  flush
  complain ((← get).name ++ ": " ++ t)

/-- End the process with a status after a message. -/
def giveUp {α : Type} (status : Nat) (t : Text) : Act α := do
  grumble t
  throw (.exited status)

/-! ### Reading -/

/-- How much is read of what has no end. -/
def endless : Nat := 131072

/-- Why nothing can be read from a descriptor. -/
def Process.inputFault? (p : Process) (descriptor : Nat) : Option Text :=
  match p.descriptors.lookup descriptor with
  | none => some badDescriptor
  | some (.writer _) => some badDescriptor
  | some .directory => some "Is a directory"
  | some (.file i) => if (p.handles[i]?).any (·.reads) then none else some badDescriptor
  | some _ => none

/-- Take something from the pieces of a stream, and wait until it was there. -/
def takeFrom (i : Nat) (cut : List (Nat × Text) → Text × Option Nat × List (Nat × Text)) : Act (Text × Bool) := do
  let p ← get
  match p.streams[i]? with
  | none => return ([], false)
  | some s => do
    let (t, time, rest) := cut s.pieces
    set (p.changeStream i ({ · with
      ready := rest
      added := [] }))
    passUntil (time.getD s.closed)
    return (t, time.isSome)

/-- Go on in an open file after some characters. -/
def advance (i : Nat) (version count : Nat) (rest : Text) : Act Unit :=
  change fun s => { s with handles := s.handles.modify i fun h => { h with
    offset := h.offset + count
    rest := some (version, rest) } }

/-- Bytes of a device that gives as many as anybody wants. -/
def readDevice (d : Device) (count : Nat) : Act Text := do
  match d with
  | .zero => return List.replicate count '\x00'
  | .full => return List.replicate count '\x00'
  | .random => do
    let p ← get
    let (t, s) := p.toSystem.randomBytes count
    set { p with toSystem := s }
    return t
  | _ => return []

/-- All that can be read from what a descriptor stands for. -/
def readAllFrom (descriptor : Nat) : Act Text := do
  let p ← get
  let whole (ps : List (Nat × Text)) : Text × Option Nat × List (Nat × Text) := (ps.flatMap (·.2), none, [])
  match p.descriptors.lookup descriptor with
  | some (.reader i) => return (← takeFrom i whole).1
  | some (.both i) => return (← takeFrom i whole).1
  | some (.file i) => match p.handles[i]? with
    | some h => do
      if !h.reads then return []
      let (version, t) := p.unread h
      advance i version t.length []
      return t
    | none => return []
  | some (.device d) => readDevice d endless
  | _ => return []

/-- Write what comes from a stream as it comes. -/
def relay (i : Nat) : Nat → Act Unit
  | 0 => return
  | fuel + 1 => do
    let (t, found) ← takeFrom i fun
      | [] => ([], none, [])
      | (time, t) :: ps => (t, some time, ps)
    if found then do
      write 1 t
      relay i fuel

/-- All that can be read from the standard input. -/
def readAll : Act Text := readAllFrom 0

/-- What can be read from a descriptor up to a character, and whether that was there. -/
def readUntil (descriptor : Nat) (stop : Char) : Act (Text × Bool) := do
  let p ← get
  match p.descriptors.lookup descriptor with
  | some (.reader i) => takeFrom i (Stream.cutAfter stop)
  | some (.both i) => takeFrom i (Stream.cutAfter stop)
  | some (.file i) => match p.handles[i]? with
    | some h => do
      if !h.reads then return ([], false)
      let (version, t) := p.unread h
      let line := t.takeWhile (· ≠ stop)
      let rest := t.drop line.length
      advance i version (line.length + if rest.isEmpty then 0 else 1) (rest.drop 1)
      return (line, !rest.isEmpty)
    | none => return ([], false)
  | _ => return ([], false)

/-- At most so many characters that can be read from a descriptor. -/
def readSome (descriptor count : Nat) : Act Text := do
  let p ← get
  match p.descriptors.lookup descriptor with
  | some (.reader i) => return (← takeFrom i (Stream.cutAt count)).1
  | some (.both i) => return (← takeFrom i (Stream.cutAt count)).1
  | some (.file i) => match p.handles[i]? with
    | some h => do
      if !h.reads then return []
      let (version, t) := p.unread h
      let part := t.take count
      advance i version part.length (t.drop count)
      return part
    | none => return []
  | some (.device d) => readDevice d count
  | _ => return []

/-- What is there to be read from a descriptor, at most so many characters, as soon as something is there. -/
def readReady (descriptor count : Nat) : Act Text := do
  match (← get).descriptors.lookup descriptor with
  | some (.reader i) => return (← takeFrom i (Stream.cutReady count)).1
  | some (.both i) => return (← takeFrom i (Stream.cutReady count)).1
  | _ => readSome descriptor count

/-! ### Files -/

/-- What is said of a path that leads nowhere. -/
def describeFault : FileTree.PathFault → Text
  | .missing => "No such file or directory"
  | .notDirectory => "Not a directory"
  | .loop => "Too many levels of symbolic links"
  | .tooLong => "File name too long"

/-- The same, or what a descriptor stands for in place of the device for it, if it stands for something. -/
def Process.behind (p : Process) (t : FileTree) : Option FileTree :=
  match t with
  | .device (.descriptor n) a => match p.descriptors.lookup n with
    | some (.file i) => (p.handles[i]?).bind p.opened?
    | some (.device d) => some (.device d a)
    | some .directory => some .emptyDir
    | some _ => some (.device .pipe a)
    | none => none
  | t => some t

/-- What a path leads to. -/
def Process.find? (p : Process) (path : Text) : Option FileTree := (p.root.find? p.cwd path).bind p.behind

/-- What a path leads to, or what is said if it leads nowhere. -/
def Process.look (p : Process) (path : Text) : Except Text FileTree :=
  match p.root.locate p.cwd path with
  | .ok place => match ((p.root.at? place).getD .emptyDir |> p.behind) with
    | some t => .ok t
    | none => .error (describeFault .missing)
  | .error e => .error (describeFault e)

/-- Does the path lead to a directory? -/
def Process.isDir (p : Process) (path : Text) : Bool := ((p.find? path).map (·.isDir)).getD false

/-- The place of the last name on a path, or what is said if there is no such place. -/
def Process.slot (p : Process) (path : Text) : Except Text (List Text) :=
  (p.root.slotFor p.cwd path).mapError describeFault

/-- What the last name on a path stands for, which may be a link, with its place. -/
def Process.entry (p : Process) (path : Text) : Except Text (List Text × FileTree) := do
  let place ← p.slot path
  match p.root.at? place with
  | some t =>
    if path.getLast? = some '/' then match p.root.locate p.cwd path with
      | .ok place => return (place, (p.root.at? place).getD t)
      | .error e => throw (describeFault e)
    else return (place, t)
  | none => throw (describeFault .missing)

/-- The path of a place. -/
def pathOf (place : List Text) : Text := '/' :: Text.join ['/'] place

/-- The permissions of a new file of which these are wanted. -/
def Process.modeFor (p : Process) (wanted : Nat) : Nat := wanted &&& (0o7777 ^^^ p.mask)

/-- What a file is opened for. -/
inductive Access
  /-- To be read. -/
  | read
  /-- To be written from the start, after what it holds is gone. -/
  | replace
  /-- To be written at its end. -/
  | extend
  /-- To be read and written, from the start. -/
  | update
  deriving DecidableEq

/-- Open the file at a place. -/
def openFile (access : Access) (place : List Text) (node : Nat) : Act Descriptor := do
  let p ← get
  let h : Handle := ⟨node, place, 0, access = .extend, access = .read || access = .update, access ≠ .read, none⟩
  set { p with handles := p.handles.push h }
  if access = .replace then change fun s => s.alterOpened (System.rewritten s.now fun _ => []) h
  return .file p.handles.size

/-- Open the pipe with a number. -/
def openPipe (access : Access) (node : Nat) : Act Descriptor := do
  let i ← match (← get).pipes.lookup node with
    | some i => pure i
    | none => do
      let i ← openStream .empty
      change fun s => { s with pipes := (node, i) :: s.pipes }
      pure i
  return match access with
    | .read => .reader i
    | .update => .both i
    | _ => .writer i

/-- Open what a path leads to, or make it if it is to be written; gives the reason if that is not possible. -/
def openPath (access : Access) (path : Text) : Act (Except Text Descriptor) := do
  let p ← get
  let found := if access = .read then p.root.locate p.cwd path else p.root.placeFor p.cwd path
  match found with
  | .error e => return .error (describeFault e)
  | .ok place => match p.root.at? place with
    | some (.file _ a) => return .ok (← openFile access place a.node)
    | some (.dir ..) => return if access = .read then .ok .directory else .error "Is a directory"
    | some (.device (.descriptor n) _) => match p.descriptors.lookup n with
      | some (.file i) => match p.handles[i]? with
        | some h => return .ok (← openFile access h.place h.node)
        | none => return .error (describeFault .missing)
      | some d => return .ok d
      | none => return .error (describeFault .missing)
    | some (.device .pipe a) => return .ok (← openPipe access a.node)
    | some (.device d _) => return .ok (.device d)
    | some (.link ..) => return .error (describeFault .missing)
    | none => do
      if access = .read then return .error (describeFault .missing)
      if (p.root.at? place.dropLast).isNone then return .error (describeFault .missing)
      let node := p.nextNode
      change (·.create (.file []) (p.modeFor 0o666) place)
      return .ok (← openFile access place node)

/-- The descriptor for writing to a path, at its end or after making it empty, or what is said if there cannot
be one. -/
def openForWriting (extend : Bool) (path : Text) : Act (Except Text Descriptor) :=
  openPath (if extend then .extend else .replace) path

/-- What can be read at a path, or what is said if that is nothing. -/
def readPath (path : Text) : Act (Except Text Text) := do
  let p ← get
  match p.look path with
  | .error e => return .error e
  | .ok (.file data _) => return .ok (Octets.ofBytes data)
  | .ok (.dir ..) => return .error "Is a directory"
  | .ok _ => match ← openPath .read path with
    | .error e => return .error e
    | .ok d => do
      let n := p.descriptors.foldl (fun n e => max n (e.1 + 1)) 3
      modify fun p => { p with descriptors := (n, d) :: p.descriptors }
      let fault := (← get).inputFault? n
      let t ← readAllFrom n
      modify fun p => { p with descriptors := p.descriptors.filter (·.1 ≠ n) }
      return match fault with
        | some e => .error e
        | none => .ok t

/-- Put a text into the file at a place, which may be new. -/
def putText (t : Text) (place : List Text) : Act Unit := do
  let p ← get
  match p.root.at? place with
  | some (.file ..) => change (·.rewrite (fun _ => Octets.toBytes t) place)
  | _ => change (·.create (.file (Octets.toBytes t)) (p.modeFor 0o666) place)

/-- Take away what is at a place. -/
def eraseFile (place : List Text) : Act Unit := change (·.erase place)

/-! ### Processes inside of processes -/

/-- Say why something could not be written, if that was so; gives the status. -/
def meetFault (status : Nat) : Act Nat := do
  let p ← get
  match p.fault with
  | none => return status
  | some e => do
    set { p with fault := none }
    complain (p.name ++ ": write error: " ++ e)
    return max status 1

/-- Do something in another process, of which only what all share comes back; gives the status, or the signal
that ended it. -/
def inside (other : Process → Process) (a : Act Nat) : Act (Except Nat Nat) := do
  flush
  let p ← get
  let finished : Act Nat := do
    let status ← try a catch
      | .exited n => pure n
      | e => throw e
    flush
    meetFault status
  let (r, q) := finished.run.run (other { p with fault := none })
  set { p with toSystem := q.toSystem }
  (← takeRaised).forM fun n => if p.ignored.contains n then pure () else throw (.killed n)
  meetDeadline
  return match r with
    | .ok n => .ok n
    | .error (.exited n) => .ok n
    | .error (.killed n) => .error n

/-- The process as another one that it has started. -/
def Process.forked (p : Process) : Process :=
  { p with
    number := p.nextNumber
    ancestors := p.number :: p.ancestors
    caught := []
    arrived := []
    nextNumber := p.nextNumber + 1 }

end Rollout.Unix
