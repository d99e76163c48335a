import Rollout.Machine.Program.Paths
import Rollout.Machine.Program.Perl.Machine

/-!
How scripts read and write: files, texts, directories and commands, each behind a handle, and the files that the
arguments name.
-/

namespace Rollout.Program.Perl

open Unix

/-! ### Errors -/

/-- The numbers of errors. -/
def errorNumbers : List (String × Nat) :=
  [("Operation not permitted", 1), ("No such file or directory", 2), ("Input/output error", 5), ("Bad file descriptor", 9),
    ("No child processes", 10), ("Permission denied", 13), ("File exists", 17), ("Not a directory", 20),
    ("Is a directory", 21), ("Invalid argument", 22), ("Inappropriate ioctl for device", 25), ("File too large", 27),
    ("No space left on device", 28), ("Illegal seek", 29), ("Read-only file system", 30), ("Broken pipe", 32),
    ("Numerical argument out of domain", 33), ("Numerical result out of range", 34), ("File name too long", 36),
    ("Directory not empty", 39), ("Too many levels of symbolic links", 40)]

/-- The number of an error. -/
def errorNumber (reason : Text) : Nat :=
  ((errorNumbers.find? fun e => e.1.toList = reason).map (·.2)).getD 5

/-- The text of an error. -/
def errorText (n : Nat) : Text :=
  match errorNumbers.find? fun e => e.2 = n with
  | some (t, _) => t.toList
  | none => if n = 0 then [] else "Unknown error " ++ Text.ofNat n

/-- Remember why something was not possible. -/
def setError (reason : Text) : Doing Unit := setGlobal "!" (.both (errorNumber reason : Nat) reason)

/-! ### Handles -/

/-- The file with a number. -/
def portAt (i : Nat) : Doing Port := .looking fun m => m.ports.getD i ⟨[], .closed, false, [], false, [], 0⟩

/-- Change the file with a number. -/
def changePort (i : Nat) (f : Port → Port) : Doing Unit := .changing fun m => ((), { m with ports := m.ports.modify i f })

/-- The file that a value stands for. -/
def portOf? (v : Value) : Doing (Option Nat) := do
  match v with
  | .reference .handle i => return some i
  | .reference .scalar i => match ← valueAt i with
    | .reference .handle i => return some i
    | _ => return none
  | .absent => return none
  | .reference .. => return none
  | v => do
    let name := v.toText
    let name := if name.head? = some '*' then name.drop 1 else name
    global? .handle (qualified (← get).package name)

/-- The descriptor that a file has. -/
def Port.descriptor? (p : Port) : Option Nat :=
  match p.stand with
  | .descriptor n => some n
  | _ => none

/-- Write what is held for a file. -/
def flushPort (i : Nat) : Doing Unit := do
  let p ← portAt i
  match p.stand with
  | .descriptor 1 => (Unix.flush : Act Unit)
  | .descriptor n =>
    if !p.held.isEmpty then
      changePort i fun p => { p with held := [] }
      let _ ← (tryWrite n p.held.reverse.flatten : Act _)
  | _ => return

/-- Write what is held for all files. -/
def flushPorts : Doing Unit := do
  let n ← Doing.looking fun m => m.ports.size
  (List.range n).forM flushPort

/-- Write to a file; tells whether that is possible. -/
def writePort (i : Nat) (t : Text) : Doing Bool := do
  let p ← portAt i
  match p.stand with
  | .descriptor n => do
    if !p.writes && n ≠ 1 && n ≠ 2 then
      setError badDescriptor
      return false
    if n = 1 then (say t : Act Unit) else if n = 2 then (write 2 t : Act Unit)
    else changePort i fun p => { p with held := t :: p.held }
    let m ← get
    if m.output = i then
      if (← globalValue "|").isTrue then flushPort i
    return true
  | .memory cell => do
    let v ← valueAt cell
    setCell cell (.text (v.toText ++ t))
    return true
  | .feeding _ => do
    changePort i fun p => { p with held := t :: p.held }
    return true
  | _ => do
    setError badDescriptor
    return false

/-- The least number that no descriptor has. -/
def freeDescriptor (p : Process) : Nat :=
  ((List.range (p.descriptors.length + 4)).find? fun n => 3 ≤ n && (p.descriptors.lookup n).isNone).getD 3

/-- Let a number stand for a descriptor. -/
def putDescriptor (n : Nat) (d : Descriptor) : Act Unit :=
  modify fun p => { p with descriptors := (n, d) :: p.descriptors.filter (·.1 ≠ n) }

/-- Give children the environment that the script has. -/
def shareEnvironment : Doing Unit := do
  let pairs ← pairsOf (← globalOf .hash "ENV")
  modifyEnv (Dict.ofList (pairs.map fun e => (e.1, e.2.toText)))
where
  modifyEnv (d : Dict Text) : Doing Unit := (modify fun p => { p with env := d } : Act Unit)

/-- Run a command in a shell; gives its status as it is kept. -/
def runShell (line : Text) (ds : List (Nat × Descriptor)) : Doing Nat := do
  flushPorts
  shareEnvironment
  let run ← Doing.looking (·.run)
  let n ← (runLine run "sh" line ds : Act Nat)
  return if n < 256 then 256 * n else n - 256

/-- What a command prints, and its status. -/
def outputOf (line : Text) : Doing (Text × Nat) := do
  flushPorts
  let i ← (openStream .empty : Act Nat)
  let n ← runShell line [(1, .writer i)]
  return ((← Doing.process).stream i, n)

/-- Does a command have to be read by a shell? -/
def needsShell (line : Text) : Bool := line.any "$&*(){}[]'\";\\|?<>~\x60\n".toList.contains

/-- Run a program; gives its status as it is kept, or -1 if it cannot be started. -/
def runProgram (name : Text) (arguments : List Text) : Doing Int := do
  flushPorts
  shareEnvironment
  let run ← Doing.looking (·.run)
  match ← (Unix.start run name arguments : Act Started) with
  | .ended status => return 256 * status
  | .killed signal => return signal
  | .refused _ reason => do
    setError reason
    return -1

/-- Close a file; tells whether it was open. -/
def closePort (i : Nat) : Doing Bool := do
  let p ← portAt i
  flushPort i
  changePort i fun p => { p with
    stand := .closed
    buffer := []
    held := []
    lines := 0
    ended := false }
  match p.stand with
  | .closed => return false
  | .descriptor n => do
    (modify fun q => { q with descriptors := q.descriptors.filter (·.1 ≠ n) } : Act Unit)
    return true
  | .feeding line => do
    let s ← (openStream (.ofText p.held.reverse.flatten) : Act Nat)
    let status ← runShell line [(0, .reader s)]
    setGlobal "?" (.ofNat status)
    return status = 0
  | .fed status => do
    setGlobal "?" (.ofNat status)
    return status = 0
  | _ => return true

/-- Close all files to which something is written. -/
def closeWriters : Doing Unit := do
  let n ← Doing.looking fun m => m.ports.size
  (List.range n).forM fun i => do
    let p ← portAt i
    if p.writes || !p.held.isEmpty then
      if p.stand ≠ .descriptor 1 && p.stand ≠ .descriptor 2 then
        let _ ← closePort i

/-- Let a file stand somewhere. -/
def settle (i : Nat) (stand : Stand) (writes : Bool) (buffer : Text) (ended : Bool) : Doing Unit :=
  changePort i fun p => { p with
    stand := stand
    writes := writes
    buffer := buffer
    ended := ended
    held := []
    lines := 0 }

/-- Let a file stand for a descriptor; it keeps its number if it has one. -/
def attach (i : Nat) (writes : Bool) (d : Descriptor) : Doing Unit := do
  let old := (← portAt i).descriptor?
  let _ ← closePort i
  let n := old.getD (freeDescriptor (← Doing.process))
  (putDescriptor n d : Act Unit)
  settle i (.descriptor n) writes [] false

/-- The mode and the name that a text asks for by signs around the name. -/
def modeIn (t : Text) : Text × Text :=
  let t := t.dropWhile fun c => c = ' ' || c = '\n' || c = '\t'
  let t := (t.reverse.dropWhile fun c => c = ' ' || c = '\n' || c = '\t').reverse
  let trimmed (t : Text) : Text := t.dropWhile (· = ' ')
  match t with
  | '+' :: '<' :: rest => ("+<", trimmed rest)
  | '+' :: '>' :: rest => ("+>", trimmed rest)
  | '>' :: '>' :: '&' :: rest => (">>&", trimmed rest)
  | '>' :: '>' :: rest => (">>", trimmed rest)
  | '>' :: '&' :: rest => (">&", trimmed rest)
  | '>' :: rest => (['>'], trimmed rest)
  | '<' :: '&' :: rest => ("<&", trimmed rest)
  | '<' :: rest => (['<'], trimmed rest)
  | '|' :: rest => ("|-", trimmed rest)
  | t => if t.getLast? = some '|' then ("-|", t.dropLast) else (['<'], t)

/-- Open a file in a mode; tells whether that is possible. -/
def openPort (i : Nat) (mode : Text) (target : Value) : Doing Bool := do
  -- a layer behind the mode makes no difference
  let mode := (mode.takeWhile (· ≠ ':')).filter (· ≠ ' ')
  let failed (reason : Text) : Doing Bool := do
    setError reason
    return false
  let file (access : Access) (writes : Bool) : Doing Bool := do
    flushPorts
    let path ← textOf target
    if path = ['-'] && (mode = ['<'] || mode = ['>']) then
      settle i (.descriptor (if writes then 1 else 0)) writes [] false
      return true
    match ← (openPath access path : Act _) with
    | .ok d => do
      attach i writes d
      return true
    | .error e => failed e
  let copy (writes : Bool) : Doing Bool := do
    let t ← textOf target
    let t := if t.head? = some '=' then t.drop 1 else t
    let number : Option Nat ← (do
      if let .reference .handle j := target then return (← portAt j).descriptor?
      else if t ≠ [] && t.all Char.isDigit then return Text.toNat? t
      else match ← portOf? (.text t) with
        | some j => return (← portAt j).descriptor?
        | none => return none)
    flushPorts
    let descriptors := (← Doing.process).descriptors
    match number.bind fun n => descriptors.lookup n with
    | some d => do
      attach i writes d
      return true
    | none => failed badDescriptor
  match target, String.ofList mode with
  | .reference .scalar cell, "<" => do
    let t ← textOf (← valueAt cell)
    let _ ← closePort i
    settle i (.memory cell) false t true
    return true
  | .reference .scalar cell, ">" => do
    let _ ← closePort i
    setCell cell (.text [])
    settle i (.memory cell) true [] true
    return true
  | .reference .scalar cell, ">>" => do
    let _ ← closePort i
    settle i (.memory cell) true [] true
    return true
  | _, "<" => file .read false
  | _, ">" => file .replace true
  | _, ">>" => file .extend true
  | _, "+<" => file .update true
  | _, "+>" => do
    let _ ← (openPath .replace target.toText : Act _)
    file .update true
  | _, ">&" => copy true
  | _, ">&=" => copy true
  | _, ">>&" => copy true
  | _, "<&" => copy false
  | _, "<&=" => copy false
  | _, "|-" => do
    let _ ← closePort i
    settle i (.feeding (← textOf target)) true [] true
    return true
  | _, "-|" => do
    let _ ← closePort i
    let line ← textOf target
    let (t, status) ← outputOf line
    settle i (.fed status) false t true
    return true
  | _, m => dieHere ("Unknown open() mode '" ++ m ++ "'")

/-! ### Reading -/

/-- Read more of a file; tells whether there was more. -/
def readMore (i : Nat) : Doing Bool := do
  let p ← portAt i
  match p.stand with
  | .descriptor n => do
    if p.ended && n ≠ 0 then return false
    let t ← (readReady n 8192 : Act Text)
    changePort i fun p => { p with
      buffer := p.buffer ++ t
      ended := t.isEmpty }
    return !t.isEmpty
  | _ => return false

/-- Read all of a file. -/
def readRest : Nat → Nat → Doing Unit
  | 0, _ => return
  | fuel + 1, i => do if ← readMore i then readRest fuel i

/-- The number of characters up to the end of the first place where a text stands in another one. -/
def endOf (what : Text) : Nat → Text → Option Nat
  | n, t =>
    if what.isPrefixOf t then some (n + what.length)
    else match t with
      | [] => none
      | _ :: rest => endOf what (n + 1) rest

/-- Read a record up to a separator. -/
def recordUpTo (i : Nat) (separator : Text) : Nat → Doing Text
  | 0 => return []
  | fuel + 1 => do
    let p ← portAt i
    match endOf separator 0 p.buffer with
    | some n => do
      changePort i fun p => { p with buffer := p.buffer.drop n }
      return p.buffer.take n
    | none => do
      if ← readMore i then recordUpTo i separator fuel
      else
        changePort i fun p => { p with buffer := [] }
        return p.buffer

/-- Leave out newlines in front of a record. -/
def skipNewlines (i : Nat) : Nat → Doing Unit
  | 0 => return
  | fuel + 1 => do
    let p ← portAt i
    match p.buffer with
    | '\n' :: _ => do
      changePort i fun p => { p with buffer := p.buffer.dropWhile (· = '\n') }
      skipNewlines i fuel
    | [] => do if ← readMore i then skipNewlines i fuel
    | _ => return

/-- How often more of a file is read. -/
def maxReadings : Nat := 1000000

/-- The next record of a file. -/
def nextRecord (i : Nat) : Doing (Option Text) := do
  let separator ← globalValue "/"
  if (← portAt i).stand = .descriptor 0 then flushPort (← globalOf .handle "STDOUT")
  let t ← match separator with
    | .absent => do
      readRest maxReadings i
      let p ← portAt i
      changePort i fun p => { p with buffer := [] }
      pure p.buffer
    | v =>
      if v.toText.isEmpty then do
        skipNewlines i maxReadings
        let t ← recordUpTo i "\n\n" maxReadings
        skipNewlines i 1
        pure t
      else recordUpTo i v.toText maxReadings
  if t.isEmpty then return none
  changePort i fun p => { p with lines := p.lines + 1 }
  modify fun m => { m with lastRead := some i }
  return some t

/-- Is a file at its end? -/
def atEnd (i : Nat) : Doing Bool := do
  if (← portAt i).buffer.isEmpty then return !(← readMore i) else return false

/-- Say something with the place in the script. -/
def warnHere (t : Text) : Doing Unit := do
  let place ← placeHere
  (write 2 (t ++ place) : Act Unit)

/-- Let the next file of the arguments be the one that is read; tells whether there is one. -/
def nextArgument : Nat → Doing (Option Nat)
  | 0 => return none
  | fuel + 1 => do
    let m ← get
    let arguments ← globalOf .array "ARGV"
    let i ← globalOf .handle "ARGV"
    let finishOutput : Doing Unit := do
      if m.inPlace.isSome then
        let out ← globalOf .handle "ARGVOUT"
        let _ ← closePort out
        let standard ← globalOf .handle "STDOUT"
        modify fun m => { m with output := standard }
    let cells ← cellsOf arguments
    if !m.started && cells.isEmpty then
      modify fun m => { m with
        started := true
        argument := some i }
      setGlobal "ARGV" (.text ['-'])
      changePort i fun p => { p with
        name := []
        stand := .descriptor 0
        ended := false }
      return some i
    modify fun m => { m with started := true }
    match cells[0]? with
    | none => do
      finishOutput
      modify fun m => { m with
        started := false
        argument := none }
      return none
    | some cell => do
      setCells arguments (cells.extract 1 cells.size)
      let path ← textOf (← valueAt cell)
      setGlobal "ARGV" (.text path)
      finishOutput
      let count := (← portAt i).lines
      let opened ← if path = ['-'] then do
          settle i (.descriptor 0) false [] false
          pure true
        else openPort i ['<'] (.text path)
      if opened then
        changePort i fun p => { p with
          name := []
          lines := count }
        modify fun m => { m with argument := some i }
        if let some ending := m.inPlace then
          readRest maxReadings i
          let p ← portAt i
          let out ← globalOf .handle "ARGVOUT"
          if ending ≠ [] then
            let backup := if ending.contains '*' then
                ending.flatMap fun c => if c = '*' then baseName path else [c]
              else path ++ ending
            if ← openPort out ['>'] (.text backup) then
              let _ ← writePort out p.buffer
              let _ ← closePort out
          let _ ← openPort out ['>'] (.text path)
          modify fun m => { m with output := out }
        return some i
      else
        let reason := (← globalValue "!").toText
        warnHere ("Can't open " ++ path ++ ": " ++ reason)
        nextArgument fuel

/-- The next record of the files that the arguments name. -/
def nextInput : Nat → Doing (Option Text)
  | 0 => return none
  | fuel + 1 => do
    match (← get).argument with
    | some i => match ← nextRecord i with
      | some t => return some t
      | none => do
        modify fun m => { m with argument := none }
        if (← nextArgument 100000).isSome then nextInput fuel else return none
    | none => if (← nextArgument 100000).isSome then nextInput fuel else return none

/-- The records that are left of a file. -/
def allRecords (i : Nat) : Nat → Doing (List Text)
  | 0 => return []
  | fuel + 1 => do
    match ← nextRecord i with
    | some t => return t :: (← allRecords i fuel)
    | none => return []

/-- The records that are left of the files that the arguments name. -/
def allInput : Nat → Doing (List Text)
  | 0 => return []
  | fuel + 1 => do
    match ← nextInput 100000 with
    | some t => return t :: (← allInput fuel)
    | none => return []

/-! ### Names of files -/

/-- The texts that alternatives in braces stand for. -/
def bracedTexts : Nat → Text → List Text
  | 0, t => [t]
  | fuel + 1, t =>
    let lead := t.takeWhile (· ≠ '\x7b')
    let body := (t.drop (lead.length + 1)).takeWhile (· ≠ '\x7d')
    let rest := t.drop (lead.length + 1 + body.length)
    if rest.isEmpty then [t]
    else ((Text.split ',' body).flatMap fun choice => (bracedTexts fuel (rest.drop 1)).map fun r => lead ++ choice ++ r)

/-- The paths that lead to what patterns cover, one for each directory on the way. -/
def pathsBelow (p : Process) : List Text → List Text → List Text
  | [], found => found
  | pattern :: patterns, found =>
    let next := found.flatMap fun dir =>
      if pattern.any "*?[".toList.contains then
        match p.find? (if dir.isEmpty then ['.'] else dir) with
        | some (.dir entries _) =>
          let names := (entries.map (·.1)).filter fun n =>
            (pattern.head? = some '.' || n.head? ≠ some '.') && (namePattern pattern).covers n
          (names.mergeSort fun a b => decide (a ≤ b)).map (dir ++ ·)
        | _ => []
      else if (p.entry (dir ++ pattern)).toOption.isSome || pattern.isEmpty then [dir ++ pattern]
      else []
    pathsBelow p patterns (if patterns.isEmpty then next else next.map (· ++ ['/']))

/-- The names that patterns in a text stand for; what is no pattern stands for itself. -/
def namesFor (p : Process) (t : Text) : List Text :=
  let words := (Text.split ' ' (t.map fun c => if c = '\n' || c = '\t' then ' ' else c)).filter (· ≠ [])
  (words.flatMap (bracedTexts 20)).flatMap fun w =>
    if w.any "*?[".toList.contains then pathsBelow p (Text.split '/' w) [[]] else [w]

end Rollout.Program.Perl
