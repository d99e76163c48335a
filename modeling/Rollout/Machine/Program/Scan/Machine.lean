import Rollout.Machine.Program.Input
import Rollout.Machine.Program.Scan.Table
import Rollout.Machine.Program.Scan.Token
import Rollout.Machine.Unix.Executable

/-!
What a scan of records goes through: its variables and arrays, the record and its fields, each of which is made from
the other where it is needed, and the files and commands that are read and written.
-/

namespace Rollout.Program.Scan

open Unix

/-- What a name holds. -/
inductive Slot
  /-- A value. -/
  | value (v : Value)
  /-- An array, by its number. -/
  | table (i : Nat)
  /-- Nothing yet; if it becomes an array, this is its number. -/
  | either (i : Nat)

/-- A file or a command that is read. -/
structure Reader where
  /-- Its name. -/
  name : Text
  /-- Is it a command? -/
  isCommand : Bool
  /-- What has not been read. -/
  rest : Text
  /-- The status of the command. -/
  status : Nat

/-- A file or a command that is written to. -/
structure Writer where
  /-- Its name. -/
  name : Text
  /-- Is it a command? -/
  isCommand : Bool
  /-- Where the file is open. -/
  target : Option Descriptor
  /-- What has not been written, the latest first. -/
  held : List Text

/-- The state of a scan. -/
structure Machine where
  /-- Runs programs. -/
  run : Runner
  /-- The functions. -/
  functions : Array Function
  /-- The names of the variables of the whole script. -/
  names : List Text
  /-- The variables of the whole script. -/
  shared : Array Slot
  /-- The variables of the function. -/
  own : Array Slot
  /-- The arrays. -/
  tables : Array Table
  /-- The record. -/
  record : Text
  /-- Its fields. -/
  fields : Array Value
  /-- Are the fields those of the record? -/
  known : Bool
  /-- Has the record to be put together from its fields? -/
  stale : Bool
  /-- What is left of the file whose records are scanned, if one is open. -/
  main : Option Text
  /-- The number of the next argument. -/
  argument : Nat
  /-- Has a file been opened for the scan? -/
  opened : Bool
  /-- The files and commands that are read. -/
  readers : List Reader
  /-- The files and commands that are written to, the one that was used last first. -/
  writers : List Writer
  /-- The rules whose span of records has begun, by their numbers. -/
  spans : List Nat
  /-- The state of the numbers in no order. -/
  random : List Nat
  /-- What they were started from. -/
  seed : Value
  /-- The status with which the scan will end. -/
  status : Nat

/-- Why something is not gone on with. -/
inductive Halt
  /-- The next record is to be scanned. -/
  | record
  /-- The next file is to be scanned. -/
  | file
  /-- The scan is over. -/
  | quit
  /-- Something was wrong. -/
  | failed

/-- What is done in a scan. -/
abbrev ScanM := ExceptT Halt (StateT Machine Act)

/-! ### Numbers of variables -/

/-- The number of a variable that means something to the scan. -/
def special (name : String) : Nat := (specialNames.idxOf? name).getD 0

/-- The number of fields. -/
def fieldCount : Nat := special "NF"

/-- The text by which numbers become texts. -/
def convertFormat : Nat := special "CONVFMT"

/-- What a variable of the whole script holds as a value. -/
def Machine.valueOf (m : Machine) (i : Nat) : Value :=
  match m.shared[i]? with
  | some (.value v) => v
  | _ => .unset

/-- The text by which numbers become texts. -/
def Machine.convert (m : Machine) : Text := match m.valueOf convertFormat with
  | .text t => t
  | .input t => t
  | _ => "%.6g"

/-- A variable of the whole script as a text. -/
def Machine.textOf (m : Machine) (name : String) : Text := (m.valueOf (special name)).toText m.convert

/-- Set a variable of the whole script. -/
def setShared (i : Nat) (v : Value) : ScanM Unit := modify fun m => { m with shared := m.shared.set! i (.value v) }

/-- Count a variable up. -/
def countUp (name : String) : ScanM Unit := do
  let i := special name
  setShared i (.number (((← get).valueOf i).toNumber + 1))

/-- A value as a text. -/
def textOf (v : Value) : ScanM Text := do return v.toText (← get).convert

/-- End the scan because something is wrong. -/
def fail {α : Type} (message : Text) : ScanM α := do
  let m ← get
  let place := "FILENAME=\"" ++ m.textOf "FILENAME" ++ "\" FNR=" ++ m.textOf "FNR" ++ " NR=" ++ m.textOf "NR"
  grumble ("run time error: " ++ message ++ "\n\t" ++ place)
  throw .failed

/-- What an action gives, or the end of the scan with what is wrong. -/
def orFail {α : Type} (r : Except Text α) : ScanM α := do
  match r with
  | .ok a => return a
  | .error e => fail e

/-- End the scan because a file cannot be used. -/
def giveUpFile {α : Type} (message : Text) : ScanM α := do
  grumble message
  throw .failed

/-! ### The record and its fields -/

/-- Cut the record into fields if that is to be done. -/
def needFields : ScanM Unit := do
  let m ← get
  if !m.known then
    let s ← orFail (Separator.ofText? (m.textOf "FS"))
    let parts := s.cut m.record
    modify fun m => { m with
      fields := (parts.map Value.input).toArray
      known := true
      shared := m.shared.set! fieldCount (.value (.ofNat parts.length)) }

/-- Put the record together if that is to be done. -/
def needRecord : ScanM Text := do
  let m ← get
  if m.stale then
    let record := Text.join (m.textOf "OFS") (m.fields.toList.map (·.toText m.convert))
    set { m with
      record := record
      stale := false }
    return record
  else return m.record

/-- Make a text the record. -/
def setRecord (t : Text) : ScanM Unit := modify fun m => { m with
  record := t
  known := false
  stale := false }

/-- Change the number of fields. -/
def setFieldCount (n : Nat) : ScanM Unit := do
  needFields
  modify fun m => { m with
    fields := (m.fields.toList.take n ++ List.replicate (n - m.fields.size) (Value.text [])).toArray
    stale := true
    shared := m.shared.set! fieldCount (.value (.ofNat n)) }

/-- The greatest number of a field. -/
def greatestField : Nat := 100000

/-- What a field holds; the field 0 is the record. -/
def fieldValue (n : Int) : ScanM Value := do
  if n = 0 then return .input (← needRecord)
  else if n < 0 then fail ("negative field index $" ++ Text.ofInt n)
  else
    needFields
    return ((← get).fields[n.toNat - 1]?).getD (.text [])

/-- Put a value into a field. -/
def setField (n : Int) (v : Value) : ScanM Unit := do
  if n = 0 then setRecord (← textOf v)
  else if n < 0 then fail ("negative field index $" ++ Text.ofInt n)
  else if (greatestField : Int) < n then fail "maximum number of fields exceeded".toList
  else
    needFields
    if (← get).fields.size < n.toNat then setFieldCount n.toNat
    modify fun m => { m with
      fields := m.fields.set! (n.toNat - 1) v
      stale := true }

/-! ### Names -/

/-- What a name holds. -/
def slotOf (n : Name) : ScanM Slot := do
  let m ← get
  return match n with
    | .shared i => m.shared.getD i (.value .unset)
    | .own i => m.own.getD i (.value .unset)

/-- Let a name hold something. -/
def setSlot (n : Name) (s : Slot) : ScanM Unit := modify fun m => match n with
  | .shared i => { m with shared := m.shared.set! i s }
  | .own i => { m with own := m.own.set! i s }

/-- A new array. -/
def newTable (t : Table) : ScanM Nat := do
  let i := (← get).tables.size
  modify fun m => { m with tables := m.tables.push t }
  return i

/-- The array that a name holds. -/
def tableOf (n : Name) : ScanM Nat := do
  match ← slotOf n with
  | .table i => return i
  | .either i => do
    setSlot n (.table i)
    return i
  | .value _ => do
    let i ← newTable .empty
    setSlot n (.table i)
    return i

/-- What a name that may become an array is as an argument. -/
def sharedSlot (n : Name) : ScanM Slot := do
  match ← slotOf n with
  | .value .unset => do
    let i ← newTable .empty
    setSlot n (.either i)
    return .either i
  | s => return s

/-- Do something with an array. -/
def withTable {α : Type} (i : Nat) (f : Table → α × Table) : ScanM α := do
  let m ← get
  let (a, t) := f (m.tables.getD i .empty)
  set { m with tables := m.tables.set! i t }
  return a

/-- The value of a variable. -/
def variableValue (n : Name) : ScanM Value := do
  if let .shared i := n then
    if i = fieldCount then needFields
  match ← slotOf n with
  | .value v => return v
  | _ => return .unset

/-- Give a variable a value. -/
def setVariable (n : Name) (v : Value) : ScanM Unit := do
  match n with
  | .shared i =>
    if i = fieldCount then
      let n := clamped v.toNumber
      if n < 0 then fail "negative value assigned to NF".toList
      setFieldCount (min n.toNat greatestField)
    else
      if i = special "FS" then needFields
      setShared i v
  | n => setSlot n (.value v)

/-! ### Commands and files that are written to -/

/-- Say that something could not be written, and end. -/
def cannotWrite {α : Type} (reason : Text) : Act α := do
  grumble ("write failure (" ++ reason ++ [')'])
  grumble ("close failure (" ++ reason ++ [')'])
  throw (.exited 2)

/-- Write what a writer holds to its file. -/
def Writer.flush (w : Writer) : Act Writer := do
  match w.target with
  | some d => do
    match ← writeTo w.held.reverse.flatten d with
    | some e => cannotWrite e
    | none => return { w with held := [] }
  | none => return w

/-- Close what is written to: the file, or the command, which is run now; gives its status. -/
def Writer.close (run : Runner) (w : Writer) : Act Nat := do
  if w.isCommand then
    let i ← openStream (.ofText w.held.reverse.flatten)
    runLine run "/bin/sh" w.name [(0, .reader i)]
  else
    let _ ← w.flush
    return 0

/-- Write to files what is held for them, and to the standard output. -/
def flushAll : ScanM Unit := do
  let ws ← (← get).writers.mapM fun w => liftM (w.flush)
  modify fun m => { m with writers := ws }
  flush

/-- Close all that is written to. -/
def closeAll : ScanM Unit := do
  let m ← get
  for w in m.writers do
    let _ ← liftM (w.close m.run)
  modify fun m => { m with writers := [] }

/-- Is it a name of the standard output? -/
def isOutput (name : Text) : Bool := name = ['-'] || name = "/dev/stdout".toList

/-- Print a text. -/
def output (target : Option (Sink × Text)) (t : Text) : ScanM Unit := do
  match target with
  | none => say t
  | some (sink, name) =>
    if sink ≠ .command && isOutput name then say t
    else if sink ≠ .command && name = "/dev/stderr".toList then write 2 t
    else
      let isCommand := sink = .command
      let isIt (w : Writer) : Bool := w.name = name && w.isCommand = isCommand
      let m ← get
      match m.writers.find? isIt with
      | some w => set { m with
          writers := { w with held := t :: w.held } :: m.writers.filter (!isIt ·) }
      | none => do
        let target : Option Descriptor ← (do
          if isCommand then
            flush
            return none
          else match ← liftM (openForWriting (sink = .extend) name) with
            | .ok d => return some d
            | .error e =>
              giveUpFile ("cannot open \"" ++ name ++ "\" for output (" ++ e ++ [')']))
        modify fun m => { m with writers := ⟨name, isCommand, target, [t]⟩ :: m.writers }

/-! ### Records that are read -/

/-- The next record of what is left of a text, and what is left then. -/
def nextOf (rest : Text) : ScanM (Option (Text × Text)) := do
  let e ← orFail (RecordEnd.ofText? ((← get).textOf "RS"))
  return e.take? rest

/-- The next record of a file or of what a command prints; `none` if it cannot be read. -/
def readFrom (isCommand : Bool) (name : Text) : ScanM (Option (Option Text)) := do
  let isIt (r : Reader) : Bool := r.name = name && r.isCommand = isCommand
  let m ← get
  let reader : Option Reader ← (do
    match m.readers.find? isIt with
    | some r => return some r
    | none =>
      if isCommand then
        flushAll
        let i ← liftM (openStream .empty)
        let status ← liftM (runLine m.run "/bin/sh" name [(1, .writer i)])
        let p ← getThe Process
        return some ⟨name, true, p.stream i, status⟩
      else match ← liftM (contentOf name) with
        | .ok t => return some ⟨name, false, t, 0⟩
        | .error _ => return none)
  match reader with
  | none => return none
  | some r => do
    let found ← nextOf r.rest
    let rest := (found.map (·.2)).getD []
    modify fun m => { m with readers := { r with rest := rest } :: m.readers.filter (!isIt ·) }
    return some (found.map (·.1))

/-- Close a file or a command by its name; gives its status. -/
def closeNamed (name : Text) : ScanM Int := do
  let m ← get
  let readers := m.readers.filter (·.name = name)
  let writers := m.writers.filter (·.name = name)
  set { m with
    readers := m.readers.filter (·.name ≠ name)
    writers := m.writers.filter (·.name ≠ name) }
  if readers.isEmpty && writers.isEmpty then return -1
  let mut status : Nat := (readers.head?.map (·.status)).getD 0
  for w in writers do
    status ← liftM (w.close m.run)
  return status

/-! ### Arguments -/

/-- The variable that an argument gives a value, and the value. -/
def setting? (t : Text) : Option (Text × Text) :=
  let name := t.takeWhile isNameChar
  if name = [] || (name.head?.any Char.isDigit) then none
  else match t.drop name.length with
    | '=' :: v => some (name, v)
    | _ => none

/-- The argument with a number, if it is there. -/
def argument? (n : Nat) : ScanM (Option Text) := do
  let i ← tableOf (.shared (special "ARGV"))
  let there ← withTable i (·.contains (.number n))
  if !there then return none
  return some (← textOf (← withTable i (·.fetch (.number n))))

/-- Open the next file whose records are scanned; tells whether there is one. -/
def nextFile : Nat → ScanM Bool
  | 0 => return false
  | fuel + 1 => do
    let m ← get
    let count := clamped (m.valueOf (special "ARGC")).toNumber
    let scan (path name : Text) : ScanM Bool := do
      match ← liftM (contentOf path) with
      | .ok t => do
        setShared (special "FILENAME") (.text name)
        setShared (special "FNR") (.number 0)
        modify fun m => { m with
          main := some t
          opened := true }
        return true
      | .error e =>
        if e = "Is a directory".toList then giveUpFile ("read error (" ++ e ++ [')'])
        else giveUpFile ("cannot open \"" ++ path ++ "\" (" ++ e ++ [')'])
    if count ≤ (m.argument : Int) then
      if m.opened then return false else scan ['-'] []
    else
      set { m with argument := m.argument + 1 }
      match ← argument? m.argument with
      | none => nextFile fuel
      | some [] => nextFile fuel
      | some t => match setting? t with
        | some (name, v) => do
          match m.names.idxOf? name with
          | some i => setVariable (.shared i) (.input (unescaped (v.length + 1) v))
          | none => pure ()
          nextFile fuel
        | none => scan t t

/-- The next record that is scanned. -/
def nextRecord : Nat → ScanM (Option Text)
  | 0 => return none
  | fuel + 1 => do
    let m ← get
    match m.main with
    | some rest => match ← nextOf rest with
      | some (record, rest) => do
        modify fun m => { m with main := some rest }
        countUp "NR"
        countUp "FNR"
        return some record
      | none => do
        modify fun m => { m with main := none }
        nextRecord fuel
    | none => do
      if ← nextFile 10000 then nextRecord fuel else return none

/-! ### Numbers in no order -/

/-- The state of the numbers after a start: each of its words is a sum of earlier ones. -/
def seeded (seed : Nat) : List Nat :=
  let seed := if seed % 4294967296 = 0 then 1 else seed % 4294967296
  let signed : Int := if seed < 2147483648 then seed else (seed : Int) - 4294967296
  let step (r : Int) : Int :=
    let n := 16807 * (Int.tmod r 127773) - 2836 * (Int.tdiv r 127773)
    if n < 0 then n + 2147483647 else n
  let first : List Int := (List.range 30).foldl (fun rs _ => step (rs.headD 0) :: rs) [signed]
  let words : List Nat := first.map fun n => (n % 4294967296).toNat
  -- the first three words come again before sums are taken
  let oldest := words.reverse
  let window := (oldest.getD 2 0) :: (oldest.getD 1 0) :: (oldest.getD 0 0) :: words
  (List.range 310).foldl (fun w _ => ((w.getD 30 0 + w.getD 2 0) % 4294967296 :: w).take 34) window

/-- The next number in no order, below 2147483648. -/
def draw : ScanM Nat := do
  let m ← get
  let w := m.random
  let n := (w.getD 30 0 + w.getD 2 0) % 4294967296
  set { m with random := (n :: w).take 34 }
  return n / 2

end Rollout.Program.Scan
