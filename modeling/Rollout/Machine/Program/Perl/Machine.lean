import Rollout.Machine.Program.Input
import Rollout.Machine.Program.Perl.Syntax
import Rollout.Machine.Regex.Rich
import Rollout.Machine.Unix.Executable
import Std.Data.HashMap

/-!
What a script goes through while it is carried out: places for values, arrays and hashes of such places, functions, and
which of them the names stand for, some only inside of a block.
-/

namespace Rollout.Program.Perl

open Unix

/-! ### Hashes -/

/-- A text is hashed character by character. -/
instance : Hashable Text where
  hash t := t.foldl (fun h c => mixHash h c.val.toUInt64) 7

/-- Values by their keys, in the order in which the keys were added; the values stand in places that have numbers. -/
structure Hash where
  /-- Where the keys are among the entries. -/
  places : Std.HashMap Text Nat
  /-- The keys with their places, and gaps where keys were removed. -/
  entries : Array (Option (Text × Nat))
  /-- The entry that is looked at next. -/
  next : Nat

namespace Hash

/-- A hash without keys. -/
def empty : Hash := ⟨{}, #[], 0⟩

/-- The place that a key has. -/
def find? (h : Hash) (k : Text) : Option Nat := do
  let i ← h.places[k]?
  let e ← h.entries.getD i none
  some e.2

/-- Give a key a place. -/
def insert (h : Hash) (k : Text) (cell : Nat) : Hash :=
  match h.places[k]? with
  | some i => { h with entries := h.entries.set! i (some (k, cell)) }
  | none => { h with
      places := h.places.insert k h.entries.size
      entries := h.entries.push (some (k, cell)) }

/-- Remove a key. -/
def erase (h : Hash) (k : Text) : Hash :=
  match h.places[k]? with
  | some i => { h with
      places := h.places.erase k
      entries := h.entries.set! i none }
  | none => h

/-- The keys with their places. -/
def toList (h : Hash) : List (Text × Nat) := h.entries.toList.filterMap id

/-- The number of keys. -/
def size (h : Hash) : Nat := h.places.size

/-- The next key with its place, and the hash in which it has been looked at. -/
def step (h : Hash) : Option (Text × Nat) × Hash :=
  let rest := h.entries.toList.drop h.next
  let gap := (rest.takeWhile Option.isNone).length
  match rest.drop gap with
  | some e :: _ => (some e, { h with next := h.next + gap + 1 })
  | _ => (none, { h with next := 0 })

end Hash

/-! ### What there is -/

/-- What a name in a block stands for: something of its own, or what a name stands for everywhere. -/
inductive Binding
  | own (i : Nat)
  | shared (key : Text)

/-- The variables of a block and of those around it, the latest first. -/
abbrev Scope := List (Variable × Binding)

/-- A function. -/
structure Code where
  /-- What it does. -/
  body : Block
  /-- The variables that it sees, if they are not those of the file. -/
  scope : Option Scope
  /-- Its name. -/
  name : Text
  /-- Its package. -/
  package : Text

/-- Where a file is read from or written to. -/
inductive Stand
  /-- A descriptor with a number. -/
  | descriptor (n : Nat)
  /-- A text at a place. -/
  | memory (cell : Nat)
  /-- A command that reads what is written. -/
  | feeding (line : Text)
  /-- What a command has printed, with its status. -/
  | fed (status : Nat)
  /-- The names in a directory. -/
  | directory (names : List Text)
  /-- Nowhere. -/
  | closed
  deriving DecidableEq

/-- A file that is read or written. -/
structure Port where
  /-- What it is called. -/
  name : Text
  /-- Where it is. -/
  stand : Stand
  /-- Is it written to? -/
  writes : Bool
  /-- What was read and not used. -/
  buffer : Text
  /-- Has its end been reached? -/
  ended : Bool
  /-- What is to be written, the latest first. -/
  held : List Text
  /-- The number of lines that were read. -/
  lines : Nat

/-- What gets back its old value at the end of a block. -/
inductive Saved
  /-- A name for something. -/
  | name (key : Text) (old : Option Nat)
  /-- A key of a hash. -/
  | field (hash : Nat) (key : Text) (old : Option Nat)
  /-- An element of an array. -/
  | element (list : Nat) (i : Nat) (old : Nat)

/-- How many values are wanted. -/
inductive Want
  | nothing | one | many
  deriving DecidableEq

/-- Why the next statement is not carried out. -/
inductive Leap
  /-- A loop goes on with the next round. -/
  | next (label : Option Text)
  /-- A loop is left. -/
  | last (label : Option Text)
  /-- A round of a loop is done again. -/
  | redo (label : Option Text)
  /-- A function has values. -/
  | returned (vs : List Value)
  /-- Something was wrong. -/
  | died (v : Value)
  /-- The script is over. -/
  | exited (status : Nat)

/-- A call of a function that has not ended. -/
structure Frame where
  /-- The package from which it is called. -/
  package : Text
  /-- The line. -/
  line : Nat
  /-- The name of the function. -/
  name : Text
  /-- How many values are wanted. -/
  want : Want

/-- What a text has matched. -/
structure Found where
  /-- The text. -/
  text : Text
  /-- The match. -/
  whole : Regex.Match
  /-- The names of the groups. -/
  names : List (Text × Nat)
  /-- The number of groups. -/
  groups : Nat

/-- The state of a script. -/
structure Machine where
  /-- Runs programs. -/
  run : Runner
  /-- The values at places. -/
  cells : Array Value
  /-- The arrays. -/
  lists : Array (Array Nat)
  /-- The hashes. -/
  hashes : Array Hash
  /-- The functions. -/
  codes : Array Code
  /-- The files. -/
  ports : Array Port
  /-- What names stand for everywhere, behind their signs. -/
  globals : Std.HashMap Text Nat
  /-- What names stand for in the block. -/
  scope : Scope
  /-- What names stand for in the file. -/
  fileScope : Scope
  /-- What gets its old value back at the end of the block. -/
  saved : List Saved
  /-- The classes of things that belong to one. -/
  classes : Std.HashMap Nat Text
  /-- The package. -/
  package : Text
  /-- The line. -/
  line : Nat
  /-- The file. -/
  file : Text
  /-- How many values the function is to have. -/
  want : Want
  /-- The number of the function. -/
  current : Nat
  /-- The calls that have not ended, the latest first. -/
  frames : List Frame
  /-- The last match. -/
  found : Option Found
  /-- Expressions that have been read. -/
  patterns : Std.HashMap Text (Regex.Compiled × List (Text × Nat))
  /-- Where the next match in a text is looked for, by its place. -/
  positions : Std.HashMap Nat Nat
  /-- The places of texts whose last match was empty. -/
  emptied : List Nat
  /-- The file that was read last. -/
  lastRead : Option Nat
  /-- The file to which is printed. -/
  output : Nat
  /-- Variables of functions that keep what they hold. -/
  lasting : Std.HashMap Text Nat
  /-- Where a first test has held and the second one has not, with how often. -/
  spans : Std.HashMap Nat Nat
  /-- Functions that are called at the end. -/
  ends : List Nat
  /-- Are names not references? -/
  strict : Bool
  /-- Is something said about values that are missing? -/
  warns : Bool
  /-- The state of the numbers in no order. -/
  random : Option Nat
  /-- Modules whose functions are known. -/
  modules : List Text
  /-- Constants that have been defined, with their values. -/
  constants : Std.HashMap Text (List Value)
  /-- What files that are changed are kept under. -/
  inPlace : Option Text
  /-- The file of the arguments that is read. -/
  argument : Option Nat
  /-- Have the arguments been looked at? -/
  started : Bool

/-! ### Steps -/

/-- What comes of a step. -/
inductive Outcome (α : Type)
  /-- A result. -/
  | done (a : α) (m : Machine) (p : Process)
  /-- A leap. -/
  | left (l : Leap) (m : Machine) (p : Process)
  /-- The process is over. -/
  | over (e : Ending) (p : Process)

/-- What is done when a script is carried out. -/
def Doing (α : Type) := Machine → Process → Outcome α

namespace Doing

/-- Do nothing. -/
@[noinline] protected def pure {α : Type} (a : α) : Doing α := fun m p => .done a m p

/-- Do one thing after another. -/
@[noinline] protected def bind {α β : Type} (x : Doing α) (f : α → Doing β) : Doing β := fun m p =>
  match x m p with
  | .done a m p => f a m p
  | .left l m p => .left l m p
  | .over e p => .over e p

/-- Leap away. -/
@[noinline] def leap {α : Type} (l : Leap) : Doing α := fun m p => .left l m p

/-- Do something, and deal with a leap. -/
@[noinline] def catching {α : Type} (x : Doing α) (f : Leap → Doing α) : Doing α := fun m p =>
  match x m p with
  | .left l m p => f l m p
  | r => r

/-- What a process does. -/
@[noinline] def ofAct {α : Type} (a : Act α) : Doing α := fun m p =>
  match a.run.run p with
  | (.ok a, p) => .done a m p
  | (.error e, p) => .over e p

/-- Change the state. -/
@[noinline] def changing {α : Type} (f : Machine → α × Machine) : Doing α := fun m p =>
  let (a, m) := f m
  .done a m p

/-- Look at the state. -/
@[noinline] def looking {α : Type} (f : Machine → α) : Doing α := fun m p => .done (f m) m p

/-- The process. -/
def process : Doing Process := fun m p => .done p m p

end Doing

instance : Monad Doing where
  pure := Doing.pure
  bind := Doing.bind

instance : MonadStateOf Machine Doing where
  get := fun m p => .done m m p
  set m := fun _ p => .done () m p
  modifyGet := Doing.changing

instance : MonadExceptOf Leap Doing where
  throw := Doing.leap
  tryCatch := Doing.catching

instance : MonadLift Act Doing where
  monadLift := Doing.ofAct

instance {α : Type} : Inhabited (Doing α) := ⟨Doing.leap (.died .absent)⟩

/-! ### Places -/

/-- The value at a place. -/
def valueAt (i : Nat) : Doing Value := .looking fun m => m.cells.getD i .absent

/-- A new place with a value. -/
def newCell (v : Value) : Doing Nat := .changing fun m =>
  let i := m.cells.size
  (i, { m with cells := m.cells.push v })

/-- Put a value at a place. -/
def setCell (i : Nat) (v : Value) : Doing Unit := .changing fun m =>
  ((), { m with
    cells := m.cells.set! i v
    positions := if m.positions.isEmpty then m.positions else m.positions.erase i })

/-- New places with values. -/
def newCells (vs : List Value) : Doing (List Nat) := .changing fun m =>
  let i := m.cells.size
  ((List.range vs.length).map (i + ·), { m with cells := m.cells ++ vs.toArray })

/-- A new array of places. -/
def newList (cells : Array Nat) : Doing Nat := .changing fun m =>
  let i := m.lists.size
  (i, { m with lists := m.lists.push cells })

/-- A new hash without keys. -/
def newHash : Doing Nat := .changing fun m =>
  let i := m.hashes.size
  (i, { m with hashes := m.hashes.push .empty })

/-- A new function. -/
def newCode (c : Code) : Doing Nat := .changing fun m =>
  let i := m.codes.size
  (i, { m with codes := m.codes.push c })

/-- A new file. -/
def newPort (name : Text) : Doing Nat := .changing fun m =>
  let i := m.ports.size
  (i, { m with ports := m.ports.push ⟨name, .closed, false, [], false, [], 0⟩ })

/-- The places of an array. -/
def cellsOf (list : Nat) : Doing (Array Nat) := .looking fun m => m.lists.getD list #[]

/-- Change the places of an array. -/
def setCells (list : Nat) (cells : Array Nat) : Doing Unit := .changing fun m =>
  ((), { m with lists := m.lists.set! list cells })

/-- The values of an array. -/
def elementsOf (list : Nat) : Doing (List Value) := .looking fun m =>
  ((m.lists.getD list #[]).map fun i => m.cells.getD i .absent).toList

/-- Give an array values. -/
def fill (list : Nat) (vs : List Value) : Doing Unit := do
  setCells list (← newCells vs).toArray

/-- The number in an array that may be counted from its end. -/
def indexIn (size : Nat) (i : Int) : Option Nat :=
  if 0 ≤ i then some i.toNat else if 0 ≤ i + (size : Nat) then some (i + (size : Nat)).toNat else none

/-- The place of an element, if it is there. -/
def elementPlace? (list : Nat) (i : Int) : Doing (Option Nat) := .looking fun m =>
  let cells := m.lists.getD list #[]
  (indexIn cells.size i).bind fun i => cells[i]?

/-- Let an array have at least so many elements. -/
def lengthen (list size : Nat) : Doing Unit := .changing fun m =>
  let old := (m.lists.getD list #[]).size
  if size ≤ old then ((), m)
  else
    let first := m.cells.size
    let more := (List.range (size - old)).map (first + ·)
    ((), { m with
      cells := m.cells ++ Array.replicate (size - old) Value.absent
      lists := m.lists.modify list (· ++ more.toArray) })

/-- Change a hash. -/
def changeHash {α : Type} (i : Nat) (f : Hash → α × Hash) : Doing α := .changing fun m =>
  let (a, h) := f (m.hashes.getD i .empty)
  (a, { m with hashes := m.hashes.set! i h })

/-- A hash. -/
def hashAt (i : Nat) : Doing Hash := .looking fun m => m.hashes.getD i .empty

/-- The place of a key in a hash, which may be new. -/
def fieldPlace (hash : Nat) (key : Text) : Doing Nat := do
  match (← hashAt hash).find? key with
  | some i => return i
  | none => do
    let i ← newCell .absent
    changeHash hash fun h => ((), h.insert key i)
    return i

/-- The value of a key. -/
def fieldValue (hash : Nat) (key : Text) : Doing Value := .looking fun m =>
  match (m.hashes.getD hash .empty).find? key with
  | some i => m.cells.getD i .absent
  | none => .absent

/-- Put a value under a key. -/
def setField (hash : Nat) (key : Text) (v : Value) : Doing Unit := do setCell (← fieldPlace hash key) v

/-- The keys and values of a hash. -/
def pairsOf (hash : Nat) : Doing (List (Text × Value)) := .looking fun m =>
  (m.hashes.getD hash .empty).toList.map fun e => (e.1, m.cells.getD e.2 .absent)

/-! ### Names -/

/-- Names that mean the same in every package. -/
def commonNames : List String := ["ENV", "ARGV", "STDIN", "STDOUT", "STDERR", "INC", "_", "ARGVOUT", "SIG"]

/-- The full name of something in a package. -/
def qualified (package name : Text) : Text :=
  if "main::".toList.isPrefixOf name then name.drop 6
  else if "::".toList.isPrefixOf name then name.drop 2
  else if package = "main".toList || name.contains ':' then name
  else if !(name.head?.any fun c => c.isAlpha || c = '_') || commonNames.contains (String.ofList name) then name
  else package ++ "::" ++ name

/-- A new thing of a kind. -/
def newOf (s : Sigil) (name : Text) : Doing Nat :=
  match s with
  | .scalar => newCell .absent
  | .array => newList #[]
  | .hash => newHash
  | .code => newCode ⟨.none, none, name, []⟩
  | .handle => newPort name

/-- What a name stands for everywhere, which may be new. -/
def globalOf (s : Sigil) (full : Text) : Doing Nat := do
  let key := s.sign :: full
  let found ← Doing.looking fun m => m.globals[key]?
  match found with
  | some i => return i
  | none => do
    let i ← newOf s full
    modify fun m => { m with globals := m.globals.insert key i }
    return i

/-- What a name stands for everywhere, if it does. -/
def global? (s : Sigil) (full : Text) : Doing (Option Nat) := .looking fun m => m.globals[s.sign :: full]?

/-- The value of a variable that is known everywhere. -/
def globalValue (name : String) : Doing Value := .looking fun m =>
  match m.globals['$' :: name.toList]? with
  | some i => m.cells.getD i .absent
  | none => .absent

/-- Give a variable that is known everywhere a value. -/
def setGlobal (name : String) (v : Value) : Doing Unit := do setCell (← globalOf .scalar name.toList) v

/-- What a variable stands for. -/
def idOf (v : Variable) : Doing Nat := do
  let found ← Doing.looking fun m => match m.scope.find? fun e => e.1 = v with
    | some (_, .own i) => Except.ok i
    | some (_, .shared key) => .error key
    | none => .error (qualified m.package v.name)
  match found with
  | .ok i => return i
  | .error full => globalOf v.sigil full

/-- Let a variable stand for something in the block. -/
def bindName (v : Variable) (b : Binding) : Doing Unit := modify fun m => { m with scope := (v, b) :: m.scope }

/-- Let a name stand for something else until the end of the block. -/
def rebind (s : Sigil) (full : Text) (i : Nat) : Doing Unit := modify fun m =>
  let key := s.sign :: full
  { m with
    globals := m.globals.insert key i
    saved := .name key m.globals[key]? :: m.saved }

/-- The state after something got its old value back. -/
def Machine.restore (m : Machine) (s : Saved) : Machine :=
  match s with
  | .name key (some i) => { m with globals := m.globals.insert key i }
  | .name key none => { m with globals := m.globals.erase key }
  | .field h key (some i) => { m with hashes := m.hashes.modify h (·.insert key i) }
  | .field h key none => { m with hashes := m.hashes.modify h (·.erase key) }
  | .element a i old => { m with lists := m.lists.modify a fun l => l.set! i old }

/-- The state behind a block, before which there were a scope, things to get their values back, and a match. -/
def Machine.leave (m : Machine) (scope : Scope) (saved : List Saved) (found : Option Found) : Machine :=
  let m := m.saved.foldl Machine.restore m
  { m with
    scope := scope
    saved := saved
    found := found }

/-- Do something in a block. -/
@[noinline] def inBlock {α : Type} (x : Doing α) : Doing α := fun m p =>
  let (scope, saved, found) := (m.scope, m.saved, m.found)
  match x { m with saved := [] } p with
  | .done a m p => .done a (m.leave scope saved found) p
  | .left l m p => .left l (m.leave scope saved found) p
  | r => r

/-- Do something where the variables that it adds are known. -/
@[noinline] def inScope {α : Type} (x : Doing α) : Doing α := fun m p =>
  let scope := m.scope
  match x m p with
  | .done a m p => .done a { m with scope := scope } p
  | .left l m p => .left l { m with scope := scope } p
  | r => r

/-- Do what a function does, with arguments. -/
@[noinline] def inCall (i : Nat) (c : Code) (arguments : Nat) (want : Want) (x : Doing (List Value)) : Doing (List Value) :=
  fun m p =>
    let (scope, saved, found, package, line) := (m.scope, m.saved, m.found, m.package, m.line)
    let (old, current, frames, outer) := (m.want, m.current, m.frames, m.globals[argumentsKey]?)
    let back (m : Machine) : Machine :=
      let m := m.leave scope saved found
      { m with
        package := package
        line := line
        want := old
        current := current
        frames := frames
        globals := match outer with
          | some i => m.globals.insert argumentsKey i
          | none => m.globals }
    let inner : Machine := { m with
      scope := c.scope.getD m.fileScope
      saved := []
      package := c.package
      want := want
      current := i
      frames := ⟨package, line, c.name, want⟩ :: frames
      globals := m.globals.insert argumentsKey arguments }
    match x inner p with
    | .done a m p => .done a (back m) p
    | .left (.returned vs) m p => .done vs (back m) p
    | .left l m p => .left l (back m) p
    | r => r
where
  argumentsKey : Text := ['@', '_']

/-! ### Texts of values -/

/-- The number by which a class is found. -/
def classKey (r : Referent) (i : Nat) : Nat := Value.addressOf r i

/-- The class that a value belongs to. -/
def classOf? (v : Value) : Doing (Option Text) := .looking fun m => match v with
  | .reference r i => m.classes[classKey r i]?
  | .pattern .. => some "Regexp".toList
  | _ => none

/-- A value as a text. -/
def textOf (v : Value) : Doing Text := .looking fun m => match v with
  | .reference r i => match m.classes[classKey r i]? with
    | some c => c ++ '=' :: v.toText
    | none => match r, m.cells[i]? with
      | .scalar, some (.reference ..) => "REF" ++ v.toText.drop 6
      | _, _ => v.toText
  | v => v.toText

/-! ### Messages -/

/-- Where the script is. -/
def placeHere : Doing Text := do
  let line ← globalValue "/"
  .looking fun m =>
    let reading : Text := match m.lastRead.bind fun i => m.ports[i]? with
      | some port =>
        let unit := if line.toText = ['\n'] then "line" else "chunk"
        if port.lines = 0 then [] else ", <" ++ port.name ++ "> " ++ unit.toList ++ ' ' :: Text.ofNat port.lines
      | none => []
    placeText m.file m.line ++ reading ++ ".\n".toList
where
  /-- The place in a file, if there is one. -/
  placeText (file : Text) (line : Nat) : Text := if line = 0 then [] else " at " ++ file ++ " line " ++ Text.ofNat line

/-- End with a message, behind which is said where the script is. -/
def dieHere {α : Type} (message : Text) : Doing α := do
  let place ← placeHere
  throw (.died (.text (message ++ place)))

/-- The result of an operation, or the end. -/
def orDie {α : Type} (r : Except Text α) : Doing α :=
  match r with
  | .ok a => pure a
  | .error e => dieHere e

/-- End because something takes too long. -/
def overdue {α : Type} : Doing α := .ofAct tooLong

/-! ### References -/

/-- The name of a kind with its article. -/
def kindText : Sigil → Text
  | .scalar => "a SCALAR"
  | .array => "an ARRAY"
  | .hash => "a HASH"
  | .code => "a subroutine"
  | .handle => "a symbol"

/-- What a value leads to as a reference of a kind; a name counts as one unless that is forbidden. -/
def leadsTo (s : Sigil) (v : Value) : Doing Nat := do
  match s, v with
  | .scalar, .reference .scalar i => return i
  | .array, .reference .array i => return i
  | .hash, .reference .hash i => return i
  | .code, .reference .code i => return i
  | .handle, .reference .handle i => return i
  | s, .reference .. => dieHere ("Not " ++ (match s with
      | .code => "a CODE".toList
      | .handle => "a GLOB".toList
      | s => kindText s) ++ " reference")
  | s, .absent => dieHere ("Can't use an undefined value as " ++ kindText s ++ " reference")
  | s, v => do
    let name := v.toText
    let m ← get
    if m.strict && s ≠ .handle then
      let shown := if 32 < name.length then name.take 32 ++ "\"...".toList else name ++ ['"']
      dieHere ("Can't use string (\"" ++ shown ++ " as " ++ kindText s ++ " ref while \"strict refs\" in use")
    globalOf s (qualified m.package name)

/-- The value at a place as a reference of a kind; where there is none, a new one is put there. -/
def leadsFrom (s : Sigil) (cell : Nat) : Doing Nat := do
  match ← valueAt cell with
  | .absent => do
    let i ← newOf s []
    let kind : Referent := match s with
      | .scalar => .scalar
      | .array => .array
      | .hash => .hash
      | .code => .code
      | .handle => .handle
    setCell cell (.reference kind i)
    return i
  | v => leadsTo s v

end Rollout.Program.Perl
