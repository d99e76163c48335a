import Rollout.Machine.Program.Scan.Value

/-!
Arrays of values under keys. The elements hang on lists of a table, whose number is a power of two; a key that is a
number is found by it, and any other by its hash. What was looked for last stands first on its list, and the order in
which elements are visited is that of the lists.
-/

namespace Rollout.Program.Scan

/-- What an element is looked for by. -/
inductive Index
  /-- A number. -/
  | number (n : Int)
  /-- A text. -/
  | key (t : Text)

/-- An element of an array. -/
structure Node where
  /-- Its key as a text, where that is known. -/
  key : Option Text
  /-- The hash of the key. -/
  hash : Nat
  /-- Its key as a number, where that is known. -/
  number : Option Int
  /-- Its value. -/
  value : Value

/-- An array. -/
structure Table where
  /-- The number of elements. -/
  size : Nat
  /-- The lists of elements with keys that are texts. -/
  byKey : Array (List Nat)
  /-- The lists of elements with keys that are numbers. -/
  byNumber : Array (List Nat)
  /-- Are the keys of all elements known as texts? -/
  keyed : Bool
  /-- The elements by their numbers, with those that are gone. -/
  nodes : Array Node
  /-- The elements if they are numbered from 1 on and have not been put on lists. -/
  row : Option (Array Value)

namespace Table

/-- How many lists there are at first. -/
def firstLists : Nat := 64

/-- How many elements a list has on average at most. -/
def greatestLoad : Nat := 12

/-- An array without elements. -/
def empty : Table := ⟨0, .replicate firstLists [], .replicate firstLists [], false, #[], none⟩

/-- An array of values that are numbered from 1 on. -/
def ofRow (vs : List Value) : Table := if vs = [] then empty else { empty with
    size := vs.length
    row := some vs.toArray }

/-- The hash of a key. -/
def hash (t : Text) : Nat := (t.foldl (fun (h : UInt32) c => (h ^^^ c.val) * 16777619) 2166136261).toNat

/-- The list for a hash. -/
def listOf (t : Table) (hash : Nat) : Nat := hash % t.byKey.size

/-- The list for a key that is a number. -/
def listOfNumber (t : Table) (n : Int) : Nat := (n % (t.byKey.size : Int)).toNat

/-- The lists of twice as many, where each element stays on its list or goes to the one so many lists further on. -/
def doubledLists (place : Nat → Nat) (lists : Array (List Nat)) : Array (List Nat) :=
  let lower := lists.mapIdx fun i l => l.filter fun n => place n = i
  let upper := lists.mapIdx fun i l => l.filter fun n => place n ≠ i
  lower ++ upper

/-- The array with twice as many lists. -/
def doubled (t : Table) : Table :=
  let count := 2 * t.byKey.size
  let hashOf (i : Nat) : Nat := ((t.nodes[i]?).map (·.hash)).getD 0
  let numberOf (i : Nat) : Int := ((t.nodes[i]?).bind (·.number)).getD 0
  { t with
    byKey := doubledLists (fun i => hashOf i % count) t.byKey
    byNumber := doubledLists (fun i => (numberOf i % (count : Int)).toNat) t.byNumber }

/-- The array with room for one element more, which has been counted. -/
def grown (t : Table) : Table :=
  let t := { t with size := t.size + 1 }
  if greatestLoad * t.byKey.size < t.size then t.doubled else t

/-- Double the lists until there is room for a number of elements. -/
def roomFor (size : Nat) : Nat → Nat → Nat
  | 0, count => count
  | fuel + 1, count => if greatestLoad * count < size then roomFor size fuel (2 * count) else count

/-- The array with its elements on lists. -/
def spread (t : Table) : Table :=
  match t.row with
  | none => t
  | some row =>
    let count := roomFor row.size row.size firstLists
    let base : Table := ⟨row.size, .replicate count [], .replicate count [], false, #[], none⟩
    (List.range row.size).foldl (fun (t : Table) (i : Nat) =>
      let node : Node := ⟨none, 0, some ((i : Int) + 1), row.getD i .unset⟩
      { t with
        nodes := t.nodes.push node
        byNumber := t.byNumber.modify ((i + 1) % count) (i :: ·) }) base

/-- The array in which the keys of all elements are known as texts. -/
def withKeys (t : Table) : Table :=
  let t := t.spread
  if t.keyed then t
  else
    let add (t : Table) (i : Nat) : Table := match t.nodes[i]? with
      | some node => match node.key, node.number with
        | none, some n =>
          let key := Text.ofInt n
          let h := hash key
          { t with
            nodes := t.nodes.modify i fun node => { node with
              key := some key
              hash := h }
            byKey := t.byKey.modify (h % t.byKey.size) (i :: ·) }
        | _, _ => t
      | none => t
    { t.byNumber.foldl (fun t l => l.foldl add t) t with keyed := true }

/-- The element with a key, which is made if that is wanted and there is none. -/
def findKey (create : Bool) (key : Text) (t : Table) : Option Nat × Table :=
  let t := t.withKeys
  let h := hash key
  let list := t.byKey.getD (t.listOf h) []
  let isIt (i : Nat) : Bool := (t.nodes[i]?).any fun n => n.hash = h && n.key = some key
  match list.find? isIt with
  | some i => (some i, { t with byKey := t.byKey.set! (t.listOf h) (i :: list.erase i) })
  | none =>
    if !create then (none, t)
    else
      let i := t.nodes.size
      let t := t.grown
      (some i, { t with
        nodes := t.nodes.push ⟨some key, h, none, .unset⟩
        byKey := t.byKey.modify (t.listOf h) (i :: ·) })

/-- The element with a number, which is made if that is wanted and there is none. -/
def findNumber (create : Bool) (n : Int) (t : Table) : Option Nat × Table :=
  let t := t.spread
  let list := t.byNumber.getD (t.listOfNumber n) []
  let isIt (i : Nat) : Bool := (t.nodes[i]?).any fun node => node.number = some n
  match list.find? isIt with
  | some i => (some i, { t with byNumber := t.byNumber.set! (t.listOfNumber n) (i :: list.erase i) })
  | none =>
    let (found, t) :=
      if t.keyed then t.findKey create (Text.ofInt n)
      else if create then
        let i := t.nodes.size
        let t := t.grown
        (some i, { t with nodes := t.nodes.push ⟨none, 0, none, .unset⟩ })
      else (none, t)
    match found with
    | none => (none, t)
    | some i => (some i, { t with
        nodes := t.nodes.modify i fun node => { node with number := some n }
        byNumber := t.byNumber.modify (t.listOfNumber n) (i :: ·) })

/-- The element at an index. -/
def find (create : Bool) (index : Index) (t : Table) : Option Nat × Table :=
  match index with
  | .number n => t.findNumber create n
  | .key k => t.findKey create k

/-- The place of an index in a row, if the array is a row that has it. -/
def placeInRow? (index : Index) (t : Table) : Option Nat :=
  match t.row, index with
  | some row, .number n => if 1 ≤ n && n ≤ (row.size : Int) then some (n.toNat - 1) else none
  | _, _ => none

/-- The value at an index, which is there afterwards. -/
def fetch (index : Index) (t : Table) : Value × Table :=
  match t.placeInRow? index, t.row with
  | some i, some row => (row.getD i .unset, t)
  | _, _ => match t.find true index with
    | (some i, t) => (((t.nodes[i]?).map (·.value)).getD .unset, t)
    | (none, t) => (.unset, t)

/-- The array with a value at an index. -/
def put (index : Index) (v : Value) (t : Table) : Table :=
  match t.placeInRow? index with
  | some i => { t with row := t.row.map fun row => row.set! i v }
  | none => match t.find true index with
    | (some i, t) => { t with nodes := t.nodes.modify i fun node => { node with value := v } }
    | (none, t) => t

/-- Is there an element at an index? -/
def contains (index : Index) (t : Table) : Bool × Table :=
  if t.size = 0 then (false, t)
  else if (t.placeInRow? index).isSome then (true, t)
  else
    let (found, t) := t.find false index
    (found.isSome, t)

/-- The array without the element at an index. -/
def erase (index : Index) (t : Table) : Table :=
  if t.size = 0 || (t.row.isSome && (t.placeInRow? index).isNone && match index with
      | .number _ => true
      | .key _ => false) then t
  else match t.find false index with
    | (some i, t) =>
      if t.size = 1 then empty
      else
        let node := t.nodes[i]?
        let t := match node.bind (·.key), node with
          | some _, some node => { t with byKey := t.byKey.modify (t.listOf node.hash) (·.erase i) }
          | _, _ => t
        let t := match node.bind (·.number) with
          | some n => { t with byNumber := t.byNumber.modify (t.listOfNumber n) (·.erase i) }
          | none => t
        { t with size := t.size - 1 }
    | (none, t) => t

/-- The keys of all elements in the order in which they are visited. -/
def keys (t : Table) : List Text × Table :=
  let t := t.withKeys
  ((t.byKey.toList.flatten).filterMap fun i => (t.nodes[i]?).bind (·.key), t)

end Table

/-- What an element is looked for by if a value is its key. -/
def Index.ofValue (convert : Text) (v : Value) : Index :=
  match v with
  | .number x => match integer? x with
    | some n => .number n
    | none => .key (v.toText convert)
  | v => .key (v.toText convert)

end Rollout.Program.Scan
