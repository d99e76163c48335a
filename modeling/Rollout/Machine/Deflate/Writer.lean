import Rollout.Machine.Deflate.Matching

/-!
Writing deflated data. Each block is written as its bytes, with the usual codes, or with codes of its own behind a table
of the lengths of their words: whichever is shortest. The lengths come from how often symbols occur: the two lightest
trees are joined until one is left, and how deep a symbol then stands is the length of its word. Where words would be
too long, others become longer instead.
-/

namespace Rollout.Deflate

/-! ### Lengths of words -/

/-- Symbols put together. -/
inductive Joined
  | leaf (symbol : Nat)
  | fork (left right : Joined)

namespace Joined

/-- The symbols with how deep they stand. -/
def depths : Nat → Joined → List (Nat × Nat)
  | n, leaf symbol => [(symbol, n)]
  | n, fork left right => left.depths (n + 1) ++ right.depths (n + 1)

/-- How many trees stand deeper than a limit, where this one stands so deep. -/
def deeper (limit : Nat) : Nat → Joined → Nat
  | n, leaf _ => if limit < n then 1 else 0
  | n, fork left right => (if limit < n then 1 else 0) + left.deeper limit (n + 1) + right.deeper limit (n + 1)

end Joined

/-- A tree that is weighed. -/
structure Weighed where
  /-- How often its symbols occur. -/
  weight : Nat
  /-- How many levels it has below its top. -/
  height : Nat
  /-- The tree. -/
  tree : Joined

namespace Weighed

/-- The symbol alone. -/
def single (symbol weight : Nat) : Weighed := ⟨weight, 0, .leaf symbol⟩

/-- Is the tree taken before the other one? -/
def precedes (a b : Weighed) : Bool := a.weight < b.weight || (a.weight = b.weight && a.height ≤ b.height)

/-- Two trees put together. -/
def join (a b : Weighed) : Weighed := ⟨a.weight + b.weight, max a.height b.height + 1, .fork a.tree b.tree⟩

/-- Let a tree of a heap sink below those that are taken before it. -/
def sink : Nat → Array Weighed → Nat → Array Weighed
  | 0, heap, _ => heap
  | fuel + 1, heap, k =>
    match heap[k]?, heap[2 * k + 1]? with
    | some v, some left =>
      let (j, child) : Nat × Weighed := match heap[2 * k + 2]? with
        | some right => if right.precedes left then (2 * k + 2, right) else (2 * k + 1, left)
        | none => (2 * k + 1, left)
      if v.precedes child then heap else sink fuel (heap.swapIfInBounds k j) j
    | _, _ => heap

/-- The trees as a heap. -/
def heapOf (trees : List Weighed) : Array Weighed :=
  let heap := trees.toArray
  (List.range (heap.size / 2)).reverse.foldl (sink heap.size) heap

/-- The symbol of a tree that is one alone. -/
def symbol? (a : Weighed) : Option Nat := match a.tree with
  | .leaf symbol => some symbol
  | .fork .. => none

/-- Join trees until one is left; gives it, and the symbols in the order in which they were taken. -/
def joinAll : Nat → Array Weighed → List Nat → Option Weighed × List Nat
  | 0, heap, taken => (heap[0]?, taken.reverse)
  | fuel + 1, heap, taken =>
    match heap[0]?, heap.back? with
    | some first, some last =>
      if heap.size < 2 then (some first, taken.reverse)
      else
        let heap := sink heap.size (heap.pop.setIfInBounds 0 last) 0
        match heap[0]? with
        | none => (some first, taken.reverse)
        | some second =>
          let taken := second.symbol?.toList ++ first.symbol?.toList ++ taken
          joinAll fuel (sink heap.size (heap.setIfInBounds 0 (first.join second)) 0) taken
    | _, _ => (none, taken.reverse)

end Weighed

namespace Code

/-- Make room for words that are too long: a shorter word becomes one bit longer and gets a neighbour. -/
def makeRoom (limit : Nat) : Nat → Nat → Array Nat → Array Nat
  | 0, _, counts => counts
  | _, 0, counts => counts
  | fuel + 1, excess, counts =>
    let shorter := ((List.range limit).reverse.find? fun n => 0 < counts.getD n 0).getD 0
    let counts := counts.modify shorter (· - 1)
    let counts := counts.modify (shorter + 1) (· + 2)
    makeRoom limit fuel (excess - 2) (counts.modify limit (· - 1))

/-- Symbols with lengths so that so many have each length, the longest first. -/
def dealt (counts : Array Nat) (limit : Nat) (symbols : List Nat) : List (Nat × Nat) :=
  symbols.zip ((List.range (limit + 1)).reverse.flatMap fun n => List.replicate (counts.getD n 0) n)

/-- The symbols that get words, with how often they occur: at least two symbols, and small ones if others are needed. -/
def worded (frequencies : List Nat) : List (Nat × Nat) :=
  let used := (frequencies.zipIdx.filter fun (n, _) => 0 < n).map fun (n, i) => (i, n)
  match used with
  | [] => [(0, 1), (1, 1)]
  | [(i, n)] => [(i, n), (if i < 2 then i + 1 else 0, 1)]
  | used => used

/-- The lengths of words, up to the last symbol that has one, for symbols that occur so often. -/
def lengthsFor (limit : Nat) (frequencies : List Nat) : List Nat :=
  let symbols := worded frequencies
  let size := symbols.foldl (fun n s => max n (s.1 + 1)) 0
  let (top, taken) :=
    Weighed.joinAll symbols.length (Weighed.heapOf (symbols.map fun (i, n) => .single i n)) []
  match top with
  | none => []
  | some top =>
    let depths := top.tree.depths 0
    let excess := top.tree.deeper limit 0
    let lengths := if excess = 0 then depths else
      let none := (List.replicate (limit + 1) 0).toArray
      let counts := depths.foldl (fun counts (_, n) => counts.modify (min limit n) (· + 1)) none
      dealt (makeRoom limit excess excess counts) limit taken
    (lengths.foldl (fun a (i, n) => a.setIfInBounds i n) (List.replicate size 0).toArray).toList

end Code

/-! ### Tables -/

/-- A number in a table, with the bits behind it. -/
abbrev TableItem := Nat × Bits

/-- Items for equal lengths of words that follow each other; tells what stood before them. -/
def runItems (n : Nat) : Nat → Nat → Bool → List TableItem
  | 0, _, _ => []
  | fuel + 1, count, isFirst =>
    if count = 0 then []
    else if n = 0 then
      let k := min count 138
      let item : List TableItem :=
        if k < 3 then List.replicate k (n, [])
        else if k ≤ 10 then [(17, bitsOf 3 (k - 3))]
        else [(18, bitsOf 7 (k - 11))]
      item ++ runItems n fuel (count - k) false
    else if isFirst then
      let k := min count 7
      let item : List TableItem :=
        if k < 4 then List.replicate k (n, []) else [(n, []), (16, bitsOf 2 (k - 4))]
      item ++ runItems n fuel (count - k) false
    else
      let k := min count 6
      let item : List TableItem := if k < 3 then List.replicate k (n, []) else [(16, bitsOf 2 (k - 3))]
      item ++ runItems n fuel (count - k) false

/-- Equal neighbours as one with their number. -/
def runs : List Nat → List (Nat × Nat)
  | [] => []
  | n :: ns => match runs ns with
    | (m, count) :: rest => if n = m then (m, count + 1) :: rest else (n, 1) :: (m, count) :: rest
    | [] => [(n, 1)]

/-- The items of a table. -/
def tableItems (lengths : List Nat) : List TableItem :=
  (runs lengths).flatMap fun (n, count) => runItems n count count true

/-- How often each number up to a limit is the first of the pairs. -/
def frequencies (limit : Nat) (items : List (Nat × Bits)) : List Nat :=
  (items.foldl (fun a i => a.modify i.1 (· + 1)) (List.replicate limit 0).toArray).toList

/-- The bits of items in a code. -/
def written (words : List Bits) (items : List (Nat × Bits)) : Bits :=
  let words := words.toArray
  items.flatMap fun (i, bits) => words.getD i [] ++ bits

/-- How many bits items need in a code whose words have lengths. -/
def costOf (lengths : List Nat) (items : List (Nat × Bits)) : Nat :=
  let lengths := lengths.toArray
  items.foldl (fun n (i, bits) => n + lengths.getD i 0 + bits.length) 0

/-- The codes of a block, with the table that tells them. -/
structure OwnCodes where
  /-- The lengths of words for bytes and lengths. -/
  symbols : List Nat
  /-- The lengths of words for distances. -/
  distances : List Nat
  /-- The table. -/
  table : Bits

/-- The codes for the symbols and distances of a block. -/
def OwnCodes.of (symbols distances : List (Nat × Bits)) : OwnCodes :=
  let lengths := Code.lengthsFor longestWord (frequencies 286 symbols)
  let ranges := Code.lengthsFor longestWord (frequencies 30 distances)
  let items := tableItems lengths ++ tableItems ranges
  let own := (Code.lengthsFor 7 (frequencies 19 items)).toArray
  let told := (Code.tableOrder.map fun i => own.getD i 0).reverse
  let told := (told.take 15).dropWhile (· = 0) ++ told.drop 15
  let table := bitsOf 5 (lengths.length - 257) ++ bitsOf 5 (ranges.length - 1) ++ bitsOf 4 (told.length - 4)
    ++ told.reverse.flatMap (bitsOf 3) ++ written (Code.words own.toList) items
  ⟨lengths, ranges, table⟩

/-! ### Blocks -/

/-- The bits of a block of bytes that stand for themselves, behind so many bits. -/
def storedBits (offset : Nat) (bytes : Text) : Bits :=
  let n := bytes.length
  List.replicate ((8 - (offset + 3) % 8) % 8) false ++ bitsOf 16 n ++ bitsOf 16 (0xffff - n)
    ++ bytes.flatMap fun c => bitsOf 8 c.toNat

/-- The bits of a block, behind so many bits. -/
def blockBits (isLast : Bool) (offset : Nat) (b : Block) : Bits :=
  let pairs := b.tokens.map Token.symbols
  let symbols := pairs.map (·.1) ++ [(stopSymbol, [])]
  let distances := pairs.filterMap (·.2)
  let own := OwnCodes.of symbols distances
  let cost (lengths ranges : List Nat) : Nat := costOf lengths symbols + costOf ranges distances
  let ownSize := (cost own.symbols own.distances + own.table.length + 10) / 8
  let usualSize := (cost Code.usualLengths Code.usualDistances + 10) / 8
  let least := min ownSize usualSize
  let items : List (Bool × Nat × Bits) :=
    (pairs.flatMap fun (symbol, distance) => (true, symbol) :: (distance.toList.map fun d => (false, d)))
      ++ [(true, stopSymbol, [])]
  let text (lengths ranges : List Nat) : Bits :=
    let words := (Code.words lengths).toArray
    let rangeWords := (Code.words ranges).toArray
    items.flatMap fun (isSymbol, i, bits) =>
      (if isSymbol then words.getD i [] else rangeWords.getD i []) ++ bits
  isLast :: if b.kept && b.bytes.length + 4 ≤ least then false :: false :: storedBits offset b.bytes
    else if usualSize = least then true :: false :: text Code.usualLengths Code.usualDistances
    else false :: true :: own.table ++ text own.symbols own.distances

/-- The bits of blocks, behind so many bits. -/
def blocksBits : Nat → List Block → Bits
  | _, [] => []
  | offset, b :: bs =>
    let bits := blockBits bs.isEmpty offset b
    bits ++ blocksBits (offset + bits.length) bs

/-- The bytes that bits fill. -/
def packed : Bits → Text
  | b0 :: b1 :: b2 :: b3 :: b4 :: b5 :: b6 :: b7 :: rest =>
    Char.ofNat (valueOf [b0, b1, b2, b3, b4, b5, b6, b7]) :: packed rest
  | [] => []
  | rest => [Char.ofNat (valueOf rest)]

/-- The deflated data of a text. -/
def deflate (level : Nat) (t : Text) : Text := packed (blocksBits 0 (blocksOf (.ofLevel level) t))

end Rollout.Deflate
