import Rollout.Text.Basic

/-!
The pieces of deflated data: bytes that stand for themselves, and copies of bytes that came before. Each has a symbol,
and a copy has a number behind its symbol that says which length or distance of a range is meant.

The symbols are written in codes without prefixes. A code is given by the lengths of its words alone: shorter words come
first, and words of one length in the order of their symbols, each the number after the one before.
-/

namespace Rollout.Deflate

/-- A sequence of bits. -/
abbrev Bits := List Bool

/-- The bits of a number, the lowest first. -/
def bitsOf (width n : Nat) : Bits := (List.range width).map n.testBit

/-- The number that bits denote, the lowest first. -/
def valueOf (bits : Bits) : Nat := bits.foldr (fun b n => 2 * n + b.toNat) 0

/-- A piece of deflated data. -/
inductive Token
  /-- A byte that stands for itself. -/
  | literal (byte : Char)
  /-- So many bytes again that came so far before. -/
  | copy (length distance : Nat)

/-- A range of numbers that share a symbol. -/
structure Range where
  /-- The first number. -/
  first : Nat
  /-- How many bits say which number is meant. -/
  width : Nat

namespace Range

/-- The ranges of lengths, in order of their symbols. -/
def lengths : List Range :=
  [⟨3, 0⟩, ⟨4, 0⟩, ⟨5, 0⟩, ⟨6, 0⟩, ⟨7, 0⟩, ⟨8, 0⟩, ⟨9, 0⟩, ⟨10, 0⟩, ⟨11, 1⟩, ⟨13, 1⟩, ⟨15, 1⟩, ⟨17, 1⟩, ⟨19, 2⟩,
    ⟨23, 2⟩, ⟨27, 2⟩, ⟨31, 2⟩, ⟨35, 3⟩, ⟨43, 3⟩, ⟨51, 3⟩, ⟨59, 3⟩, ⟨67, 4⟩, ⟨83, 4⟩, ⟨99, 4⟩, ⟨115, 4⟩, ⟨131, 5⟩,
    ⟨163, 5⟩, ⟨195, 5⟩, ⟨227, 5⟩, ⟨258, 0⟩]

/-- The ranges of distances, in order of their symbols. -/
def distances : List Range :=
  [⟨1, 0⟩, ⟨2, 0⟩, ⟨3, 0⟩, ⟨4, 0⟩, ⟨5, 1⟩, ⟨7, 1⟩, ⟨9, 2⟩, ⟨13, 2⟩, ⟨17, 3⟩, ⟨25, 3⟩, ⟨33, 4⟩, ⟨49, 4⟩, ⟨65, 5⟩,
    ⟨97, 5⟩, ⟨129, 6⟩, ⟨193, 6⟩, ⟨257, 7⟩, ⟨385, 7⟩, ⟨513, 8⟩, ⟨769, 8⟩, ⟨1025, 9⟩, ⟨1537, 9⟩, ⟨2049, 10⟩,
    ⟨3073, 10⟩, ⟨4097, 11⟩, ⟨6145, 11⟩, ⟨8193, 12⟩, ⟨12289, 12⟩, ⟨16385, 13⟩, ⟨24577, 13⟩]

/-- The symbol among ranges that a number has, and the bits that select it. -/
def find (ranges : List Range) (n : Nat) : Nat × Bits :=
  let i := (ranges.takeWhile (·.first ≤ n)).length - 1
  match ranges[i]? with
  | some r => (i, bitsOf r.width (n - r.first))
  | none => (0, [])

end Range

/-- The symbol at which a block ends. -/
def stopSymbol : Nat := 256

namespace Token

/-- The symbol of a byte or of a length, with the bits behind it, and the symbol of a distance with its bits. -/
def symbols : Token → (Nat × Bits) × Option (Nat × Bits)
  | literal byte => ((byte.toNat, []), none)
  | copy length distance =>
    let (i, bits) := Range.find Range.lengths length
    ((stopSymbol + 1 + i, bits), some (Range.find Range.distances distance))

end Token

/-! ### Codes without prefixes -/

/-- The greatest length of a word. -/
def longestWord : Nat := 15

namespace Code

/-- The bits of a number, the highest first. -/
def word (width n : Nat) : Bits := (bitsOf width n).reverse

/-- How many words have each length up to the greatest one; symbols without a word do not count. -/
def counts (lengths : List Nat) : List Nat :=
  (List.range (longestWord + 1)).map fun n => if n = 0 then 0 else lengths.count n

/-- The numbers of the first words of each length: behind a length, words have one bit more. -/
def firstsFrom (n : Nat) : List Nat → List Nat
  | [] => []
  | count :: rest => n :: firstsFrom (2 * (n + count)) rest

/-- The words of symbols with lengths, given the next numbers. -/
def wordsFrom (next : Array Nat) : List Nat → List Bits
  | [] => []
  | 0 :: rest => [] :: wordsFrom next rest
  | n :: rest =>
    let k := next.getD n 0
    word n k :: wordsFrom (next.setIfInBounds n (k + 1)) rest

/-- The words of symbols whose words have lengths. -/
def words (lengths : List Nat) : List Bits := wordsFrom (firstsFrom 0 (counts lengths)).toArray lengths

/-- The lengths of words in the code of bytes and lengths that needs no table. -/
def usualLengths : List Nat :=
  List.replicate 144 8 ++ List.replicate 112 9 ++ List.replicate 24 7 ++ List.replicate 8 8

/-- The lengths of words in the code of distances that needs no table. -/
def usualDistances : List Nat := List.replicate 30 5

/-- The order in which a table tells the lengths of the words for lengths. -/
def tableOrder : List Nat := [16, 17, 18, 0, 8, 7, 9, 6, 10, 5, 11, 4, 12, 3, 13, 2, 14, 1, 15]

end Code

/-- The words of a code, put together at the bits with which they start. -/
inductive Trie
  | nothing
  | leaf (symbol : Nat)
  | fork (zero one : Trie)

namespace Trie

/-- The trie with one more word. -/
def insert (symbol : Nat) : Bits → Trie → Trie
  | [], _ => leaf symbol
  | false :: bits, fork zero one => fork (insert symbol bits zero) one
  | true :: bits, fork zero one => fork zero (insert symbol bits one)
  | false :: bits, _ => fork (insert symbol bits nothing) nothing
  | true :: bits, _ => fork nothing (insert symbol bits nothing)

/-- The words of a code. -/
def ofLengths (lengths : List Nat) : Trie :=
  (Code.words lengths).zipIdx.foldl (fun t (w, i) => if w.isEmpty then t else t.insert i w) nothing

/-- What comes of reading a word. -/
inductive Found
  /-- The symbol of the word, and what follows. -/
  | symbol (n : Nat) (rest : Bits)
  /-- There is no such word. -/
  | unknown
  /-- The bits end within a word. -/
  | ended

/-- Read a word. -/
def read : Trie → Bits → Found
  | leaf symbol, bits => .symbol symbol bits
  | nothing, _ => .unknown
  | fork .., [] => .ended
  | fork zero _, false :: bits => read zero bits
  | fork _ one, true :: bits => read one bits

end Trie

end Rollout.Deflate
