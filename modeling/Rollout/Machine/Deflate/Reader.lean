import Rollout.Machine.Deflate.Basic

/-!
Reading deflated data: block after block until the one that says it is the last.
-/

namespace Rollout.Deflate

/-- Why data cannot be read. -/
inductive Fault
  /-- The data end too early. -/
  | ended
  /-- No such data are ever written. -/
  | violated
  deriving DecidableEq

/-- What is read, and what came of it so far. -/
structure Reading where
  /-- The bits that are left. -/
  bits : Bits
  /-- The bytes so far. -/
  bytes : Array Char

/-- Reading data. -/
abbrev Reader := ExceptT Fault (StateM Reading)

namespace Reader

/-- The next bits as a number, the lowest first. -/
def number (width : Nat) : Reader Nat := do
  let r ← get
  let bits := r.bits.take width
  if bits.length < width then throw .ended
  set { r with bits := r.bits.drop width }
  return valueOf bits

/-- A code that is read, with how many bits are looked at for a word. -/
structure Words where
  /-- The words. -/
  words : Trie
  /-- How many bits there must be. -/
  glance : Nat

/-- The code whose words have lengths; more words than there are bits for make no code, nor do fewer, unless they all
have one bit. -/
def Words.of (glance : Nat) (lengths : List Nat) : Reader Words := do
  let used := lengths.filter (0 < ·)
  let room := used.foldl (fun n k => n + Nat.pow 2 (longestWord - k)) 0
  let greatest := used.foldl max 0
  let least := used.foldl min longestWord
  let all := Nat.pow 2 longestWord
  if all < room || (0 < room && room < all && greatest ≠ 1) then throw .violated
  return ⟨.ofLengths lengths, min greatest (max least glance)⟩

/-- The next symbol of a code. -/
def symbol (w : Words) : Reader Nat := do
  let r ← get
  if (r.bits.drop (w.glance - 1)).isEmpty then throw .ended
  match w.words.read r.bits with
  | .symbol n rest => do
    set { r with bits := rest }
    return n
  | .unknown => throw .violated
  | .ended => throw .ended

/-- The number in the range that a symbol stands for. -/
def ranged (ranges : List Range) (i : Nat) : Reader Nat := do
  match ranges[i]? with
  | none => throw .violated
  | some r => return r.first + (← number r.width)

/-- So many bytes again that came so far before; there are zeros in front of the first byte. -/
def copied (distance : Nat) : Nat → Array Char → Array Char
  | 0, bytes => bytes
  | n + 1, bytes =>
    copied distance n (bytes.push (if distance ≤ bytes.size then bytes.getD (bytes.size - distance) '\x00' else '\x00'))

/-- Add bytes to those that are read. -/
def add (f : Array Char → Array Char) : Reader Unit := modify fun r => { r with bytes := f r.bytes }

/-- The pieces of a block. -/
def pieces (symbols distances : Words) : Nat → Reader Unit
  | 0 => throw .ended
  | fuel + 1 => do
    let i ← symbol symbols
    if i < stopSymbol then
      add (·.push (Char.ofNat i))
      pieces symbols distances fuel
    else if i = stopSymbol then return
    else
      let length ← ranged Range.lengths (i - stopSymbol - 1)
      let distance ← ranged Range.distances (← symbol distances)
      add (copied distance length)
      pieces symbols distances fuel

/-- Lengths of words that a table tells, so many, the last first. -/
def tableLengths (words : Words) (count : Nat) : Nat → List Nat → Reader (List Nat)
  | 0, _ => throw .violated
  | fuel + 1, found => do
    if count < found.length then throw .violated
    if found.length = count then return found
    let i ← symbol words
    let (times, n) : Nat × Nat ←
      if i < 16 then pure (1, i)
      else if i = 16 then do pure ((← number 2) + 3, found.headD 0)
      else if i = 17 then do pure ((← number 3) + 3, 0)
      else do pure ((← number 7) + 11, 0)
    tableLengths words count fuel (List.replicate times n ++ found)

/-- The codes that a table tells. -/
def table : Reader (Words × Words) := do
  let symbols := (← number 5) + 257
  let distances := (← number 5) + 1
  let told := (← number 4) + 4
  if 286 < symbols || 30 < distances then throw .violated
  let lengths ← (List.range told).mapM fun _ => number 3
  let own := (Code.tableOrder.zip lengths).foldl (fun a (i, n) => a.setIfInBounds i n) (List.replicate 19 0).toArray
  let words ← Words.of 7 own.toList
  let lengths := (← tableLengths words (symbols + distances) (symbols + distances + 1) []).reverse
  return (← Words.of 9 (lengths.take symbols), ← Words.of 6 (lengths.drop symbols))

/-- A block of bytes that stand for themselves. -/
def stored : Reader Unit := do
  modify fun r => { r with bits := r.bits.drop (r.bits.length % 8) }
  let n ← number 16
  let other ← number 16
  if n + other ≠ 0xffff then throw .violated
  (List.range n).forM fun _ => do
    let c ← number 8
    add (·.push (Char.ofNat c))

/-- Blocks up to the last one. -/
def blocks : Nat → Reader Unit
  | 0 => throw .ended
  | fuel + 1 => do
    let isLast ← number 1
    let kind ← number 2
    let room := (← get).bits.length + 1
    match kind with
    | 0 => stored
    | 1 => pieces (← Words.of 7 Code.usualLengths) (← Words.of 5 (Code.usualDistances ++ [5, 5])) room
    | 2 => do
      let (symbols, distances) ← table
      pieces symbols distances room
    | _ => throw .violated
    if isLast = 1 then return else blocks fuel

end Reader

/-- The bits of bytes. -/
def unpacked (t : Text) : Bits := t.flatMap fun c => bitsOf 8 c.toNat

/-- What came of reading deflated data: the bytes, and how many bytes of the data follow them. -/
structure Inflated where
  /-- The bytes. -/
  bytes : Text
  /-- How many bytes of the data are left. -/
  left : Nat
  /-- What is wrong with the data. -/
  fault : Option Fault

/-- Read deflated data. -/
def inflate (t : Text) : Inflated :=
  let bits := unpacked t
  let (result, r) := ((Reader.blocks (bits.length + 1)).run.run ⟨bits, #[]⟩ : Except Fault Unit × Reading)
  let fault := match result with
    | .error e => some e
    | .ok _ => none
  ⟨r.bytes.toList, r.bits.length / 8, fault⟩

end Rollout.Deflate
