import Rollout.Machine.Deflate.Basic

/-!
Finding copies. The positions at which three bytes stand are kept in chains, the last position first, and a copy is
sought along the chain of the bytes that come next. A copy may be put off if a longer one starts one byte later.
-/

namespace Rollout.Deflate

/-- How hard copies are sought. -/
structure Effort where
  /-- A copy so long makes the search for a longer one shorter. -/
  good : Nat
  /-- No longer copy is sought one byte later than one so long; without putting off, positions within a longer one are
  not remembered. -/
  enough : Nat
  /-- A copy so long ends the search. -/
  nice : Nat
  /-- How many positions are tried. -/
  chain : Nat
  /-- Are copies put off? -/
  delays : Bool
  /-- Does a block end early if it compresses well? -/
  weighs : Bool

namespace Effort

/-- The effort of a level from 1 to 9. -/
def ofLevel : Nat → Effort
  | 0 => ⟨4, 4, 8, 4, false, false⟩
  | 1 => ⟨4, 4, 8, 4, false, false⟩
  | 2 => ⟨4, 5, 16, 8, false, false⟩
  | 3 => ⟨4, 6, 32, 32, false, true⟩
  | 4 => ⟨4, 4, 16, 16, true, true⟩
  | 5 => ⟨8, 16, 32, 32, true, true⟩
  | 6 => ⟨8, 16, 128, 128, true, true⟩
  | 7 => ⟨8, 32, 128, 256, true, true⟩
  | 8 => ⟨32, 128, 258, 1024, true, true⟩
  | _ => ⟨32, 258, 258, 4096, true, true⟩

end Effort

/-- A run of pieces that share their codes. -/
structure Block where
  /-- The pieces. -/
  tokens : List Token
  /-- The bytes that they stand for. -/
  bytes : Text
  /-- Can the bytes still be written as they are? -/
  kept : Bool

/-- The shortest copy. -/
def leastCopy : Nat := 3

/-- The longest copy. -/
def greatestCopy : Nat := 258

/-- How many bytes must be known ahead for a search. -/
def ahead : Nat := greatestCopy + leastCopy + 1

/-- How many bytes the half of a window holds. -/
def windowHalf : Nat := 32768

/-- How far a copy may be away. -/
def greatestDistance : Nat := windowHalf - ahead

/-- How far one of the shortest copies may be away if copies are put off. -/
def shortDistance : Nat := 4096

/-- How many pieces a block may have. -/
def blockSize : Nat := 32767

/-- A search for copies. -/
structure Search where
  /-- The bytes. -/
  data : Array Char
  /-- The last positions at which three bytes of a kind stand; zero where there is none. -/
  heads : Array Nat
  /-- For each position, the one before it in its chain. -/
  links : Array Nat
  /-- Where the window starts; the position itself is never copied. -/
  base : Nat
  /-- How many bytes are known. -/
  known : Nat
  /-- Are all bytes known? -/
  complete : Bool
  /-- The position of the search. -/
  pos : Nat
  /-- Where the block starts. -/
  start : Nat
  /-- The pieces of the block, the last first. -/
  tokens : List Token
  /-- How many pieces the block has. -/
  count : Nat
  /-- How many of them are copies. -/
  copies : Nat
  /-- How many bits their distances need. -/
  distanceBits : Nat
  /-- The blocks before, the last first. -/
  blocks : List Block

namespace Search

/-- The start of a search. -/
def ofText (t : Text) : Search where
  data := t.toArray
  heads := (List.replicate windowHalf 0).toArray
  links := (List.replicate (t.length + 1) 0).toArray
  base := 0
  known := min t.length (2 * windowHalf)
  complete := decide (t.length = 0)
  pos := 0
  start := 0
  tokens := []
  count := 0
  copies := 0
  distanceBits := 0
  blocks := []

/-- The byte at a position; there are zeros behind the end. -/
def byteAt (s : Search) (i : Nat) : Char := s.data.getD i '\x00'

/-- Where positions of a kind are found. -/
def kindAt (s : Search) (i : Nat) : Nat :=
  (((s.byteAt i).toNat <<< 10) ^^^ ((s.byteAt (i + 1)).toNat <<< 5) ^^^ (s.byteAt (i + 2)).toNat) &&& (windowHalf - 1)

/-- How many bytes are known from the position on. -/
def left (s : Search) : Nat := s.known - s.pos

/-- Remember a position; gives the last one of its kind before it. -/
def remember (s : Search) (i : Nat) : Nat × Search :=
  let kind := s.kindAt i
  let head := s.heads.getD kind 0
  (head, { s with
    links := s.links.setIfInBounds i head
    heads := s.heads.setIfInBounds kind i })

/-- Remember so many positions from one on. -/
def rememberFrom : Nat → Nat → Search → Search
  | 0, _, s => s
  | n + 1, i, s => rememberFrom n (i + 1) (s.remember i).2

/-- How many more bytes agree at two positions, up to a number of them. -/
def agreeing (s : Search) (i j : Nat) : Nat → Nat
  | 0 => 0
  | n + 1 => if s.byteAt i = s.byteAt j then agreeing s (i + 1) (j + 1) n + 1 else 0

/-- The longest copy along a chain, and where it starts; only a longer one than the best so far counts. -/
def along (s : Search) (e : Effort) (limit : Nat) : Nat → Nat → Nat × Nat → Nat × Nat
  | 0, _, best => best
  | fuel + 1, i, best =>
    let further (best : Nat × Nat) : Nat × Nat :=
      let next := s.links.getD i 0
      if limit < next then along s e limit fuel next best else best
    if s.byteAt (i + best.1) ≠ s.byteAt (s.pos + best.1) then further best
    else
      let n := s.agreeing i s.pos greatestCopy
      if best.1 < n then if e.nice ≤ n then (n, i) else further (n, i)
      else further best

/-- The longest copy from a position on, if one may be sought there. -/
def longest (s : Search) (e : Effort) (head : Nat) (best : Nat × Nat) : Option (Nat × Nat) :=
  if s.base < head && s.pos - head ≤ greatestDistance && s.pos - s.base ≤ 2 * windowHalf - ahead then
    let limit := max s.base (s.pos - greatestDistance)
    let tries := if e.good ≤ best.1 then e.chain / 4 else e.chain
    let (n, i) := s.along e limit tries head best
    some (min n s.left, i)
  else none

/-- The block up to a position becomes one of the blocks. -/
def close (s : Search) (stop : Nat) : Search :=
  let bytes := (s.data.extract s.start stop).toList
  { s with
    blocks := ⟨s.tokens.reverse, bytes, decide (s.base ≤ s.start)⟩ :: s.blocks
    tokens := []
    count := 0
    copies := 0
    distanceBits := 0
    start := stop }

/-- The search with one more piece; tells whether the block is to end. -/
def emit (s : Search) (e : Effort) (token : Token) : Search × Bool :=
  let s := { s with
    tokens := token :: s.tokens
    count := s.count + 1 }
  let s := match token with
    | .literal _ => s
    | .copy _ distance => { s with
      copies := s.copies + 1
      distanceBits := s.distanceBits + 5 + (Range.find Range.distances distance).2.length }
  let size := (s.count * 8 + s.distanceBits) / 8
  let isSmall := decide (s.copies < s.count / 2) && decide (size < (s.pos - s.start) / 2)
  (s, (e.weighs && s.count % 4096 = 0 && isSmall) || s.count = blockSize || s.copies = blockSize + 1)

/-- Get to know more bytes when few are left. -/
def refill (s : Search) : Search :=
  if s.complete || ahead ≤ s.left then s
  else
    let s := if 2 * windowHalf - ahead ≤ s.pos - s.base then { s with base := s.base + windowHalf } else s
    let known := min s.data.size (s.base + 2 * windowHalf)
    if known = s.known then { s with complete := true } else { s with known := known }

/-- Move on, end the block if it is to end, and get to know more bytes. -/
def goOn (s : Search) (count : Nat) (ends : Bool) : Search :=
  let s := { s with pos := s.pos + count }
  (if ends then s.close s.pos else s).refill.refill

/-- Search without putting off copies. -/
def greedy (e : Effort) : Nat → Search → Search
  | 0, s => s
  | fuel + 1, s =>
    if s.left = 0 then s
    else
      let (head, s) := s.remember s.pos
      match s.longest e head (leastCopy - 1, 0) with
      | some (n, i) =>
        if leastCopy ≤ n then
          let (s, ends) := s.emit e (.copy n (s.pos - i))
          let s := if n ≤ e.enough then s.rememberFrom (n - 1) (s.pos + 1) else s
          greedy e fuel (s.goOn n ends)
        else
          let (s, ends) := s.emit e (.literal (s.byteAt s.pos))
          greedy e fuel (s.goOn 1 ends)
      | none =>
        let (s, ends) := s.emit e (.literal (s.byteAt s.pos))
        greedy e fuel (s.goOn 1 ends)

/-- Search while a copy, or none, may be put off that starts one byte before. -/
def patient (e : Effort) : Nat → Option (Nat × Nat) → Search → Search
  | 0, _, s => s
  | fuel + 1, before, s =>
    if s.left = 0 then
      if before.isSome then (s.emit e (.literal (s.byteAt (s.pos - 1)))).1 else s
    else
      let (head, s) := s.remember s.pos
      let (oldLength, oldStart) := before.getD (leastCopy - 1, 0)
      let found := if oldLength < e.enough then s.longest e head (oldLength, oldStart) else none
      let (n, i) := found.getD (leastCopy - 1, oldStart)
      let n := if found.isSome && n = leastCopy && shortDistance < s.pos - i then n - 1 else n
      if leastCopy ≤ oldLength && n ≤ oldLength then
        let (s, ends) := s.emit e (.copy oldLength (s.pos - 1 - oldStart))
        let s := s.rememberFrom (oldLength - 2) (s.pos + 1)
        patient e fuel none (s.goOn (oldLength - 1) ends)
      else if before.isSome then
        let (s, ends) := s.emit e (.literal (s.byteAt (s.pos - 1)))
        let s := if ends then s.close s.pos else s
        patient e fuel (some (n, i)) (s.goOn 1 false)
      else patient e fuel (some (n, i)) (s.goOn 1 false)

end Search

/-- The blocks of a text, of which the last ends it. -/
def blocksOf (e : Effort) (t : Text) : List Block :=
  let s := Search.ofText t
  let fuel := t.length + 1
  let s := if e.delays then Search.patient e fuel none s else Search.greedy e fuel s
  (s.close t.length).blocks.reverse

end Rollout.Deflate
