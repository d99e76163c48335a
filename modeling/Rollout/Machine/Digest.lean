import Rollout.Text.Basic

/-!
Digests of bytes. The bytes are filled up to whole blocks, the length coming last, and the blocks are mixed into a
state one after another. Words are natural numbers below a power of two; the constants of one family are the
fractional parts of roots of primes. BLAKE2b with an output of at most 64 bytes cuts its input into blocks of 128
bytes, which are mixed into eight words.
-/

namespace Rollout.Digest

/-! ### Words -/

/-- The part of a number that fits in so many bits. -/
def low (bits n : Nat) : Nat := n &&& ((1 <<< bits) - 1)

/-- A word turned to the left. -/
def turnLeft (bits n word : Nat) : Nat := low bits (word <<< n) ||| (word >>> (bits - n))

/-- A word turned to the right. -/
def turnRight (bits n word : Nat) : Nat := turnLeft bits (bits - n) word

/-- The complement of a word. -/
def flipped (bits word : Nat) : Nat := low bits word ^^^ ((1 <<< bits) - 1)

/-- The bytes of a number, the high ones first. -/
def bytesOf : Nat → Nat → Text
  | 0, _ => []
  | count + 1, n => Char.ofNat (n >>> (8 * count) &&& 255) :: bytesOf count n

/-- The number that bytes make, the high ones first. -/
def wordOf (t : Text) : Nat := t.foldl (fun n c => n <<< 8 ||| c.toNat) 0

/-- The words that bytes make; without need the low bytes come first. -/
def wordsOf (size : Nat) (highFirst : Bool) : Nat → Text → List Nat
  | 0, _ => []
  | count + 1, t =>
    let part := t.take size
    wordOf (if highFirst then part else part.reverse) :: wordsOf size highFirst count (t.drop size)

/-- The bytes in hexadecimal digits. -/
def hex (t : Text) : Text :=
  t.flatMap fun c => [Nat.digitChar (c.toNat / 16), Nat.digitChar (c.toNat % 16)]

/-- The bytes filled up to whole blocks; the number of bits stands at the end. -/
def filled (block : Nat) (highFirst : Bool) (t : Text) : Text :=
  let size := block / 8
  let zeros := (2 * block - 1 - size - t.length % block) % block
  let count := bytesOf size (8 * t.length)
  t ++ Char.ofNat 128 :: List.replicate zeros '\x00' ++ (if highFirst then count else count.reverse)

/-- The state after all blocks have been mixed in. -/
def mixAll {α : Type} (mix : α → List Nat → α) (size : Nat) (highFirst : Bool) (block : Nat) :
    Nat → α → Text → α
  | 0, s, _ => s
  | fuel + 1, s, t =>
    if t = [] then s
    else mixAll mix size highFirst block fuel (mix s (wordsOf size highFirst 16 t)) (t.drop block)

/-! ### Four words -/

/-- The constants of the 64 steps. -/
def sines : Array Nat :=
  #[0xd76aa478, 0xe8c7b756, 0x242070db, 0xc1bdceee, 0xf57c0faf, 0x4787c62a, 0xa8304613, 0xfd469501,
    0x698098d8, 0x8b44f7af, 0xffff5bb1, 0x895cd7be, 0x6b901122, 0xfd987193, 0xa679438e, 0x49b40821,
    0xf61e2562, 0xc040b340, 0x265e5a51, 0xe9b6c7aa, 0xd62f105d, 0x02441453, 0xd8a1e681, 0xe7d3fbc8,
    0x21e1cde6, 0xc33707d6, 0xf4d50d87, 0x455a14ed, 0xa9e3e905, 0xfcefa3f8, 0x676f02d9, 0x8d2a4c8a,
    0xfffa3942, 0x8771f681, 0x6d9d6122, 0xfde5380c, 0xa4beea44, 0x4bdecfa9, 0xf6bb4b60, 0xbebfbc70,
    0x289b7ec6, 0xeaa127fa, 0xd4ef3085, 0x04881d05, 0xd9d4d039, 0xe6db99e5, 0x1fa27cf8, 0xc4ac5665,
    0xf4292244, 0x432aff97, 0xab9423a7, 0xfc93a039, 0x655b59c3, 0x8f0ccc92, 0xffeff47d, 0x85845dd1,
    0x6fa87e4f, 0xfe2ce6e0, 0xa3014314, 0x4e0811a1, 0xf7537e82, 0xbd3af235, 0x2ad7d2bb, 0xeb86d391]

/-- The turns of the steps, four for each round. -/
def turns : Array Nat := #[7, 12, 17, 22, 5, 9, 14, 20, 4, 11, 16, 23, 6, 10, 15, 21]

/-- Mix a block into four words. -/
def md5Block (s : List Nat) (m : List Nat) : List Nat :=
  let step (s : List Nat) (i : Nat) : List Nat := match s with
    | [a, b, c, d] =>
      let (f, g) := match i / 16 with
        | 0 => ((b &&& c) ||| (flipped 32 b &&& d), i)
        | 1 => ((d &&& b) ||| (flipped 32 d &&& c), (5 * i + 1) % 16)
        | 2 => (b ^^^ c ^^^ d, (3 * i + 5) % 16)
        | _ => (c ^^^ (b ||| flipped 32 d), 7 * i % 16)
      let sum := low 32 (a + f + (sines[i]?).getD 0 + (m[g]?).getD 0)
      [d, low 32 (b + turnLeft 32 ((turns[i / 16 * 4 + i % 4]?).getD 0) sum), b, c]
    | s => s
  ((List.range 64).foldl step s).zipWith (fun x y => low 32 (x + y)) s

/-- The digest MD5. -/
def md5 (t : Text) : Text :=
  let s := mixAll md5Block 4 false 64 (t.length + 2) [0x67452301, 0xefcdab89, 0x98badcfe, 0x10325476] (filled 64 false t)
  s.flatMap fun w => (bytesOf 4 w).reverse

/-! ### Five words -/

/-- The words of a block with those that follow from them, as many as there are steps. -/
def extended (next : Array Nat → Nat → Nat) (steps : Nat) (m : List Nat) : Array Nat :=
  (List.range (steps - 16)).foldl (fun ws i => ws.push (next ws (i + 16))) m.toArray

/-- A word of a list. -/
def nth (ws : Array Nat) (i : Nat) : Nat := (ws[i]?).getD 0

/-- Mix a block into five words. -/
def sha1Block (s : List Nat) (m : List Nat) : List Nat :=
  let ws := extended (fun ws i =>
    turnLeft 32 1 (nth ws (i - 3) ^^^ nth ws (i - 8) ^^^ nth ws (i - 14) ^^^ nth ws (i - 16))) 80 m
  let step (s : List Nat) (i : Nat) : List Nat := match s with
    | [a, b, c, d, e] =>
      let (f, k) := match i / 20 with
        | 0 => ((b &&& c) ||| (flipped 32 b &&& d), 0x5a827999)
        | 1 => (b ^^^ c ^^^ d, 0x6ed9eba1)
        | 2 => ((b &&& c) ||| (b &&& d) ||| (c &&& d), 0x8f1bbcdc)
        | _ => (b ^^^ c ^^^ d, 0xca62c1d6)
      [low 32 (turnLeft 32 5 a + f + e + k + nth ws i), a, turnLeft 32 30 b, c, d]
    | s => s
  ((List.range 80).foldl step s).zipWith (fun x y => low 32 (x + y)) s

/-- The digest SHA-1. -/
def sha1 (t : Text) : Text :=
  let s := mixAll sha1Block 4 true 64 (t.length + 2)
    [0x67452301, 0xefcdab89, 0x98badcfe, 0x10325476, 0xc3d2e1f0] (filled 64 true t)
  s.flatMap (bytesOf 4)

/-! ### Eight words -/

/-- The greatest number whose power does not exceed another number, by halving. -/
def rootOf (power : Nat → Nat) (n : Nat) : Nat → Nat → Nat
  | 0, root => root
  | bits + 1, root =>
    let next := root ||| 1 <<< bits
    rootOf power n bits (if power next ≤ n then next else root)

/-- The fractional part of a square root in so many bits. -/
def squareRoot (bits n : Nat) : Nat := low bits (rootOf (fun r => r * r) (n <<< (2 * bits)) (bits + 8) 0)

/-- The fractional part of a cube root in so many bits. -/
def cubeRoot (bits n : Nat) : Nat := low bits (rootOf (fun r => r * r * r) (n <<< (3 * bits)) (bits + 8) 0)

/-- The first 80 primes. -/
def primes : List Nat :=
  (List.range 410).filter fun n => 2 ≤ n && (List.range n).all fun d => d < 2 || n % d ≠ 0

/-- A digest with eight words. -/
structure Family where
  /-- How long words are. -/
  bits : Nat
  /-- How many steps there are. -/
  steps : Nat
  /-- The turns of the first word. -/
  first : Nat × Nat × Nat
  /-- The turns of the fifth word. -/
  fifth : Nat × Nat × Nat
  /-- Two turns and a shift of a word of the block. -/
  early : Nat × Nat × Nat
  /-- Two turns and a shift of another word of the block. -/
  late : Nat × Nat × Nat

namespace Family

/-- The family with short words. -/
def short : Family := ⟨32, 64, (2, 13, 22), (6, 11, 25), (7, 18, 3), (17, 19, 10)⟩

/-- The family with long words. -/
def long : Family := ⟨64, 80, (28, 34, 39), (14, 18, 41), (1, 8, 7), (19, 61, 6)⟩

/-- The constants of the steps. -/
def constants (f : Family) : Array Nat := ((primes.take f.steps).map (cubeRoot f.bits)).toArray

/-- Three turns of a word. -/
def turned (f : Family) (by_ : Nat × Nat × Nat) (w : Nat) : Nat :=
  turnRight f.bits by_.1 w ^^^ turnRight f.bits by_.2.1 w ^^^ turnRight f.bits by_.2.2 w

/-- Two turns and a shift of a word. -/
def shifted (f : Family) (by_ : Nat × Nat × Nat) (w : Nat) : Nat :=
  turnRight f.bits by_.1 w ^^^ turnRight f.bits by_.2.1 w ^^^ (w >>> by_.2.2)

/-- Mix a block into eight words. -/
def mix (f : Family) (constants : Array Nat) (s : List Nat) (m : List Nat) : List Nat :=
  let ws := extended (fun ws i => low f.bits
    (nth ws (i - 16) + f.shifted f.early (nth ws (i - 15)) + nth ws (i - 7) + f.shifted f.late (nth ws (i - 2))))
    f.steps m
  let step (s : List Nat) (i : Nat) : List Nat := match s with
    | [a, b, c, d, e, g, h, k] =>
      let choice := (e &&& g) ^^^ (flipped f.bits e &&& h)
      let x := k + f.turned f.fifth e + choice + nth constants i + nth ws i
      let y := f.turned f.first a + ((a &&& b) ^^^ (a &&& c) ^^^ (b &&& c))
      [low f.bits (x + y), a, b, c, low f.bits (d + x), e, g, h]
    | s => s
  ((List.range f.steps).foldl step s).zipWith (fun x y => low f.bits (x + y)) s

/-- A digest of so many bytes, from eight words on. -/
def digest (f : Family) (initial : List Nat) (size : Nat) (t : Text) : Text :=
  let word := f.bits / 8
  let s := mixAll (f.mix f.constants) word true (16 * word) (t.length + 2) initial (filled (16 * word) true t)
  (s.flatMap (bytesOf word)).take size

end Family

/-- The digest SHA-224. -/
def sha224 : Text → Text :=
  Family.short.digest (((primes.drop 8).take 8).map fun p => low 32 (squareRoot 64 p)) 28

/-- The digest SHA-256. -/
def sha256 : Text → Text := Family.short.digest ((primes.take 8).map (squareRoot 32)) 32

/-- The digest SHA-384. -/
def sha384 : Text → Text := Family.long.digest (((primes.drop 8).take 8).map (squareRoot 64)) 48

/-- The digest SHA-512. -/
def sha512 : Text → Text := Family.long.digest ((primes.take 8).map (squareRoot 64)) 64

/-! ### Eight words of another kind -/

/-- The words that a digest starts from. -/
def sm3Initial : List Nat :=
  [0x7380166f, 0x4914b2b9, 0x172442d7, 0xda8a0600, 0xa96f30bc, 0x163138aa, 0xe38dee4d, 0xb0fb0e4e]

/-- Mix a block into eight words, which are not added to. -/
def sm3Block (s : List Nat) (m : List Nat) : List Nat :=
  let spread (x : Nat) : Nat := x ^^^ turnLeft 32 15 x ^^^ turnLeft 32 23 x
  let mixed (x : Nat) : Nat := x ^^^ turnLeft 32 9 x ^^^ turnLeft 32 17 x
  let ws := extended (fun ws i =>
    spread (nth ws (i - 16) ^^^ nth ws (i - 9) ^^^ turnLeft 32 15 (nth ws (i - 3)))
      ^^^ turnLeft 32 7 (nth ws (i - 13)) ^^^ nth ws (i - 6)) 68 m
  let step (s : List Nat) (i : Nat) : List Nat := match s with
    | [a, b, c, d, e, f, g, h] =>
      let constant := if i < 16 then 0x79cc4519 else 0x7a879d8a
      let x := turnLeft 32 7 (low 32 (turnLeft 32 12 a + e + turnLeft 32 (i % 32) constant))
      let y := x ^^^ turnLeft 32 12 a
      let (first, second) := if i < 16 then (a ^^^ b ^^^ c, e ^^^ f ^^^ g)
        else ((a &&& b) ||| (a &&& c) ||| (b &&& c), (e &&& f) ||| (flipped 32 e &&& g))
      let u := low 32 (first + d + y + (nth ws i ^^^ nth ws (i + 4)))
      let v := low 32 (second + h + x + nth ws i)
      [u, a, turnLeft 32 9 b, c, mixed v, e, turnLeft 32 19 f, g]
    | s => s
  ((List.range 64).foldl step s).zipWith (fun x y => x ^^^ y) s

/-- The digest SM3. -/
def sm3 (t : Text) : Text :=
  (mixAll sm3Block 4 true 64 (t.length + 2) sm3Initial (filled 64 true t)).flatMap (bytesOf 4)

/-! ### Remainders -/

/-- The remainder after one more byte. -/
def remainderStep (n : Nat) (byte : Nat) : Nat :=
  (List.range 8).foldl (fun n _ =>
    let next := low 32 (n <<< 1)
    if n >>> 31 = 1 then next ^^^ 0x04c11db7 else next) (n ^^^ byte <<< 24)

/-- The bytes of a length, the low ones first. -/
def lengthBytes : Nat → Nat → List Nat
  | 0, _ => []
  | fuel + 1, n => if n = 0 then [] else n % 256 :: lengthBytes fuel (n / 256)

/-- The checksum CRC-32 of bytes and their length. -/
def crc (t : Text) : Nat :=
  flipped 32 ((t.map Char.toNat ++ lengthBytes 9 t.length).foldl remainderStep 0)

/-- The remainder after one more byte where the lowest bit counts most. -/
def mirroredStep (n : Nat) (byte : Nat) : Nat :=
  (List.range 8).foldl (fun n _ => if n &&& 1 = 1 then (n >>> 1) ^^^ 0xedb88320 else n >>> 1) (n ^^^ byte)

/-- The checksum CRC-32 of bytes where the lowest bit counts most. -/
def mirroredCrc (t : Text) : Nat := flipped 32 (t.foldl (fun n c => mirroredStep n c.toNat) 0xffffffff)

/-! ### Sums -/

/-- The sum of bytes that is turned to the right before each of them. -/
def turnedSum (t : Text) : Nat :=
  t.foldl (fun n c => low 16 ((n >>> 1) + ((n &&& 1) <<< 15) + c.toNat)) 0

/-- The sum of bytes whose high part is added to its low part, twice. -/
def foldedSum (t : Text) : Nat :=
  let sum := low 32 ((t.map Char.toNat).foldl (· + ·) 0)
  let once := low 16 sum + (sum >>> 16)
  low 16 once + (once >>> 16)

end Rollout.Digest

/-! ### BLAKE2b -/

namespace Rollout.Blake2

/-- The words that a hash starts from. -/
def initial : Vector UInt64 8 :=
  #v[0x6A09E667F3BCC908, 0xBB67AE8584CAA73B, 0x3C6EF372FE94F82B, 0xA54FF53A5F1D36F1,
    0x510E527FADE682D1, 0x9B05688C2B3E6C1F, 0x1F83D9ABFB41BD6B, 0x5BE0CD19137E2179]

/-- The orders in which the words of a block are used, one for each round. -/
def orders : List (Vector (Fin 16) 16) :=
  [#v[0, 1, 2, 3, 4, 5, 6, 7, 8, 9, 10, 11, 12, 13, 14, 15],
    #v[14, 10, 4, 8, 9, 15, 13, 6, 1, 12, 0, 2, 11, 7, 5, 3],
    #v[11, 8, 12, 0, 5, 2, 15, 13, 10, 14, 3, 6, 7, 1, 9, 4],
    #v[7, 9, 3, 1, 13, 12, 11, 14, 2, 6, 5, 10, 4, 0, 15, 8],
    #v[9, 0, 5, 7, 2, 4, 10, 15, 14, 1, 11, 12, 6, 8, 3, 13],
    #v[2, 12, 6, 10, 0, 11, 8, 3, 4, 13, 7, 5, 15, 14, 1, 9],
    #v[12, 5, 1, 15, 14, 13, 4, 10, 0, 7, 6, 3, 9, 2, 8, 11],
    #v[13, 11, 7, 14, 12, 1, 3, 9, 5, 0, 15, 4, 8, 6, 2, 10],
    #v[6, 15, 14, 9, 11, 3, 0, 8, 12, 2, 13, 7, 1, 4, 10, 5],
    #v[10, 2, 8, 4, 7, 6, 1, 5, 15, 11, 9, 14, 3, 12, 13, 0],
    #v[0, 1, 2, 3, 4, 5, 6, 7, 8, 9, 10, 11, 12, 13, 14, 15],
    #v[14, 10, 4, 8, 9, 15, 13, 6, 1, 12, 0, 2, 11, 7, 5, 3]]

/-- Turn a word to the right. -/
def rotate (w n : UInt64) : UInt64 := (w >>> n) ||| (w <<< (64 - n))

/-- Mix two words of a block into four words of the state. -/
def mix (v : Vector UInt64 16) (a b c d : Fin 16) (x y : UInt64) : Vector UInt64 16 :=
  let va := v.get a + v.get b + x
  let vd := rotate (v.get d ^^^ va) 32
  let vc := v.get c + vd
  let vb := rotate (v.get b ^^^ vc) 24
  let va := va + vb + y
  let vd := rotate (vd ^^^ va) 16
  let vc := vc + vd
  let vb := rotate (vb ^^^ vc) 63
  (((v.setIfInBounds a va).setIfInBounds b vb).setIfInBounds c vc).setIfInBounds d vd

/-- Mix a block into the columns and then into the diagonals of the state, its words in an order. -/
def round (m : Vector UInt64 16) (v : Vector UInt64 16) (order : Vector (Fin 16) 16) : Vector UInt64 16 :=
  let v := mix v 0 4 8 12 (m.get (order.get 0)) (m.get (order.get 1))
  let v := mix v 1 5 9 13 (m.get (order.get 2)) (m.get (order.get 3))
  let v := mix v 2 6 10 14 (m.get (order.get 4)) (m.get (order.get 5))
  let v := mix v 3 7 11 15 (m.get (order.get 6)) (m.get (order.get 7))
  let v := mix v 0 5 10 15 (m.get (order.get 8)) (m.get (order.get 9))
  let v := mix v 1 6 11 12 (m.get (order.get 10)) (m.get (order.get 11))
  let v := mix v 2 7 8 13 (m.get (order.get 12)) (m.get (order.get 13))
  mix v 3 4 9 14 (m.get (order.get 14)) (m.get (order.get 15))

/-- The words after a block, so many bytes having been used; the last block is marked. -/
def compress (h : Vector UInt64 8) (block : List Nat) (used : Nat) (isLast : Bool) : Vector UInt64 8 :=
  let m : Vector UInt64 16 := Vector.ofFn fun i => UInt64.ofNat ((block[i.val]?).getD 0)
  let start : Vector UInt64 16 := h ++ initial
  let start := start.setIfInBounds 12 (start.get 12 ^^^ UInt64.ofNat used)
  let start := if isLast then start.setIfInBounds 14 (start.get 14 ^^^ 0xFFFFFFFFFFFFFFFF) else start
  let v := orders.foldl (round m) start
  Vector.ofFn fun i => h.get i ^^^ v.get (i.castAdd 8) ^^^ v.get (i.natAdd 8)

/-- The words after all blocks. -/
def compressAll : Nat → Vector UInt64 8 → Nat → Text → Vector UInt64 8
  | 0, h, _, _ => h
  | fuel + 1, h, used, t =>
    let part := t.take 128
    let rest := t.drop 128
    let block := Digest.wordsOf 8 false 16 (part ++ List.replicate (128 - part.length) '\x00')
    let h := compress h block (used + part.length) rest.isEmpty
    if rest.isEmpty then h else compressAll fuel h (used + part.length) rest

/-- The hash of bytes, so many bits long. -/
def digest (bits : Nat) (t : Text) : Text :=
  let size := bits / 8
  let start := initial.setIfInBounds 0 (initial.get 0 ^^^ 0x01010000 ^^^ UInt64.ofNat size)
  let h := compressAll (t.length / 128 + 1) start 0 t
  (h.toList.flatMap fun w => (Digest.bytesOf 8 w.toNat).reverse).take size

end Rollout.Blake2
