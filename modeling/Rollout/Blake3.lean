import Rollout.Text.Utf8

/-!
The hash function BLAKE3 with its output of 32 bytes. The input is cut into chunks of 1024 bytes; the
chunks are the leaves of a binary tree whose left subtrees are full, and each node is compressed to eight
words.
-/

namespace Rollout.Blake3

/-- The words that a hash starts from. -/
def initial : Vector UInt32 8 :=
  #v[0x6A09E667, 0xBB67AE85, 0x3C6EF372, 0xA54FF53A, 0x510E527F, 0x9B05688C, 0x1F83D9AB, 0x5BE0CD19]

/-! ### What a block is in its tree -/

/-- The first block of a chunk. -/
def chunkStart : UInt32 := 1

/-- The last block of a chunk. -/
def chunkEnd : UInt32 := 2

/-- A node above two others. -/
def parent : UInt32 := 4

/-- The root of the tree. -/
def root : UInt32 := 8

/-! ### Compression -/

/-- Turn a word to the right. -/
def rotate (w : UInt32) (n : UInt32) : UInt32 := (w >>> n) ||| (w <<< (32 - n))

/-- Mix two words of the message into four words of the state. -/
def mix (v : Vector UInt32 16) (a b c d : Nat) (x y : UInt32) : Vector UInt32 16 :=
  let va := v[a]! + v[b]! + x
  let vd := rotate (v[d]! ^^^ va) 16
  let vc := v[c]! + vd
  let vb := rotate (v[b]! ^^^ vc) 12
  let va := va + vb + y
  let vd := rotate (vd ^^^ va) 8
  let vc := vc + vd
  let vb := rotate (vb ^^^ vc) 7
  (((v.setIfInBounds a va).setIfInBounds b vb).setIfInBounds c vc).setIfInBounds d vd

/-- Mix the message into the columns and then into the diagonals of the state. -/
def round (v m : Vector UInt32 16) : Vector UInt32 16 :=
  let v := mix v 0 4 8 12 m[0] m[1]
  let v := mix v 1 5 9 13 m[2] m[3]
  let v := mix v 2 6 10 14 m[4] m[5]
  let v := mix v 3 7 11 15 m[6] m[7]
  let v := mix v 0 5 10 15 m[8] m[9]
  let v := mix v 1 6 11 12 m[10] m[11]
  let v := mix v 2 7 8 13 m[12] m[13]
  mix v 3 4 9 14 m[14] m[15]

/-- The words of the message in the order of the next round. -/
def permute (m : Vector UInt32 16) : Vector UInt32 16 :=
  #v[m[2], m[6], m[3], m[10], m[7], m[0], m[4], m[13], m[1], m[11], m[12], m[5], m[9], m[14], m[15], m[8]]

/-- So many rounds, with the message permuted between them. -/
def rounds : Nat → Vector UInt32 16 → Vector UInt32 16 → Vector UInt32 16
  | 0, v, _ => v
  | n + 1, v, m => rounds n (round v m) (permute m)

/-- What is compressed at once: the value of what came before, a block of words, the number of the chunk,
the number of bytes in the block, and what the block is in the tree. -/
structure Node where
  /-- The value of what came before. -/
  chaining : Vector UInt32 8
  /-- The words of the block. -/
  block : Vector UInt32 16
  /-- The number of the chunk. -/
  counter : Nat
  /-- The number of bytes in the block. -/
  length : Nat
  /-- What the block is in the tree. -/
  flags : UInt32

/-- The eight words that a node is compressed to. -/
def Node.compress (n : Node) : Vector UInt32 8 :=
  let h := n.chaining
  let v : Vector UInt32 16 :=
    #v[h[0], h[1], h[2], h[3], h[4], h[5], h[6], h[7], initial[0], initial[1], initial[2], initial[3],
      UInt32.ofNat n.counter, UInt32.ofNat (n.counter / 4294967296), UInt32.ofNat n.length, n.flags]
  let v := rounds 7 v n.block
  .ofFn fun i => v[i.val] ^^^ v[i.val + 8]

/-! ### Blocks and chunks -/

/-- Four bytes as a word, the lowest first; bytes that are missing are zero. -/
def word (bs : Bytes) : UInt32 :=
  bs.take 4 |>.foldr (fun b w => w <<< 8 ||| b.toUInt32) 0

/-- The sixteen words of a block. -/
def blockWords (bs : Bytes) : Vector UInt32 16 :=
  let a := bs.toArray
  .ofFn fun i => word ((List.range 4).map fun k => a.getD (4 * i.val + k) 0)

/-- The last node of a chunk, from the block on that follows after `chaining`. -/
def chunkNode (counter : Nat) (start : UInt32) (chaining : Vector UInt32 8) (bs : Bytes) : Node :=
  if bs.length ≤ 64 then
    ⟨chaining, blockWords bs, counter, bs.length, start ||| chunkEnd⟩
  else
    chunkNode counter 0 (Node.compress ⟨chaining, blockWords (bs.take 64), counter, 64, start⟩) (bs.drop 64)
  termination_by bs.length
  decreasing_by simp only [List.length_drop]; omega

/-! ### The tree -/

/-- The number of bytes in the left subtree: a power of two of chunks, and less than the input. -/
def leftLength (length : Nat) : Nat := 1024 <<< Nat.log2 ((length - 1) / 1024)

theorem leftLength_pos (length : Nat) : 0 < leftLength length := by
  rw [leftLength, Nat.shiftLeft_eq]
  have := Nat.two_pow_pos (Nat.log2 ((length - 1) / 1024))
  omega

theorem leftLength_lt {length : Nat} (h : 1024 < length) : leftLength length < length := by
  have hn : (length - 1) / 1024 ≠ 0 := by omega
  have := Nat.log2_self_le hn
  rw [leftLength, Nat.shiftLeft_eq]
  omega

/-- The node above two others. -/
def parentNode (left right : Vector UInt32 8) : Node :=
  ⟨initial, (left ++ right : Vector UInt32 (8 + 8)), 0, 64, parent⟩

/-- The topmost node of a stretch of the input that starts with the chunk of that number. -/
def tree (counter : Nat) (bs : Bytes) : Node :=
  if bs.length ≤ 1024 then chunkNode counter chunkStart initial bs
  else
    parentNode (tree counter (bs.take (leftLength bs.length))).compress
      (tree (counter + leftLength bs.length / 1024) (bs.drop (leftLength bs.length))).compress
  termination_by bs.length
  decreasing_by
    · have := leftLength_lt (show 1024 < bs.length by omega)
      simp only [List.length_take]
      omega
    · have := leftLength_pos bs.length
      simp only [List.length_drop]
      omega

/-- The four bytes of a word, the lowest first. -/
def wordBytes (w : UInt32) : Bytes :=
  [w.toUInt8, (w >>> 8).toUInt8, (w >>> 16).toUInt8, (w >>> 24).toUInt8]

/-- The hash of the input, of 32 bytes. -/
def hash (bs : Bytes) : Bytes :=
  let top := tree 0 bs
  (Node.compress { top with flags := top.flags ||| root }).toList.flatMap wordBytes

end Rollout.Blake3
