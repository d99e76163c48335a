import Rollout.Text.Basic

/-!
Text as bytes in UTF-8. Reading goes from scalar value to scalar value; where bytes form none, the
longest start of a well-formed sequence, or else one byte, is set aside as malformed. Strict reading
refuses malformed bytes and lossy reading writes U+FFFD for each of them.

Bytes as text: each byte is written as the character of its number. Processes of a system work on bytes and
know no other characters, so the texts they handle are of this form; it is text of any bytes, and a byte is
one character of it.
-/

namespace Rollout

/-- The contents of a file or of a stream. -/
abbrev Bytes := List UInt8

namespace Utf8

/-- The bytes of a text. -/
def encode (t : Text) : Bytes := t.flatMap String.utf8EncodeChar

/-- What a leading byte announces: the bits it carries, the number of bytes that follow it, and the
range of the first of these. -/
def lead (a : UInt8) : Option (Nat × Nat × UInt8 × UInt8) :=
  if a < 0x80 then some (a.toNat, 0, 0x80, 0xBF)
  else if a < 0xC2 then none
  else if a < 0xE0 then some (a.toNat - 0xC0, 1, 0x80, 0xBF)
  else if a = 0xE0 then some (0, 2, 0xA0, 0xBF)
  else if a = 0xED then some (0xD, 2, 0x80, 0x9F)
  else if a < 0xF0 then some (a.toNat - 0xE0, 2, 0x80, 0xBF)
  else if a = 0xF0 then some (0, 3, 0x90, 0xBF)
  else if a < 0xF4 then some (a.toNat - 0xF0, 3, 0x80, 0xBF)
  else if a = 0xF4 then some (4, 3, 0x80, 0x8F)
  else none

/-- Add the bits of `n` following bytes, the first of which lies between `lo` and `hi`; also gives what
is left to read. -/
def follow : Nat → UInt8 → UInt8 → Nat → Bytes → Option Char × Bytes
  | 0, _, _, bits, bs => (some (Char.ofNat bits), bs)
  | _ + 1, _, _, _, [] => (none, [])
  | n + 1, lo, hi, bits, b :: bs =>
    if lo ≤ b ∧ b ≤ hi then follow n 0x80 0xBF (64 * bits + b.toNat % 64) bs else (none, b :: bs)

theorem length_follow_le (n : Nat) (lo hi : UInt8) (bits : Nat) (bs : Bytes) :
    (follow n lo hi bits bs).2.length ≤ bs.length := by
  induction n generalizing lo hi bits bs with
  | zero => simp [follow]
  | succ n ih =>
    cases bs with
    | nil => simp [follow]
    | cons b bs =>
      rw [follow]
      split
      · exact Nat.le_succ_of_le (ih ..)
      · exact Nat.le_refl _

/-- The scalar values of the bytes in order, `none` for a malformed stretch. -/
def scalars : Bytes → List (Option Char)
  | [] => []
  | a :: bs =>
    match lead a with
    | none => none :: scalars bs
    | some (bits, n, lo, hi) =>
      (follow n lo hi bits bs).1 :: scalars (follow n lo hi bits bs).2
  termination_by bs => bs.length
  decreasing_by
    · simp
    · exact Nat.lt_succ_of_le (length_follow_le ..)

/-- The text that the bytes are the form of. -/
def decode? (bs : Bytes) : Option Text := (scalars bs).mapM id

/-- The text of the bytes with U+FFFD for each malformed stretch. -/
def decodeLossy (bs : Bytes) : Text := (scalars bs).map (·.getD '\ufffd')

end Utf8

end Rollout

/-! ### Bytes as text -/

namespace Rollout

namespace Octets

/-- Bytes as text. -/
def ofBytes (bs : Bytes) : Text := bs.map fun b => Char.ofNat b.toNat

/-- The bytes of a text that is made of bytes. -/
def toBytes (t : Text) : Bytes := t.map fun c => UInt8.ofNat c.toNat

/-- The encoded form of a text, byte by byte. -/
def ofText (t : Text) : Text := ofBytes (Utf8.encode t)

/-- The text that bytes encode; what encodes nothing is replaced. -/
def toText (t : Text) : Text := Utf8.decodeLossy (toBytes t)

theorem toBytes_ofBytes (bs : Bytes) : toBytes (ofBytes bs) = bs := by
  induction bs with
  | nil => rfl
  | cons b bs ih =>
    have hb : b.toNat < 256 := b.toNat_lt
    have hv : b.toNat.isValidChar := Or.inl (by omega)
    have hc : (Char.ofNat b.toNat).toNat = b.toNat := by
      unfold Char.ofNat
      rw [dif_pos hv]
      rfl
    simp only [toBytes, ofBytes, List.map_cons, hc, UInt8.ofNat_toNat] at ih ⊢
    rw [ih]

end Octets

end Rollout
