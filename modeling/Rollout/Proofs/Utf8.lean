import Mathlib.Data.List.Basic
import Rollout.Text.Utf8

/-!
Laws of text in UTF-8. The encoded form determines the text (`encode_inj`) and keeps the order
(`encode_lt_encode`), and a byte below 128 stands in it only for the character of its number. Bytes
are read strictly just if they are the form of a text (`decode?_eq_some_iff`).
-/

namespace Rollout.Utf8

/-! ### The encoded form -/

theorem encode_cons (c : Char) (t : Text) :
    encode (c :: t) = String.utf8EncodeChar c ++ encode t :=
  List.flatMap_cons ..

theorem encode_inj {t u : Text} (h : encode t = encode u) : t = u := by
  have hbytes : (String.ofList t).toByteArray = (String.ofList u).toByteArray := by
    rw [String.toByteArray_ofList, String.toByteArray_ofList]
    exact congrArg List.toByteArray h
  exact String.ofList_injective (String.toByteArray_inj.mp hbytes)

/-- A byte below 128 is the whole form of the character of its number. -/
theorem toNat_eq_of_mem_encodeChar {b : UInt8} {c : Char} (hb : b.toNat < 128)
    (h : b ∈ String.utf8EncodeChar c) : c.toNat = b.toNat := by
  have hlong : ∀ n k, n + k < 256 → 128 ≤ k → b ≠ UInt8.ofNat (n + k) := by
    rintro n k hlt hk rfl
    rw [UInt8.toNat_ofNat', Nat.mod_eq_of_lt hlt] at hb
    omega
  rw [String.utf8EncodeChar] at h
  split_ifs at h <;> simp only [List.mem_cons, List.not_mem_nil, or_false] at h
  · rw [h, UInt8.toNat_ofNat', Nat.mod_eq_of_lt (by omega)]
    rfl
  · rcases h with h | h <;> exact absurd h (hlong _ _ (by omega) (by omega))
  · rcases h with h | h | h <;> exact absurd h (hlong _ _ (by omega) (by omega))
  · rcases h with h | h | h | h <;> exact absurd h (hlong _ _ (by omega) (by omega))

theorem exists_mem_of_mem_encode {b : UInt8} {t : Text} (hb : b.toNat < 128) (h : b ∈ encode t) :
    ∃ c ∈ t, c.toNat = b.toNat := by
  obtain ⟨c, hc, hm⟩ := List.mem_flatMap.mp h
  exact ⟨c, hc, toNat_eq_of_mem_encodeChar hb hm⟩

/-! ### The order of encoded forms -/

/-- Bytes that are followed by others are compared by their numbers first. -/
theorem ofNat_cons_lt_iff {m n : Nat} (hm : m < 256) (hn : n < 256) {bs cs : Bytes} :
    UInt8.ofNat m :: bs < UInt8.ofNat n :: cs ↔ m < n ∨ m = n ∧ bs < cs := by
  rw [List.cons_lt_cons_iff, UInt8.lt_iff_toNat_lt, ← UInt8.toNat_inj, UInt8.toNat_ofNat',
    UInt8.toNat_ofNat', Nat.mod_eq_of_lt hm, Nat.mod_eq_of_lt hn]

/-- The form of a later character is greater at one of its bytes, whatever follows the forms. -/
theorem encodeChar_append_lt {c d : Char} (h : c < d) (bs cs : Bytes) :
    String.utf8EncodeChar c ++ bs < String.utf8EncodeChar d ++ cs := by
  have hlt : c.val.toNat < d.val.toNat := h
  have hd : d.val.toNat < 1114112 := by
    rcases d.valid with h | h <;> omega
  generalize hm : c.val.toNat = m at hlt
  generalize hn : d.val.toNat = n at hlt hd
  simp only [String.utf8EncodeChar, hm, hn]
  -- the bytes of a form are its digits to the base 64
  have hdigits : ∀ v < 1114112, v / 64 / 64 = v / 4096 ∧ v / 4096 / 64 = v / 262144 ∧
      v / 262144 % 8 = v / 262144 := fun v hv =>
    ⟨Nat.div_div_eq_div_mul .., Nat.div_div_eq_div_mul .., Nat.mod_eq_of_lt (by omega)⟩
  have hdm := hdigits m (Nat.lt_trans hlt hd)
  have hdn := hdigits n hd
  split_ifs <;> simp (disch := omega) only [List.cons_append, List.nil_append, ofNat_cons_lt_iff]
  all_goals omega

/-- Texts are ordered as their bytes are. -/
theorem encode_lt_encode : ∀ {t u : Text}, t < u → encode t < encode u
  | t, [], h => absurd h (List.not_lt_nil t)
  | [], d :: ds, _ => by
    cases he : encode (d :: ds) with
    | nil => cases encode_inj (t := d :: ds) (u := []) he
    | cons b bs => exact List.nil_lt_cons b bs
  | c :: cs, d :: ds, h => by
    rcases List.cons_lt_cons_iff.mp h with hcd | ⟨rfl, hlt⟩
    · exact encodeChar_append_lt hcd (encode cs) (encode ds)
    · exact List.append_left_lt (encode_lt_encode hlt)

/-! ### Reading -/

theorem val_ofNat {n : Nat} (h : n.isValidChar) : (Char.ofNat n).val.toNat = n := by
  unfold Char.ofNat
  rw [dif_pos h]
  rfl

/-- A follower adds six bits to those that were read. -/
theorem follow_succ_ofNat {m : Nat} {lo hi : UInt8} (hm : m < 64) (hlo : lo.toNat ≤ m + 128)
    (hhi : m + 128 ≤ hi.toNat) (n bits : Nat) (bs : Bytes) :
    follow (n + 1) lo hi bits (UInt8.ofNat (m + 128) :: bs) =
      follow n 0x80 0xBF (64 * bits + m) bs := by
  have hb : (UInt8.ofNat (m + 128)).toNat = m + 128 := by
    rw [UInt8.toNat_ofNat', Nat.mod_eq_of_lt (by omega)]
  have hmod : (m + 128) % 64 = m := by omega
  rw [follow, if_pos (by simpa only [UInt8.le_iff_toNat_le, hb] using ⟨hlo, hhi⟩), hb, hmod]

theorem lead_ofNat {n : Nat} (h : n < 256) : lead (UInt8.ofNat n) =
    if n < 0x80 then some (n, 0, 0x80, 0xBF)
    else if n < 0xC2 then none
    else if n < 0xE0 then some (n - 0xC0, 1, 0x80, 0xBF)
    else if n = 0xE0 then some (0, 2, 0xA0, 0xBF)
    else if n = 0xED then some (0xD, 2, 0x80, 0x9F)
    else if n < 0xF0 then some (n - 0xE0, 2, 0x80, 0xBF)
    else if n = 0xF0 then some (0, 3, 0x90, 0xBF)
    else if n < 0xF4 then some (n - 0xF0, 3, 0x80, 0xBF)
    else if n = 0xF4 then some (4, 3, 0x80, 0x8F)
    else none := by
  have hn : (UInt8.ofNat n).toNat = n := by rw [UInt8.toNat_ofNat', Nat.mod_eq_of_lt h]
  simp only [lead, UInt8.lt_iff_toNat_lt, ← UInt8.toNat_inj, hn]
  rfl

theorem scalars_cons_of_lead {a : UInt8} {bits n : Nat} {lo hi : UInt8}
    (h : lead a = some (bits, n, lo, hi)) (bs : Bytes) :
    scalars (a :: bs) = (follow n lo hi bits bs).1 :: scalars (follow n lo hi bits bs).2 := by
  rw [scalars, h]

/-- What leads the form of a character of two, three or four bytes, and that the next byte fits. -/
theorem lead_two {v : Nat} (h : 0x80 ≤ v) (h' : v < 0x800) :
    lead (UInt8.ofNat (v / 64 % 32 + 192)) = some (v / 64, 1, 0x80, 0xBF) := by
  have hbits : v / 64 % 32 + 192 - 0xC0 = v / 64 := by omega
  rw [lead_ofNat (by omega), if_neg (by omega), if_neg (by omega), if_pos (by omega), hbits]

theorem lead_three {v : Nat} (h : 0x800 ≤ v) (h' : v < 0x10000) (hv : v < 0xD800 ∨ 0xDFFF < v) :
    ∃ lo hi, lead (UInt8.ofNat (v / 4096 % 16 + 224)) = some (v / 4096, 2, lo, hi) ∧
      lo.toNat ≤ v / 64 % 64 + 128 ∧ v / 64 % 64 + 128 ≤ hi.toNat := by
  have hbits : v / 4096 % 16 + 224 - 0xE0 = v / 4096 := by omega
  rw [lead_ofNat (by omega), if_neg (by omega), if_neg (by omega), if_neg (by omega), hbits]
  by_cases h0 : v / 4096 = 0
  · exact ⟨0xA0, 0xBF, by simp [h0], by simp; omega, by simp; omega⟩
  by_cases hd : v / 4096 = 13
  · exact ⟨0x80, 0x9F, by simp [hd], by simp, by simp; omega⟩
  · refine ⟨0x80, 0xBF, ?_, by simp, by simp; omega⟩
    rw [if_neg (by omega), if_neg (by omega), if_pos (by omega)]

theorem lead_four {v : Nat} (h : 0x10000 ≤ v) (h' : v < 0x110000) :
    ∃ lo hi, lead (UInt8.ofNat (v / 262144 % 8 + 240)) = some (v / 262144, 3, lo, hi) ∧
      lo.toNat ≤ v / 4096 % 64 + 128 ∧ v / 4096 % 64 + 128 ≤ hi.toNat := by
  have hbits : v / 262144 % 8 + 240 - 0xF0 = v / 262144 := by omega
  rw [lead_ofNat (by omega), if_neg (by omega), if_neg (by omega), if_neg (by omega),
    if_neg (by omega), if_neg (by omega), if_neg (by omega), hbits]
  by_cases h0 : v / 262144 = 0
  · exact ⟨0x90, 0xBF, by simp [h0], by simp; omega, by simp; omega⟩
  by_cases h4 : v / 262144 = 4
  · exact ⟨0x80, 0x8F, by simp [h4], by simp, by simp; omega⟩
  · refine ⟨0x80, 0xBF, ?_, by simp, by simp; omega⟩
    rw [if_neg (by omega), if_pos (by omega)]

/-- The form of a character is read as the character. -/
theorem scalars_encodeChar_append (c : Char) (bs : Bytes) :
    scalars (String.utf8EncodeChar c ++ bs) = some c :: scalars bs := by
  have hc : Char.ofNat c.val.toNat = c := Char.ofNat_toNat c
  have hv : c.val.toNat < 0xD800 ∨ 0xDFFF < c.val.toNat ∧ c.val.toNat < 0x110000 := c.valid
  rw [String.utf8EncodeChar]
  generalize c.val.toNat = v at hc hv
  have hfit : ∀ m < 64, (0x80 : UInt8).toNat ≤ m + 128 ∧ m + 128 ≤ (0xBF : UInt8).toNat :=
    fun m hm => ⟨by simp, by simp; omega⟩
  have hlast := hfit (v % 64) (by omega)
  have hmid := hfit (v / 64 % 64) (by omega)
  split_ifs with h1 h2 h3
  · have hl : lead (UInt8.ofNat v) = some (v, 0, 0x80, 0xBF) := by
      rw [lead_ofNat (by omega), if_pos (by omega)]
    rw [List.singleton_append, scalars_cons_of_lead hl, follow, hc]
  · have hl := lead_two (v := v) (by omega) (by omega)
    have hbits : 64 * (v / 64) + v % 64 = v := by omega
    rw [List.cons_append, scalars_cons_of_lead hl, List.singleton_append,
      follow_succ_ofNat (by omega) hlast.1 hlast.2, follow, hbits, hc]
  · obtain ⟨lo, hi, hl, hlo, hhi⟩ := lead_three (v := v) (by omega) (by omega) (by omega)
    have hbits : 64 * (64 * (v / 4096) + v / 64 % 64) + v % 64 = v := by omega
    rw [List.cons_append, scalars_cons_of_lead hl, List.cons_append, List.singleton_append,
      follow_succ_ofNat (by omega) hlo hhi, follow_succ_ofNat (by omega) hlast.1 hlast.2, follow,
      hbits, hc]
  · obtain ⟨lo, hi, hl, hlo, hhi⟩ := lead_four (v := v) (by omega) (by omega)
    have hbits : 64 * (64 * (64 * (v / 262144) + v / 4096 % 64) + v / 64 % 64) + v % 64 = v := by
      omega
    rw [List.cons_append, scalars_cons_of_lead hl, List.cons_append, List.cons_append,
      List.singleton_append, follow_succ_ofNat (by omega) hlo hhi,
      follow_succ_ofNat (by omega) hmid.1 hmid.2, follow_succ_ofNat (by omega) hlast.1 hlast.2,
      follow, hbits, hc]

/-- A follower that is read adds its six bits. -/
theorem follow_succ_eq_some {n bits : Nat} {lo hi : UInt8} {bs rest : Bytes} {c : Char}
    (hlo : 0x80 ≤ lo.toNat) (hhi : hi.toNat ≤ 0xBF)
    (h : follow (n + 1) lo hi bits bs = (some c, rest)) :
    ∃ m bs', bs = UInt8.ofNat (m + 128) :: bs' ∧ m < 64 ∧ lo.toNat ≤ m + 128 ∧
      m + 128 ≤ hi.toNat ∧ follow n 0x80 0xBF (64 * bits + m) bs' = (some c, rest) := by
  cases bs with
  | nil => cases h
  | cons b bs =>
    rw [follow] at h
    split at h
    · next hb =>
      simp only [UInt8.le_iff_toNat_le] at hb
      have hmod : b.toNat % 64 = b.toNat - 128 := by omega
      have hback : b.toNat - 128 + 128 = b.toNat := by omega
      refine ⟨b.toNat - 128, bs, ?_, by omega, by omega, by omega, hmod ▸ h⟩
      rw [hback, UInt8.ofNat_toNat]
    · cases h

/-- What a leading byte says of itself and of the bytes that follow it. -/
theorem lead_eq_some {a : UInt8} {bits n : Nat} {lo hi : UInt8}
    (h : lead a = some (bits, n, lo, hi)) :
    (0x80 ≤ lo.toNat ∧ hi.toNat ≤ 0xBF) ∧
    (n = 0 ∧ a = UInt8.ofNat bits ∧ bits < 128 ∨
      n = 1 ∧ a = UInt8.ofNat (bits + 192) ∧ 2 ≤ bits ∧ bits < 32 ∨
      n = 2 ∧ a = UInt8.ofNat (bits + 224) ∧ bits < 16 ∧
        (bits = 0 → lo = 0xA0) ∧ (bits = 13 → hi = 0x9F) ∨
      n = 3 ∧ a = UInt8.ofNat (bits + 240) ∧ bits ≤ 4 ∧
        (bits = 0 → lo = 0x90) ∧ (bits = 4 → hi = 0x8F)) := by
  have ha : a = UInt8.ofNat a.toNat := UInt8.ofNat_toNat.symm
  have hlt := a.toNat_lt
  rw [ha, lead_ofNat hlt] at h
  generalize a.toNat = k at ha hlt h
  subst ha
  have hback {m : Nat} (hm : m ≤ k) : UInt8.ofNat k = UInt8.ofNat (k - m + m) := by
    rw [Nat.sub_add_cancel hm]
  split_ifs at h <;> simp only [Option.some.injEq, Prod.mk.injEq] at h <;>
    obtain ⟨rfl, rfl, rfl, rfl⟩ := h <;> refine ⟨by decide, ?_⟩
  · exact .inl ⟨rfl, rfl, by omega⟩
  · exact .inr (.inl ⟨rfl, hback (by omega), by omega, by omega⟩)
  · next hk => exact .inr (.inr (.inl ⟨rfl, by rw [hk], by decide, fun _ => rfl, nofun⟩))
  · next hk => exact .inr (.inr (.inl ⟨rfl, by rw [hk], by decide, nofun, fun _ => rfl⟩))
  · exact .inr (.inr (.inl ⟨rfl, hback (by omega), by omega, by omega, by omega⟩))
  · next hk => exact .inr (.inr (.inr ⟨rfl, by rw [hk], by decide, fun _ => rfl, nofun⟩))
  · exact .inr (.inr (.inr ⟨rfl, hback (by omega), by omega, by omega, by omega⟩))
  · next hk => exact .inr (.inr (.inr ⟨rfl, by rw [hk], by decide, nofun, fun _ => rfl⟩))

theorem encodeChar_one {bits : Nat} (hb : bits < 128) :
    String.utf8EncodeChar (Char.ofNat bits) = [UInt8.ofNat bits] := by
  rw [String.utf8EncodeChar, val_ofNat (.inl (by omega)), if_pos (by omega)]

theorem encodeChar_two {bits m : Nat} (hb : 2 ≤ bits) (hb' : bits < 32) (hm : m < 64) :
    String.utf8EncodeChar (Char.ofNat (64 * bits + m)) =
      [UInt8.ofNat (bits + 192), UInt8.ofNat (m + 128)] := by
  have hd : (64 * bits + m) / 64 % 32 = bits ∧ (64 * bits + m) % 64 = m := by omega
  rw [String.utf8EncodeChar, val_ofNat (.inl (by omega)), if_neg (by omega), if_pos (by omega),
    hd.1, hd.2]

/-- No longer form than needed, and no surrogate. -/
theorem encodeChar_three {bits m k : Nat} (hb : bits < 16) (hm : m < 64) (hk : k < 64)
    (hlow : bits = 0 → 32 ≤ m) (hhigh : bits = 13 → m < 32) :
    String.utf8EncodeChar (Char.ofNat (64 * (64 * bits + m) + k)) =
      [UInt8.ofNat (bits + 224), UInt8.ofNat (m + 128), UInt8.ofNat (k + 128)] := by
  have hvalid : (64 * (64 * bits + m) + k).isValidChar := by
    by_cases hz : bits < 14
    · exact .inl (by omega)
    · exact .inr (by omega)
  have hd : (64 * (64 * bits + m) + k) / 4096 % 16 = bits ∧
      (64 * (64 * bits + m) + k) / 64 % 64 = m ∧ (64 * (64 * bits + m) + k) % 64 = k := by omega
  rw [String.utf8EncodeChar, val_ofNat hvalid, if_neg (by omega), if_neg (by omega),
    if_pos (by omega), hd.1, hd.2.1, hd.2.2]

/-- No longer form than needed, and none beyond the last character. -/
theorem encodeChar_four {bits m k l : Nat} (hb : bits ≤ 4) (hm : m < 64) (hk : k < 64)
    (hl : l < 64) (hlow : bits = 0 → 16 ≤ m) (hhigh : bits = 4 → m < 16) :
    String.utf8EncodeChar (Char.ofNat (64 * (64 * (64 * bits + m) + k) + l)) =
      [UInt8.ofNat (bits + 240), UInt8.ofNat (m + 128), UInt8.ofNat (k + 128),
        UInt8.ofNat (l + 128)] := by
  have hd : (64 * (64 * (64 * bits + m) + k) + l) / 262144 % 8 = bits ∧
      (64 * (64 * (64 * bits + m) + k) + l) / 4096 % 64 = m ∧
      (64 * (64 * (64 * bits + m) + k) + l) / 64 % 64 = k ∧
      (64 * (64 * (64 * bits + m) + k) + l) % 64 = l := by omega
  rw [String.utf8EncodeChar, val_ofNat (.inr (by omega)), if_neg (by omega), if_neg (by omega),
    if_neg (by omega), hd.1, hd.2.1, hd.2.2.1, hd.2.2.2]

/-- What is read as a character is its form. -/
theorem eq_encodeChar_append {a : UInt8} {bits n : Nat} {lo hi : UInt8} {bs rest : Bytes} {c : Char}
    (h : lead a = some (bits, n, lo, hi)) (hf : follow n lo hi bits bs = (some c, rest)) :
    a :: bs = String.utf8EncodeChar c ++ rest := by
  obtain ⟨⟨hlo, hhi⟩, ⟨rfl, rfl, hb⟩ | ⟨rfl, rfl, hb, hb'⟩ | ⟨rfl, rfl, hb, h0, h13⟩ |
    ⟨rfl, rfl, hb, h0, h4⟩⟩ := lead_eq_some h
  · cases hf
    rw [encodeChar_one hb]
    rfl
  · obtain ⟨m, bs, rfl, hm, -, -, hf⟩ := follow_succ_eq_some hlo hhi hf
    cases hf
    rw [encodeChar_two hb hb' hm]
    rfl
  · obtain ⟨m, bs, rfl, hm, hlm, hmh, hf⟩ := follow_succ_eq_some hlo hhi hf
    obtain ⟨k, bs, rfl, hk, -, -, hf⟩ := follow_succ_eq_some (by decide) (by decide) hf
    cases hf
    have hlow (hz : bits = 0) : 32 ≤ m := by rw [h0 hz] at hlm; simp at hlm; omega
    have hhigh (hz : bits = 13) : m < 32 := by rw [h13 hz] at hmh; simp at hmh; omega
    rw [encodeChar_three hb hm hk hlow hhigh]
    rfl
  · obtain ⟨m, bs, rfl, hm, hlm, hmh, hf⟩ := follow_succ_eq_some hlo hhi hf
    obtain ⟨k, bs, rfl, hk, -, -, hf⟩ := follow_succ_eq_some (by decide) (by decide) hf
    obtain ⟨l, bs, rfl, hl, -, -, hf⟩ := follow_succ_eq_some (by decide) (by decide) hf
    cases hf
    have hlow (hz : bits = 0) : 16 ≤ m := by rw [h0 hz] at hlm; simp at hlm; omega
    have hhigh (hz : bits = 4) : m < 16 := by rw [h4 hz] at hmh; simp at hmh; omega
    rw [encodeChar_four hb hm hk hl hlow hhigh]
    rfl

/-- Bytes are read as a text just if they are the form of the text. -/
theorem decode?_eq_some_iff {bs : Bytes} {t : Text} : decode? bs = some t ↔ bs = encode t := by
  constructor
  · intro h
    rw [decode?] at h
    fun_induction scalars bs generalizing t with
    | case1 =>
      cases h
      rfl
    | case2 a bs hl ih => simp at h
    | case3 a bs bits n lo hi hl ih =>
      cases hf : follow n lo hi bits bs with
      | mk c? rest =>
        rw [hf] at h ih
        cases c? with
        | none => simp at h
        | some c =>
          rw [List.mapM_cons] at h
          obtain ⟨t', ht, rfl⟩ : ∃ t', (scalars rest).mapM id = some t' ∧ c :: t' = t := by
            simpa [Option.bind_eq_some_iff] using h
          have hrest : rest = encode t' := ih ht
          rw [eq_encodeChar_append hl hf, hrest, encode_cons]
  · rintro rfl
    rw [decode?]
    induction t with
    | nil =>
      rw [encode, List.flatMap_nil, scalars]
      rfl
    | cons c t ih =>
      rw [encode_cons, scalars_encodeChar_append, List.mapM_cons, ih]
      rfl

end Rollout.Utf8
