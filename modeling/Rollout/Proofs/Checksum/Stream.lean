import Rollout.Proofs.Checksum.Visible
import Rollout.Proofs.Text
import Rollout.Proofs.Utf8

/-!
The bytes that are hashed for a checksum. Each contribution can be read back from the start of the
stream: no path holds a NUL and no hash in hexadecimal a newline, whatever else they hold. So the
stream determines the paths and the hashes of the contents (`stream_inj`).
-/

namespace Rollout

namespace FileTree

/-! ### Paths in the stream -/

variable {p q : List Text}

theorem Named.join_inj (hp : Named p) (hq : Named q)
    (h : Text.join ['/'] p = Text.join ['/'] q) : p = q :=
  Text.join_inj hp.1 hq.1 (fun n hn => (isName_iff.mp (hp.2 n hn)).2.1)
    (fun n hn => (isName_iff.mp (hq.2 n hn)).2.1) h

theorem Named.nul_notMem (hp : Named p) : (0 : UInt8) ∉ Utf8.encode (Text.join ['/'] p) := by
  intro h
  obtain ⟨c, hc, hnul⟩ := Utf8.exists_mem_of_mem_encode (by decide) h
  obtain rfl : c = '\u0000' := Char.toNat_inj.mp hnul
  rcases Text.mem_join hc with hsep | ⟨name, hname, hmem⟩
  · exact absurd hsep (by decide)
  · exact (isName_iff.mp (hp.2 name hname)).2.2 hmem

end FileTree

open FileTree

namespace Checksum

/-- The contributions of the visible files, one after another. -/
def stream (hash : Hash) (entries : List (Text × FileTree)) : Bytes :=
  (visibleFiles entries).flatMap (contribution hash)

theorem ofEntries_eq (hash : Hash) (es : List (Text × FileTree)) :
    ofEntries hash es = hexText (hash (stream hash es)) := rfl

/-! ### Hexadecimal -/

theorem digitChar_inj {m n : Nat} (hm : m < 16) (hn : n < 16) (h : m.digitChar = n.digitChar) :
    m = n := by
  have hall : ∀ i j : Fin 16, i.val.digitChar = j.val.digitChar → i = j := by decide
  exact Fin.mk.inj_iff.mp (hall ⟨m, hm⟩ ⟨n, hn⟩ h)

theorem digitChar_ne_newline {n : Nat} (hn : n < 16) : n.digitChar ≠ '\n' := by
  have hall : ∀ i : Fin 16, i.val.digitChar ≠ '\n' := by decide
  exact hall ⟨n, hn⟩

theorem hexText_cons (b : UInt8) (bs : Bytes) : hexText (b :: bs) =
    (b.toNat / 16).digitChar :: (b.toNat % 16).digitChar :: hexText bs := rfl

theorem hexText_inj : ∀ {bs cs : Bytes}, hexText bs = hexText cs → bs = cs
  | [], [], _ => rfl
  | [], c :: cs, h => by simp [hexText] at h
  | b :: bs, [], h => by simp [hexText] at h
  | b :: bs, c :: cs, h => by
    rw [hexText_cons, hexText_cons] at h
    obtain ⟨hhigh, h⟩ := List.cons.inj h
    obtain ⟨hlow, h⟩ := List.cons.inj h
    have hb := b.toNat_lt
    have hc := c.toNat_lt
    have hdiv := digitChar_inj (by omega) (by omega) hhigh
    have hmod := digitChar_inj (by omega) (by omega) hlow
    have hbc : b = c := UInt8.toNat_inj.mp (by omega)
    rw [hbc, hexText_inj h]

theorem newline_notMem_hexText : ∀ bs : Bytes, '\n' ∉ hexText bs
  | [] => List.not_mem_nil
  | b :: bs => by
    have hb := b.toNat_lt
    rw [hexText_cons]
    simp only [List.mem_cons, not_or]
    exact ⟨(digitChar_ne_newline (by omega)).symm, (digitChar_ne_newline (by omega)).symm,
      newline_notMem_hexText bs⟩

theorem newline_notMem_encode_hexText (bs : Bytes) : (10 : UInt8) ∉ Utf8.encode (hexText bs) := by
  intro h
  obtain ⟨c, hc, hn⟩ := Utf8.exists_mem_of_mem_encode (by decide) h
  obtain rfl : c = '\n' := Char.toNat_inj.mp hn
  exact newline_notMem_hexText bs hc

/-! ### Reading the stream back -/

/-- What stands before the first of some byte is read back. -/
theorem eq_of_append_cons_eq {b : UInt8} {r s : Bytes} : ∀ {x y : Bytes}, b ∉ x → b ∉ y →
    x ++ b :: r = y ++ b :: s → x = y ∧ r = s
  | [], [], _, _, h => ⟨rfl, (List.cons.inj h).2⟩
  | [], c :: y, _, hy, h => absurd (List.cons.inj h).1 fun hc => hy (hc ▸ List.mem_cons_self ..)
  | c :: x, [], hx, _, h => absurd (List.cons.inj h).1 fun hc => hx (hc ▸ List.mem_cons_self ..)
  | c :: x, d :: y, hx, hy, h => by
    obtain ⟨rfl, htail⟩ := List.cons.inj h
    obtain ⟨rfl, hrest⟩ := eq_of_append_cons_eq (fun hm => hx (List.mem_cons_of_mem c hm))
      (fun hm => hy (List.mem_cons_of_mem c hm)) htail
    exact ⟨rfl, hrest⟩

variable {hash : Hash}

/-- The first contribution and the rest of the stream are read back. -/
theorem contribution_append_inj {f g : List Text × Bytes} {r s : Bytes} (hf : Named f.1)
    (hg : Named g.1) (h : contribution hash f ++ r = contribution hash g ++ s) :
    f.1 = g.1 ∧ hash f.2 = hash g.2 ∧ r = s := by
  simp only [contribution, List.append_assoc, List.singleton_append] at h
  -- The path ends at the first NUL, whatever newlines are in it, and the hash at the newline after.
  obtain ⟨hpath, h⟩ := eq_of_append_cons_eq hf.nul_notMem hg.nul_notMem h
  obtain ⟨hhex, h⟩ := eq_of_append_cons_eq (newline_notMem_encode_hexText _)
    (newline_notMem_encode_hexText _) h
  exact ⟨hf.join_inj hg (Utf8.encode_inj hpath), hexText_inj (Utf8.encode_inj hhex), h⟩

theorem contribution_append_ne_nil (f : List Text × Bytes) (r : Bytes) :
    contribution hash f ++ r ≠ [] := by
  simp [contribution]

/-- The stream determines the paths and the hashes of the contents. -/
theorem flatMap_contribution_inj : ∀ {fs gs : List (List Text × Bytes)},
    (∀ f ∈ fs, Named f.1) → (∀ g ∈ gs, Named g.1) →
    fs.flatMap (contribution hash) = gs.flatMap (contribution hash) →
    fs.map (fun f => (f.1, hash f.2)) = gs.map (fun g => (g.1, hash g.2))
  | [], [], _, _, _ => rfl
  | [], g :: gs, _, _, h => absurd h.symm (contribution_append_ne_nil g _)
  | f :: fs, [], _, _, h => absurd h (contribution_append_ne_nil f _)
  | f :: fs, g :: gs, hf, hg, h => by
    obtain ⟨hf, hfs⟩ := List.forall_mem_cons.mp hf
    obtain ⟨hg, hgs⟩ := List.forall_mem_cons.mp hg
    rw [List.flatMap_cons, List.flatMap_cons] at h
    obtain ⟨hpath, hhash, h⟩ := contribution_append_inj hf hg h
    rw [List.map_cons, List.map_cons, hpath, hhash, flatMap_contribution_inj hfs hgs h]

variable {es es' : List (Text × FileTree)}

theorem named_of_mem_visibleFiles (h : wellNamedIn es = true) : ∀ f ∈ visibleFiles es, Named f.1 :=
  fun _ hf => named_of_visible? h ((mem_visibleFiles (.ofMode openMode) h).mp hf)

theorem stream_inj (h : wellNamedIn es = true) (h' : wellNamedIn es' = true)
    (hs : stream hash es = stream hash es') :
    (visibleFiles es).map (fun f => (f.1, hash f.2)) =
      (visibleFiles es').map (fun f => (f.1, hash f.2)) :=
  flatMap_contribution_inj (named_of_mem_visibleFiles h) (named_of_mem_visibleFiles h') hs

end Checksum

end Rollout
