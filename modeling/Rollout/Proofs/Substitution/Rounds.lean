import Mathlib.Logic.Function.Iterate
import Rollout.Proofs.Substitution.Pass

/-!
Rounds of passes. Substitution returns the first text without keys that is reached within nine
passes, and takes the line for cyclic if there is none (`substitute_is_iterated_scan`). A text that
a pass does not change may hold a key all the same, one whose value is the key itself; from there no
number of passes leads on.
-/

namespace Rollout

variable {table vars : Dict Text} {line t r : Text} {s : Scope}

theorem KeyFree.iterate_pass (h : KeyFree table t) (k : Nat) : (pass table)^[k] t = t :=
  Function.iterate_fixed h.pass_eq_self k

/-- Once there are no keys left, no further pass changes the text. -/
theorem KeyFree.iterate_pass_of_le {k m : Nat} (h : KeyFree table r) (hk : (pass table)^[k] t = r)
    (hm : k ≤ m) : (pass table)^[m] t = r := by
  obtain ⟨n, rfl⟩ := Nat.exists_eq_add_of_le hm
  rw [Nat.add_comm, Function.iterate_add_apply, hk, h.iterate_pass]

/-- The rounds that are left end with a text if it is reached by fewer passes and has no keys. -/
theorem settle_eq_ok_iff : ∀ {rounds : Nat} {t : Text},
    settle table line rounds t = .ok r ↔
      ∃ k < rounds, (pass table)^[k] t = r ∧ KeyFree table r
  | 0, t => by simp [settle]
  | rounds + 1, t => by
    rw [settle]
    by_cases hfree : KeyFree table t
    · simp only [hfree.pass_eq_self, hasReference_eq_false_iff.mpr hfree, ↓reduceIte,
        Bool.false_eq_true, Except.ok.injEq]
      refine ⟨fun h => ⟨0, rounds.succ_pos, h, h ▸ hfree⟩, fun ⟨k, _, h, _⟩ => ?_⟩
      rw [← h, hfree.iterate_pass]
    · have hkey : hasReference table t = true :=
        eq_true_of_ne_false (hasReference_eq_false_iff.not.mpr hfree)
      by_cases hsame : pass table t = t
      · -- no pass leads on from here, and the text holds a key
        simp only [hsame, hkey, ↓reduceIte, reduceCtorEq, false_iff, not_exists, not_and]
        rintro k - h
        rw [Function.iterate_fixed hsame k] at h
        exact h ▸ hfree
      · simp only [hsame, ↓reduceIte, settle_eq_ok_iff (t := pass table t)]
        constructor
        · rintro ⟨k, hk, h, hr⟩
          exact ⟨k + 1, Nat.succ_lt_succ hk, h, hr⟩
        · rintro ⟨k, hk, h, hr⟩
          cases k with
          | zero => exact absurd hr (h ▸ hfree)
          | succ k => exact ⟨k, Nat.lt_of_succ_lt_succ hk, h, hr⟩

/-- The rounds fail with the line that they are about. -/
theorem settle_eq_error {e : PossibleCycle} : ∀ {rounds : Nat} {t : Text},
    settle table line rounds t = .error e → e = ⟨line⟩
  | 0, t, h => by
    cases h
    rfl
  | rounds + 1, t, h => by
    rw [settle] at h
    split at h
    · split at h
      · cases h
        rfl
      · cases h
    · exact settle_eq_error h

/-- A line expands to the text without keys that is reached within nine passes. -/
theorem substitute_eq_ok_iff : substitute vars s line = .ok r ↔
    ∃ k ≤ 9, (pass (s.visible vars))^[k] line = r ∧ KeyFree (s.visible vars) r := by
  rw [substitute, settle_eq_ok_iff]
  simp only [maxRounds, Nat.lt_succ_iff]

/-- A line is taken for cyclic if nine passes do not lead to a text without keys. -/
theorem substitute_eq_error_iff {e : PossibleCycle} : substitute vars s line = .error e ↔
    e = ⟨line⟩ ∧ ∀ k ≤ 9, ¬ KeyFree (s.visible vars) ((pass (s.visible vars))^[k] line) := by
  constructor
  · refine fun h => ⟨settle_eq_error h, fun k hk hf => ?_⟩
    rw [substitute_eq_ok_iff.mpr ⟨k, hk, rfl, hf⟩] at h
    cases h
  · rintro ⟨rfl, h⟩
    cases hs : substitute vars s line with
    | ok r =>
      obtain ⟨k, hk, rfl, hf⟩ := substitute_eq_ok_iff.mp hs
      exact absurd hf (h k hk)
    | error e => rw [settle_eq_error hs]

/-- Substitution repeats the scan for the longest keys, at most nine times, until no key is left.
What it returns it leaves alone, and what it does not return is taken for cyclic. -/
theorem substitute_is_iterated_scan (vars : Dict Text) (s : Scope) (line : Text) :
    (∀ t u, ScansTo (s.visible vars) t u ↔ pass (s.visible vars) t = u) ∧
    (∀ r, substitute vars s line = .ok r ↔
      ∃ k ≤ 9, (pass (s.visible vars))^[k] line = r ∧ KeyFree (s.visible vars) r) ∧
    (∀ e, substitute vars s line = .error e ↔
      e = ⟨line⟩ ∧ ∀ k ≤ 9, ¬ KeyFree (s.visible vars) ((pass (s.visible vars))^[k] line)) ∧
    ∀ r, substitute vars s line = .ok r →
      KeyFree (s.visible vars) r ∧ substitute vars s r = .ok r := by
  refine ⟨fun t u => scansTo_iff, fun r => substitute_eq_ok_iff, fun e => substitute_eq_error_iff,
    fun r h => ?_⟩
  obtain ⟨-, -, -, hr⟩ := substitute_eq_ok_iff.mp h
  exact ⟨hr, substitute_eq_ok_iff.mpr ⟨0, Nat.zero_le 9, rfl, hr⟩⟩

end Rollout
