import Rollout.Proofs.Substitution.Rounds
import Rollout.Proofs.Substitution.Tidy

/-!
Convergence of substitution on tidy texts. Names that are referenced one from the other make a
chain, and each pass takes one link off all chains (`exists_chain_iff`). So a line expands if its
chains have fewer than ten links, a line that reaches a cycle does not, and what it expands to is
the line with each reference replaced by the expansion of its value (`substitute_converges_iff`).
-/

namespace Rollout

/-- The first name is referenced in the text, and each further one in the value of the name before
it. -/
def ReferenceChain (W : Char → Bool) (table : Dict Text) : Text → List Text → Prop
  | _, [] => True
  | t, name :: names => name ∈ references W table t ∧
    ∃ value, table.get? name = some value ∧ ReferenceChain W table value names

/-- The text with each reference replaced by the expansion of its value; a word after a dollar sign
that is no visible name is left alone. -/
inductive Expansion (W : Char → Bool) (table : Dict Text) : Text → Text → Prop
  | done : Expansion W table [] []
  | plain {c : Char} {cs r : Text} (hc : c ≠ '$') (hr : Expansion W table cs r) :
    Expansion W table (c :: cs) (c :: r)
  | undefined {cs r : Text} (hn : table.get? (cs.takeWhile W) = none)
    (hr : Expansion W table (cs.dropWhile W) r) :
    Expansion W table ('$' :: cs) ('$' :: (cs.takeWhile W ++ r))
  | reference {cs value expanded r : Text} (hn : table.get? (cs.takeWhile W) = some value)
    (hv : Expansion W table value expanded) (hr : Expansion W table (cs.dropWhile W) r) :
    Expansion W table ('$' :: cs) (expanded ++ r)

/-- The names are words over the alphabet, and the values are tidy. -/
structure TidyTable (W : Char → Bool) (table : Dict Text) : Prop extends Alphabet W table where
  /-- Every value is tidy. -/
  values : ∀ v ∈ table.values, Tidy W table v

instance (W : Char → Bool) (table : Dict Text) : Decidable (TidyTable W table) :=
  decidable_of_iff (Alphabet W table ∧ ∀ v ∈ table.values, Tidy W table v)
    ⟨fun ⟨hW, hv⟩ => ⟨hW, hv⟩, fun h => ⟨h.toAlphabet, h.values⟩⟩

variable {W : Char → Bool} {table vars : Dict Text} {t u v r cs line : Text} {s : Scope}

theorem TidyTable.tidy_iterate (hT : TidyTable W table) (ht : Tidy W table t) :
    ∀ k, Tidy W table ((pass table)^[k] t)
  | 0 => ht
  | k + 1 => by
    rw [Function.iterate_succ_apply']
    have h := hT.tidy_iterate ht k
    exact tidy_pass hT.toAlphabet hT.values h h

/-! ### Chains of references -/

/-- A pass takes the first link off the chains. -/
theorem chain_pass_iff (hT : TidyTable W table) (ht : Tidy W table t) {name : Text}
    {names : List Text} : ReferenceChain W table (pass table t) (name :: names) ↔
      ∃ first, ReferenceChain W table t (first :: name :: names) := by
  simp only [ReferenceChain, references_pass hT.toAlphabet ht, List.mem_flatMap]
  constructor
  · rintro ⟨⟨first, hfirst, hname⟩, hrest⟩
    obtain ⟨w, hw⟩ := Dict.mem_keys_iff.mp (mem_keys_of_mem_references hfirst)
    rw [hw] at hname
    exact ⟨first, hfirst, w, hw, hname, hrest⟩
  · rintro ⟨first, hfirst, w, hw, hname, hrest⟩
    refine ⟨⟨first, hfirst, ?_⟩, hrest⟩
    rw [hw]
    exact hname

/-- After so many passes references are left if and only if there was a chain with one link more. -/
theorem exists_chain_iff (hT : TidyTable W table) : ∀ {k : Nat} {t : Text}, Tidy W table t →
    ((∃ chain, ReferenceChain W table t chain ∧ chain.length = k + 1) ↔
      references W table ((pass table)^[k] t) ≠ [])
  | 0, t, _ => by
    constructor
    · rintro ⟨chain, hc, hl⟩
      obtain ⟨name, rfl⟩ := List.length_eq_one_iff.mp hl
      exact List.ne_nil_of_mem hc.1
    · intro h
      obtain ⟨name, hname⟩ := List.exists_mem_of_ne_nil _ h
      obtain ⟨v, hv⟩ := Dict.mem_keys_iff.mp (mem_keys_of_mem_references hname)
      exact ⟨[name], ⟨hname, v, hv, trivial⟩, rfl⟩
  | k + 1, t, ht => by
    rw [Function.iterate_succ_apply,
      ← exists_chain_iff hT (tidy_pass hT.toAlphabet hT.values ht ht)]
    constructor
    · rintro ⟨chain, hc, hl⟩
      obtain ⟨first, chain, rfl⟩ := List.exists_cons_of_length_eq_add_one hl
      obtain ⟨name, names, rfl⟩ := List.exists_cons_of_length_eq_add_one (Nat.succ_inj.mp hl)
      exact ⟨name :: names, (chain_pass_iff hT ht).mpr ⟨first, hc⟩, Nat.succ_inj.mp hl⟩
    · rintro ⟨chain, hc, hl⟩
      obtain ⟨name, names, rfl⟩ := List.exists_cons_of_length_eq_add_one hl
      obtain ⟨first, hf⟩ := (chain_pass_iff hT ht).mp hc
      exact ⟨first :: name :: names, hf, congrArg (· + 1) hl⟩

/-- A chain may end earlier. -/
theorem ReferenceChain.take : ∀ {t : Text} {chain : List Text} (n : Nat),
    ReferenceChain W table t chain → ReferenceChain W table t (chain.take n)
  | _, [], n, _ => by simp [ReferenceChain]
  | _, _ :: _, 0, _ => trivial
  | _, _ :: _, n + 1, ⟨hname, w, hw, hrest⟩ => ⟨hname, w, hw, hrest.take n⟩

/-- A chain goes on from any of its names as it would from the value of the name. -/
theorem chain_append_iff {name : Text} {after before : List Text} :
    ReferenceChain W table t (before ++ name :: after) ↔
      ReferenceChain W table t (before ++ [name]) ∧
        ∃ value, table.get? name = some value ∧ ReferenceChain W table value after := by
  induction before generalizing t with
  | nil =>
    constructor
    · rintro ⟨hname, w, hw, h⟩
      exact ⟨⟨hname, w, hw, trivial⟩, w, hw, h⟩
    · rintro ⟨⟨hname, -⟩, h⟩
      exact ⟨hname, h⟩
  | cons first before ih =>
    constructor
    · rintro ⟨hname, w, hw, h⟩
      obtain ⟨hbefore, hafter⟩ := ih.mp h
      exact ⟨⟨hname, w, hw, hbefore⟩, hafter⟩
    · rintro ⟨⟨hname, w, hw, hbefore⟩, hafter⟩
      exact ⟨hname, w, hw, ih.mpr ⟨hbefore, hafter⟩⟩

/-- A name that a chain leads back to is led back to by chains of any length. -/
theorem exists_chain_of_cycle {name : Text} {loop : List Text}
    (h : ReferenceChain W table v (loop ++ [name])) (hv : table.get? name = some v) :
    ∀ n : Nat, ∃ chain, ReferenceChain W table v (chain ++ [name]) ∧ n ≤ chain.length
  | 0 => ⟨loop, h, Nat.zero_le _⟩
  | n + 1 => by
    obtain ⟨chain, hc, hn⟩ := exists_chain_of_cycle h hv n
    refine ⟨loop ++ name :: chain, ?_, by simp; omega⟩
    rw [List.append_assoc, List.cons_append]
    exact chain_append_iff.mpr ⟨h, v, hv, hc⟩

/-- From a text that reaches a cycle there are chains of any length. -/
theorem exists_long_chain {name : Text} {before loop : List Text}
    (h : ReferenceChain W table t (before ++ name :: (loop ++ [name]))) (n : Nat) :
    ∃ chain, ReferenceChain W table t chain ∧ n ≤ chain.length := by
  obtain ⟨hbefore, v, hv, hloop⟩ := chain_append_iff.mp h
  obtain ⟨chain, hc, hn⟩ := exists_chain_of_cycle hloop hv n
  exact ⟨before ++ name :: (chain ++ [name]), chain_append_iff.mpr ⟨hbefore, v, hv, hc⟩,
    by simp; omega⟩

/-- A line expands if and only if all its chains have fewer than ten links. -/
theorem exists_substitute_iff (hT : TidyTable W (s.visible vars))
    (hline : Tidy W (s.visible vars) line) : (∃ r, substitute vars s line = .ok r) ↔
      ∀ chain, ReferenceChain W (s.visible vars) line chain → chain.length < 10 := by
  constructor
  · rintro ⟨r, hr⟩ chain hc
    obtain ⟨k, hk, rfl, hfree⟩ := substitute_eq_ok_iff.mp hr
    by_contra hlong
    have hlen : (chain.take (k + 1)).length = k + 1 := List.length_take_of_le (by omega)
    have hrefs := (exists_chain_iff hT hline).mp ⟨_, hc.take (k + 1), hlen⟩
    exact hrefs (((hT.tidy_iterate hline k).keyFree_iff hT.toAlphabet).mp hfree)
  · intro h
    have hrefs : references W (s.visible vars) ((pass (s.visible vars))^[9] line) = [] := by
      by_contra hne
      obtain ⟨chain, hc, hl⟩ := (exists_chain_iff hT hline).mpr hne
      have := h chain hc
      omega
    have hfree := ((hT.tidy_iterate hline 9).keyFree_iff hT.toAlphabet).mpr hrefs
    exact ⟨_, substitute_eq_ok_iff.mpr ⟨9, le_rfl, rfl, hfree⟩⟩

/-! ### Full expansions -/

theorem expansion_plain_iff {c : Char} (hc : c ≠ '$') :
    Expansion W table (c :: cs) r ↔ ∃ r', Expansion W table cs r' ∧ r = c :: r' := by
  constructor
  · intro h
    cases h with
    | plain _ hr => exact ⟨_, hr, rfl⟩
    | undefined => exact absurd rfl hc
    | reference => exact absurd rfl hc
  · rintro ⟨r', hr, rfl⟩
    exact .plain hc hr

theorem expansion_undefined_iff (hn : table.get? (cs.takeWhile W) = none) :
    Expansion W table ('$' :: cs) r ↔
      ∃ r', Expansion W table (cs.dropWhile W) r' ∧ r = '$' :: (cs.takeWhile W ++ r') := by
  constructor
  · intro h
    cases h with
    | plain hc => exact absurd rfl hc
    | undefined _ hr => exact ⟨_, hr, rfl⟩
    | reference hn' =>
      rw [hn] at hn'
      cases hn'
  · rintro ⟨r', hr, rfl⟩
    exact .undefined hn hr

theorem expansion_reference_iff (hn : table.get? (cs.takeWhile W) = some v) :
    Expansion W table ('$' :: cs) r ↔
      ∃ e r', Expansion W table v e ∧ Expansion W table (cs.dropWhile W) r' ∧ r = e ++ r' := by
  constructor
  · intro h
    cases h with
    | plain hc => exact absurd rfl hc
    | undefined hn' =>
      rw [hn] at hn'
      cases hn'
    | reference hn' hv hr =>
      rw [hn] at hn'
      cases hn'
      exact ⟨_, _, hv, hr, rfl⟩
  · rintro ⟨e, r', hv, hr, rfl⟩
    exact .reference hn hv hr

/-- A text has one expansion at most. -/
theorem Expansion.unique {e : Text} (h : Expansion W table t e) (h' : Expansion W table t r) :
    e = r := by
  induction h generalizing r with
  | done =>
    cases h'
    rfl
  | plain hc _ ih =>
    obtain ⟨r', hr, rfl⟩ := (expansion_plain_iff hc).mp h'
    rw [ih hr]
  | undefined hn _ ih =>
    obtain ⟨r', hr, rfl⟩ := (expansion_undefined_iff hn).mp h'
    rw [ih hr]
  | reference hn _ _ ihv ih =>
    obtain ⟨e', r', hv, hr, rfl⟩ := (expansion_reference_iff hn).mp h'
    rw [ihv hv, ih hr]

/-- The expansion of a bounded text is bounded. -/
theorem Expansion.bounded (h : Expansion W table t r) (hb : Bounded W t) : Bounded W r := by
  cases h with
  | done => exact hb
  | plain _ _ => exact hb
  | undefined => exact absurd rfl (hb _ rfl).2
  | reference => exact absurd rfl (hb _ rfl).2

/-- A text that is cut at a bounded one is expanded part by part. -/
theorem expansion_append_iff (hu : Bounded W u) : Expansion W table (t ++ u) r ↔
    ∃ e e', Expansion W table t e ∧ Expansion W table u e' ∧ r = e ++ e' := by
  induction t using segment_induction W generalizing r with
  | nil =>
    refine ⟨fun h => ⟨[], r, .done, h, rfl⟩, ?_⟩
    rintro ⟨e, e', he, he', rfl⟩
    cases he
    exact he'
  | plain c cs hc ih =>
    rw [List.cons_append, expansion_plain_iff hc]
    simp only [ih, expansion_plain_iff hc]
    constructor
    · rintro ⟨r', ⟨e, e', he, he', rfl⟩, rfl⟩
      exact ⟨c :: e, e', ⟨e, he, rfl⟩, he', rfl⟩
    · rintro ⟨_, e', ⟨e, he, rfl⟩, he', rfl⟩
      exact ⟨e ++ e', ⟨e, e', he, he', rfl⟩, rfl⟩
  | dollar cs ih =>
    have htake := takeWhile_append_of_bounded hu cs
    have hdrop := dropWhile_append_of_bounded hu cs
    rw [List.cons_append]
    cases hn : table.get? (cs.takeWhile W) with
    | none =>
      simp only [expansion_undefined_iff hn, expansion_undefined_iff (htake ▸ hn), htake, hdrop, ih]
      constructor
      · rintro ⟨r', ⟨e, e', he, he', rfl⟩, rfl⟩
        exact ⟨_, e', ⟨e, he, rfl⟩, he', by simp⟩
      · rintro ⟨_, e', ⟨e, he, rfl⟩, he', rfl⟩
        exact ⟨e ++ e', ⟨e, e', he, he', rfl⟩, by simp⟩
    | some v =>
      simp only [expansion_reference_iff hn, expansion_reference_iff (htake ▸ hn), hdrop, ih]
      constructor
      · rintro ⟨e₁, r', hv, ⟨e, e', he, he', rfl⟩, rfl⟩
        exact ⟨e₁ ++ e, e', ⟨e₁, e, hv, he, rfl⟩, he', (List.append_assoc ..).symm⟩
      · rintro ⟨_, e', ⟨e₁, e, hv, he, rfl⟩, he', rfl⟩
        exact ⟨e₁, e ++ e', hv, ⟨e, e', he, he', rfl⟩, List.append_assoc ..⟩

/-- What a pass makes of a tidy text has the same expansion. -/
theorem expansion_of_pass (hT : TidyTable W table) (ht : Tidy W table t)
    (h : Expansion W table (pass table t) r) : Expansion W table t r := by
  induction t using segment_induction W generalizing r with
  | nil => exact h
  | plain c cs hc ih =>
    rw [pass_of_noKeyAt (noKeyAt_of_ne hc)] at h
    obtain ⟨r', hr, rfl⟩ := (expansion_plain_iff hc).mp h
    exact .plain hc (ih ((tidy_plain hc).mp ht) hr)
  | dollar cs ih =>
    obtain ⟨hd, hrest⟩ := (tidy_dollar hT.dollar).mp ht
    have hb : Bounded W (pass table (cs.dropWhile W)) := hd.bounded.pass
    rcases hd.2 with hmem | hno
    · obtain ⟨v, hv⟩ := Dict.mem_keys_iff.mp hmem
      rw [pass_reference hT.toAlphabet hv] at h
      obtain ⟨e, e', he, he', rfl⟩ := (expansion_append_iff hb).mp h
      exact .reference hv he (ih hrest he')
    · have hn : table.get? (cs.takeWhile W) = none :=
        Dict.get?_eq_none_iff.mpr fun h => hno _ h (List.prefix_refl _)
      rw [pass_undefined hT.toAlphabet hno,
        expansion_undefined_iff (by rwa [takeWhile_takeWhile_append hb]),
        takeWhile_takeWhile_append hb, dropWhile_takeWhile_append hb] at h
      obtain ⟨r', hr, rfl⟩ := h
      exact .undefined hn (ih hrest hr)

/-- A tidy text without keys is its own expansion. -/
theorem expansion_of_keyFree (hT : TidyTable W table) (ht : Tidy W table t)
    (hf : KeyFree table t) : Expansion W table t t := by
  have hrefs := (ht.keyFree_iff hT.toAlphabet).mp hf
  clear hf
  induction t using segment_induction W with
  | nil => exact .done
  | plain c cs hc ih =>
    rw [references_plain hc] at hrefs
    exact .plain hc (ih ((tidy_plain hc).mp ht) hrefs)
  | dollar cs ih =>
    obtain ⟨-, hrest⟩ := (tidy_dollar hT.dollar).mp ht
    rw [references_dollar hT.dollar] at hrefs
    split at hrefs
    · cases hrefs
    · next hmem =>
      have h := Expansion.undefined (Dict.get?_eq_none_iff.mpr hmem) (ih hrest hrefs)
      rwa [List.takeWhile_append_dropWhile] at h

/-- If passes lead to a text without keys, it is the expansion of the text they started with. -/
theorem expansion_iterate (hT : TidyTable W table) : ∀ {k : Nat} {t : Text}, Tidy W table t →
    KeyFree table ((pass table)^[k] t) → Expansion W table t ((pass table)^[k] t)
  | 0, _, ht, hf => expansion_of_keyFree hT ht hf
  | _ + 1, _, ht, hf =>
    expansion_of_pass hT ht (expansion_iterate hT (tidy_pass hT.toAlphabet hT.values ht ht) hf)

/-- What a tidy line expands to is its expansion. -/
theorem expansion_of_substitute (hT : TidyTable W (s.visible vars))
    (hline : Tidy W (s.visible vars) line) (h : substitute vars s line = .ok r) :
    Expansion W (s.visible vars) line r := by
  obtain ⟨k, -, rfl, hf⟩ := substitute_eq_ok_iff.mp h
  exact expansion_iterate hT hline hf

/-- A line that does not expand fails as cyclic. -/
theorem substitute_eq_error_of_chain (hT : TidyTable W (s.visible vars))
    (hline : Tidy W (s.visible vars) line) {chain : List Text}
    (hc : ReferenceChain W (s.visible vars) line chain) (hl : 10 ≤ chain.length) :
    substitute vars s line = .error ⟨line⟩ := by
  cases h : substitute vars s line with
  | ok r => exact absurd ((exists_substitute_iff hT hline).mp ⟨r, h⟩ chain hc) (by omega)
  | error e => rw [(substitute_eq_error_iff.mp h).1]

/-- Substitution of tidy texts converges if and only if no chain of references has ten links. A line
with a longer chain, or one that reaches a cycle, is reported as cyclic; otherwise the result is the
one full expansion of the line. -/
theorem substitute_converges_iff (hT : TidyTable W (s.visible vars))
    (hline : Tidy W (s.visible vars) line) :
    ((∃ r, substitute vars s line = .ok r) ↔
      ∀ chain, ReferenceChain W (s.visible vars) line chain → chain.length < 10) ∧
    (∀ chain, ReferenceChain W (s.visible vars) line chain → 10 ≤ chain.length →
      substitute vars s line = .error ⟨line⟩) ∧
    (∀ before name loop,
      ReferenceChain W (s.visible vars) line (before ++ name :: (loop ++ [name])) →
      substitute vars s line = .error ⟨line⟩) ∧
    ∀ r, substitute vars s line = .ok r →
      ∀ e, Expansion W (s.visible vars) line e ↔ e = r := by
  refine ⟨exists_substitute_iff hT hline,
    fun chain hc hl => substitute_eq_error_of_chain hT hline hc hl, fun before name loop h => ?_,
    fun r hr e => ?_⟩
  · obtain ⟨chain, hc, hl⟩ := exists_long_chain h 10
    exact substitute_eq_error_of_chain hT hline hc hl
  · have hexp := expansion_of_substitute hT hline hr
    exact ⟨fun h => h.unique hexp, fun h => h ▸ hexp⟩

/-! ### A relay of names -/

/-- Names are made of letters, digits and underscores. -/
def isNameChar (c : Char) : Bool := c.isAlphanum || c = '_'

/-- Nine variables, each of which refers to the next name. -/
def relayVars : Dict Text := .ofList
  [("a", "$b"), ("b", "$c"), ("c", "$d"), ("d", "$e"), ("e", "$f"), ("f", "$g"), ("g", "$h"),
    ("h", "$i"), ("i", "$j")]

/-- The last name of the relay is a command. -/
def relayScope : Scope := .ofUpfile ⟨.ofList [("j", ⟨[], ["done"]⟩)], "j"⟩

/-- Nine links are passed on to the end, and ten are too many. -/
theorem substitute_converges_relay :
    TidyTable isNameChar (relayScope.visible relayVars) ∧
      Tidy isNameChar (relayScope.visible relayVars) "run $b, $nope" ∧
      Tidy isNameChar (relayScope.visible relayVars) "run $a" ∧
      (∀ chain, ReferenceChain isNameChar (relayScope.visible relayVars) "run $b, $nope" chain →
        chain.length < 10) ∧
      (∀ e, Expansion isNameChar (relayScope.visible relayVars) "run $b, $nope" e ↔
        e = "run done, $nope") ∧
      ∃ chain, ReferenceChain isNameChar (relayScope.visible relayVars) "run $a" chain ∧
        10 ≤ chain.length := by
  have hT : TidyTable isNameChar (relayScope.visible relayVars) := by decide +kernel
  have hnine : Tidy isNameChar (relayScope.visible relayVars) "run $b, $nope" := by
    decide +kernel
  have hten : Tidy isNameChar (relayScope.visible relayVars) "run $a" := by decide +kernel
  have hdone : substitute relayVars relayScope "run $b, $nope" = .ok "run done, $nope" := by
    decide +kernel
  have hcycle : substitute relayVars relayScope "run $a" = .error ⟨"run $a"⟩ := by decide +kernel
  obtain ⟨hshort, -, -, hexp⟩ := substitute_converges_iff hT hnine
  refine ⟨hT, hnine, hten, hshort.mp ⟨_, hdone⟩, hexp _ hdone, ?_⟩
  by_contra hno
  simp only [not_exists, not_and, not_le] at hno
  obtain ⟨r, hr⟩ := (substitute_converges_iff hT hten).1.mpr hno
  rw [hcycle] at hr
  cases hr

end Rollout
