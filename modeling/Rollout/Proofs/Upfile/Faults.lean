import Rollout.Proofs.Upfile.Agreement
import Rollout.Proofs.Upfile.Lexing

/-!
What goes wrong while a text is read. No guard is blamed before the end of the text
(`ensures_readLines`), and a NUL outside of comments always goes wrong: the machine cannot step past
it (`Machine.ensures_run`). So a text that only its guards keep from being an Upfile has its NULs in
comments (`nulsInComments_of_parse`).
-/

namespace Rollout.Upfile

/-! ### Faults of guards -/

/-- Is the error one of a guard, which is found only when all commands have been read? -/
def ParseError.isGuardFault : ParseError → Bool
  | .selfReference _ | .undefinedGuard .. => true
  | _ => false

/-- What is read has the property, and no guard is blamed if nothing is read. -/
abbrev Ensures {α : Type} (P : α → Prop) : Except ParseError α → Prop :=
  Ends (fun e => e.isGuardFault = false) P

theorem isGuardFault_of_guardFault {commands : Dict Command} {name : Text} {e : ParseError} :
    ∀ {guards : List Text}, guardFault commands name guards = some e → e.isGuardFault = true
  | g :: gs, h => by
    rw [guardFault] at h
    split at h
    · cases h
      rfl
    split at h
    · exact isGuardFault_of_guardFault h
    · cases h
      rfl

theorem isGuardFault_of_tableFault {commands : Dict Command} {e : ParseError}
    (h : tableFault commands = some e) : e.isGuardFault = true := by
  obtain ⟨d, -, hd⟩ := List.exists_of_findSome?_eq_some h
  exact isGuardFault_of_guardFault hd

/-- No guard is blamed before the end of the text. -/
theorem ensures_close (r : Reading) : Ensures (fun _ => True) r.close := by
  unfold Reading.close
  split
  · exact trivial
  · split
    · rfl
    · exact trivial

theorem ensures_header (r : Reading) (c : Text) (last : Bool) :
    Ensures (fun _ => True) (r.header c last) := by
  refine (ensures_close r).bind fun commands _ => ?_
  dsimp only
  split
  · rfl
  split
  · rfl
  split
  · rfl
  split
  · rfl
  · exact trivial

theorem ensures_readCode (r : Reading) (line c : Text) (last : Bool) :
    Ensures (fun _ => True) (r.readCode line c last) := by
  unfold Reading.readCode
  split
  · exact trivial
  split
  · rfl
  · rfl
  · rfl
  · refine Ends.bind (P := fun _ => True) ?_ fun _ _ => trivial
    unfold Reading.bodyLine
    split
    · exact trivial
    split
    · rfl
    · exact trivial
  · exact ensures_header r _ last

theorem ensures_readLines : ∀ (lines : List Text) (r : Reading),
    Ensures (fun _ => True) (r.readLines lines)
  | [], _ => trivial
  | line :: lines, r =>
    (ensures_readCode r line (code line) lines.isEmpty).bind fun r' _ => ensures_readLines lines r'

/-! ### A stray NUL ends the reading -/

/-- The tokens to come end in the one that tells of a stray NUL. -/
structure Cursor.Faulty (c : Cursor) : Prop where
  pending : ∀ t ∈ c.pending, t.kind ≠ .eof
  ne_eof : ∀ t ∈ c.lexer.tokens, t.kind ≠ .eof
  ends : ∃ t ∈ c.lexer.tokens, t.kind = .error

theorem Cursor.Faulty.of_tokens {l : Lexer} (hne : ∀ t ∈ l.tokens, t.kind ≠ .eof)
    (hends : ∃ t ∈ l.tokens, t.kind = .error) : Cursor.Faulty ⟨none, l⟩ :=
  ⟨by simp, hne, hends⟩

namespace Machine

variable {c : Cursor} {m : Machine}

theorem ensures_read (h : c.Faulty) :
    Ensures (fun p => p.1.kind ≠ .eof ∧ p.1.kind ≠ .error ∧ p.2.Faulty) (read c) := by
  obtain ⟨pending, lexer⟩ := c
  unfold read Cursor.read
  cases pending with
  | some t =>
    dsimp only
    split
    · split <;> rfl
    · next hk => exact ⟨h.pending t rfl, hk, .of_tokens h.ne_eof h.ends⟩
  | none =>
    dsimp only
    cases hn : lexer.next with
    | none =>
      obtain ⟨t, ht, -⟩ := h.ends
      rw [Lexer.tokens, Lexer.drain_of_next_eq_none hn] at ht
      cases ht
    | some p =>
      obtain ⟨t, l⟩ := p
      have htokens : lexer.tokens = t :: l.tokens := congrArg Prod.fst (Lexer.drain_of_next hn)
      have heof := h.ne_eof
      obtain ⟨u, hu, hk⟩ := h.ends
      dsimp only at heof hu
      rw [htokens] at heof hu
      dsimp only
      split
      · split <;> rfl
      · next hne =>
        rcases List.mem_cons.mp hu with rfl | hu
        · exact absurd hk hne
        · obtain ⟨ht, hl⟩ := List.forall_mem_cons.mp heof
          exact ⟨ht, hne, .of_tokens hl ⟨u, hu, hk⟩⟩

theorem ensures_putBack {t : Token} (ht : t.kind ≠ .eof) (h : c.Faulty) :
    Ensures Cursor.Faulty (putBack t c) := by
  unfold putBack Cursor.putBack
  cases c.pending with
  | some u => rfl
  | none => exact ⟨fun u hu => Option.some.inj hu ▸ ht, h.ne_eof, h.ends⟩

/-- The step goes on before the stray NUL. -/
def GoesOn (m? : Option Machine) : Prop := ∃ m, m? = some m ∧ m.cursor.Faulty

theorem ensures_closeCommand {name : Text} {command : Command} (h : c.Faulty) :
    Ensures GoesOn (closeCommand m name command c) := by
  unfold closeCommand
  split
  · rfl
  · exact ⟨_, rfl, h⟩

theorem ensures_stepTop (h : m.cursor.Faulty) : Ensures GoesOn (stepTop m) := by
  refine (ensures_read h).bind fun ⟨t, c⟩ ⟨heof, herror, hc⟩ => ?_
  dsimp only at heof herror hc ⊢
  split
  case h_1 hk => exact absurd hk heof
  case h_2 | h_3 => exact ⟨_, rfl, hc⟩
  case h_4 =>
    refine (ensures_read hc).bind fun ⟨u, c'⟩ ⟨heof, _, hc'⟩ => ?_
    dsimp only at heof hc' ⊢
    split
    case h_1 | h_2 =>
      exact (ensures_putBack heof hc').bind fun c'' hc'' => ⟨_, rfl, hc''⟩
    case h_3 => exact ⟨_, rfl, hc'⟩
    case h_4 => rfl
  case h_5 =>
    refine Ends.bind (P := fun m : Machine => m.cursor.Faulty) ?_ fun m' hm' => ⟨_, rfl, hm'⟩
    unfold openCommand
    split
    · rfl
    · exact hc
  case h_6 | h_7 => rfl
  case h_8 hk => exact absurd hk herror

theorem ensures_stepTopComment (h : m.cursor.Faulty) : Ensures GoesOn (stepTopComment m) := by
  refine (ensures_read h).bind fun ⟨t, c⟩ ⟨heof, _, hc⟩ => ?_
  dsimp only at heof hc ⊢
  split <;> exact ⟨_, rfl, hc⟩

theorem ensures_stepHeader {name : Text} {guards : List Text} (h : m.cursor.Faulty) :
    Ensures GoesOn (stepHeader m name guards) := by
  refine (ensures_read h).bind fun ⟨t, c⟩ ⟨heof, _, hc⟩ => ?_
  dsimp only at heof hc ⊢
  split
  case h_1 | h_2 | h_3 | h_4 | h_5 => exact ⟨_, rfl, hc⟩
  case h_6 | h_7 => rfl

theorem ensures_stepHeaderComment {name : Text} {guards : List Text} (h : m.cursor.Faulty) :
    Ensures GoesOn (stepHeaderComment m name guards) := by
  refine (ensures_read h).bind fun ⟨t, c⟩ ⟨heof, _, hc⟩ => ?_
  dsimp only at heof hc ⊢
  split
  case h_1 | h_3 => exact ⟨_, rfl, hc⟩
  case h_2 => rfl

theorem ensures_stepBody {name line : Text} {command : Command} {indented : Bool}
    (h : m.cursor.Faulty) : Ensures GoesOn (stepBody m name command indented line) := by
  refine (ensures_read h).bind fun ⟨t, c⟩ ⟨heof, herror, hc⟩ => ?_
  -- what is looked at behind the token is put back, or is an error
  have hpeek {k : Token × Cursor → Except ParseError (Option Machine)}
      (hk : ∀ p : Token × Cursor, p.1.kind ≠ .eof → p.2.Faulty → Ensures GoesOn (k p)) :
      Ensures GoesOn (read c >>= k) :=
    (ensures_read hc).bind fun p hp => hk p hp.1 hp.2.2
  dsimp only at heof herror hc ⊢
  split
  case h_1 | h_4 => exact ⟨_, rfl, hc⟩
  case h_2 hk => exact absurd hk heof
  case h_3 =>
    split
    · exact ⟨_, rfl, hc⟩
    split
    · refine hpeek fun ⟨u, c'⟩ heof hc' => ?_
      dsimp only at heof hc' ⊢
      split
      case h_1 | h_2 | h_3 =>
        exact (ensures_putBack heof hc').bind fun c'' hc'' => ⟨_, rfl, hc''⟩
      case h_4 => rfl
    · exact ⟨_, rfl, hc⟩
  case h_5 | h_6 =>
    split
    · exact ⟨_, rfl, hc⟩
    · exact (ensures_putBack heof hc).bind fun c' hc' => ensures_closeCommand hc'
  case h_7 =>
    split
    · exact ⟨_, rfl, hc⟩
    · refine hpeek fun ⟨u, c'⟩ heof hc' => ?_
      dsimp only at heof hc' ⊢
      split
      case h_1 | h_2 | h_3 =>
        exact (ensures_putBack heof hc').bind fun c'' hc'' => ⟨_, rfl, hc''⟩
      case h_4 => rfl
  case h_8 hk => exact absurd hk herror

theorem ensures_step (h : m.cursor.Faulty) : Ensures GoesOn (step m) := by
  unfold step
  split
  · exact ensures_stepTop h
  · exact ensures_stepTopComment h
  · exact ensures_stepHeader h
  · exact ensures_stepHeaderComment h
  · exact ensures_stepBody h

/-- The machine does not get past a stray NUL, and blames no guard. -/
theorem ensures_run (m : Machine) (h : m.cursor.Faulty) : Ensures (fun _ => False) (run m) := by
  have hstep := ensures_step h
  rw [run]
  split
  · next he => rwa [he] at hstep
  · next hs =>
    rw [hs] at hstep
    obtain ⟨_, hm, -⟩ := hstep
    cases hm
  · next m' hs =>
    rw [hs] at hstep
    obtain ⟨_, hm, hf⟩ := hstep
    cases hm
    have := weight_step_lt hs
    exact ensures_run m' hf
  termination_by m.weight

end Machine

/-! ### NULs in the code of a line -/

/-- A text starts after its start or a line end wherever one of its lines does. -/
theorem exists_of_mem_sourceLines {line : Text} : ∀ {text : Text}, line ∈ sourceLines text →
    ∃ before after, text = before ++ line ++ after ∧ (∀ d ∈ before.getLast?, isLineEnd d = true) ∧
      ∀ d ∈ line, isLineEnd d = false := by
  intro text h
  obtain ⟨first, after, rfl, hl, ha⟩ := exists_line text
  cases after with
  | nil =>
    rw [List.append_nil, sourceLines_of_forall hl] at h
    obtain rfl := List.mem_singleton.mp h
    exact ⟨[], [], rfl, nofun, hl⟩
  | cons d rest =>
    rw [sourceLines_append hl (ha d rfl)] at h
    rcases List.mem_cons.mp h with rfl | h
    · exact ⟨[], d :: rest, rfl, nofun, hl⟩
    · obtain ⟨before, after, hrest, hbefore, hline⟩ := exists_of_mem_sourceLines h
      refine ⟨first ++ d :: before, after, by simp [hrest], fun b hb => ?_, hline⟩
      cases hlast : before.getLast? with
      | none =>
        rw [List.getLast?_eq_none_iff.mp hlast, List.getLast?_concat] at hb
        exact Option.some.inj hb ▸ ha d rfl
      | some a =>
        exact hbefore b (by simpa [List.getLast?_append, List.getLast?_cons, hlast] using hb)
  termination_by text => text.length

/-- Code stops where a comment may start. -/
theorem isPrefix_codeFrom_hash {rest : Text} : ∀ {b : Bool} {s : Text},
    (∀ d ∈ s.getLast?, isInked d = false) → (s = [] → b = true) →
      codeFrom b (s ++ '#' :: rest) <+: s
  | b, [], _, hb => by simp [codeFrom, hb rfl]
  | b, c :: s, hs, _ => by
    rw [List.cons_append, codeFrom]
    split
    · exact List.nil_prefix
    · refine List.cons_prefix_cons.mpr ⟨rfl, isPrefix_codeFrom_hash (fun d hd => hs d ?_) ?_⟩
      · cases s with
        | nil => cases hd
        | cons a s => exact hd
      · rintro rfl
        have hc : isInked c = false := hs c rfl
        simpa [isInked, ← imp_iff_not_or, or_iff_not_imp_left] using hc

theorem NulsInComments.nul_notMem_code {text : Text} (h : NulsInComments text) :
    ∀ line ∈ sourceLines text, '\x00' ∉ code line := by
  intro line hline hnul
  obtain ⟨before, after, rfl, hbefore, hends⟩ := exists_of_mem_sourceLines hline
  obtain ⟨p, q, hcode⟩ := List.append_of_mem hnul
  obtain ⟨comment, hcomment⟩ := isPrefix_codeFrom true line
  have hsplit : line = p ++ '\x00' :: (q ++ comment) := by
    rw [← hcomment, ← code, hcode, List.append_assoc, List.cons_append]
  obtain ⟨s, cs, heq, hs, hcs⟩ := h (before ++ p) (q ++ comment ++ after) (by simp [hsplit])
  -- the comment that the NUL stands in starts in its line, for it does not reach over line ends
  obtain ⟨a, rfl, rfl⟩ : ∃ a, s = before ++ a ∧ p = a ++ '#' :: cs := by
    rcases List.append_eq_append_iff.mp heq with h | ⟨_ | ⟨b, bs⟩, hb, hp⟩
    · exact h
    · exact ⟨[], by rw [hb, List.append_nil, List.append_nil], hp.symm⟩
    · obtain ⟨d, hd⟩ : ∃ d, (b :: bs).getLast? = some d :=
        ⟨_, List.getLast?_eq_some_getLast (List.cons_ne_nil b bs)⟩
      have hend : isLineEnd d = true :=
        hbefore d (by rw [hb, List.getLast?_append, hd]; rfl)
      have hm : d ∈ '#' :: cs := hp ▸ List.mem_append_left p (List.mem_of_getLast? hd)
      rcases List.mem_cons.mp hm with rfl | hm
      · cases hend
      · exact absurd hend (by simp [hcs d hm])
  have ha : ∀ d ∈ a.getLast?, isInked d = false := fun d hd => by
    have hline : isLineEnd d = false := hends d (by simp [hsplit, List.mem_of_getLast? hd])
    have hlast : d ∈ (before ++ a).getLast? := by
      rw [List.getLast?_append, Option.mem_def.mp hd]
      rfl
    rcases hs d hlast with rfl | rfl | hd
    · rfl
    · rfl
    · exact absurd hd (by simp [hline])
  have hprefix : code line <+: a := by
    rw [hsplit, List.append_assoc, List.cons_append]
    exact isPrefix_codeFrom_hash ha fun _ => rfl
  have hle := hprefix.length_le
  rw [hcode] at hle
  simp only [List.length_append, List.length_cons] at hle
  omega

/-- A text with a NUL outside of comments is no Upfile, and no guard is blamed for it. -/
theorem nulsInComments_of_parse {text : Text}
    (h : ∀ e, parse text = .error e → e.isGuardFault = true) : NulsInComments text := by
  obtain ⟨left, ts, hcut, hleft⟩ := exists_cutInto text
  have hdrain := hcut.drain 0
  cases left with
  | nil =>
    rw [hcut.eq, List.append_nil]
    exact hcut.lexemes.nulsInComments
  | cons c after =>
    obtain rfl := hleft c rfl
    rw [Lexer.drain_nul] at hdrain
    have htokens : (Lexer.ofText text).tokens = ts ++ [⟨.error, []⟩] := congrArg Prod.fst hdrain
    have hfaulty : (Machine.ofText text).cursor.Faulty := by
      refine .of_tokens (fun t ht hk => ?_) ⟨⟨.error, []⟩, by simp [htokens], rfl⟩
      rw [htokens] at ht
      rcases List.mem_append.mp ht with ht | ht
      · exact (hcut.lexemes.isLexeme t ht).kind_ne.1 hk
      · rw [List.mem_singleton.mp ht] at hk
        cases hk
    have hrun := Machine.ensures_run _ hfaulty
    cases hr : (Machine.ofText text).run with
    | ok m =>
      rw [hr] at hrun
      exact hrun.elim
    | error e =>
      rw [hr] at hrun
      have he : e.isGuardFault = true := h e (by rw [parse, hr]; rfl)
      rw [hrun] at he
      cases he

end Rollout.Upfile
