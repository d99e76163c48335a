import Mathlib.Logic.Function.Iterate
import Rollout.Proofs.Upfile.Faults

/-!
The machine halts on every text, and it is never stuck (`run_halts`). A step that does not leave a
loop of the machine for the space between commands leaves fewer tokens than there were, pending or
not yet lexed, for a token that is put back was read behind another one (`Advances`). Tokens may be
put back only because the lexer that handed one out has others to come (`Cursor.Ready`).
-/

namespace Rollout.Upfile

/-! ### Tokens that are left -/

namespace Lexer

variable {l l' : Lexer} {t : Token}

theorem next_eq_none_iff : l.next = none ↔ l.done = true := by
  unfold next
  split
  · simp [*]
  · split
    · simp [*]
    · split <;> simp [*]

theorem tokens_of_next (h : l.next = some (t, l')) : l.tokens = t :: l'.tokens :=
  congrArg Prod.fst (drain_of_next h)

theorem tokens_of_done (h : l.done = true) : l.tokens = [] :=
  congrArg Prod.fst (drain_of_next_eq_none (next_eq_none_iff.mpr h))

/-- The lexer has handed out the token, and nothing after it. -/
inductive HandedOut (l : Lexer) : Token → Prop
  | lexeme {t : Token} (ht : t.IsLexeme) (hd : l.done = false) : HandedOut l t
  | last (hd : l.done = true) : HandedOut l ⟨.eof, []⟩
  | fault {offset : Nat} (hd : l.done = true) (hf : l.fault = some offset) :
    HandedOut l ⟨.error, []⟩

theorem handedOut_next (h : l.next = some (t, l')) : l'.HandedOut t := by
  unfold next at h
  split at h
  · cases h
  next hd =>
  split at h
  · cases h
    exact .last rfl
  next c cs hr =>
  split at h
  · cases h
    exact .fault rfl rfl
  next hc =>
    cases h
    obtain ⟨-, -, ht, -⟩ := isLexeme_longest cs hc
    exact .lexeme ht (by simpa using hd)

/-- A lexer that is not done hands out lexemes, and then the one token that ends them. -/
theorem exists_tokens_eq (l : Lexer) (h : l.done = false) : ∃ ts last, l.tokens = ts ++ [last] ∧
    (∀ t ∈ ts, t.IsLexeme) ∧ (last.kind = .eof ∨ last.kind = .error) := by
  cases hn : l.next with
  | none => simp [next_eq_none_iff.mp hn] at h
  | some p =>
    obtain ⟨t, l'⟩ := p
    have hlt := left_next_lt hn
    rw [tokens_of_next hn]
    cases handedOut_next hn with
    | lexeme ht hd =>
      obtain ⟨ts, last, heq, hts, hlast⟩ := exists_tokens_eq l' hd
      refine ⟨t :: ts, last, ?_, List.forall_mem_cons.mpr ⟨ht, hts⟩, hlast⟩
      rw [heq, List.cons_append]
    | last hd => exact ⟨[], _, by rw [tokens_of_done hd, List.nil_append], nofun, .inl rfl⟩
    | fault hd hf => exact ⟨[], _, by rw [tokens_of_done hd, List.nil_append], nofun, .inr rfl⟩
  termination_by l.left

end Lexer

namespace Cursor

/-- The tokens left, the pending one before those that are not yet lexed. -/
def tokens (c : Cursor) : List Token := c.pending.toList ++ c.lexer.tokens

/-- The number of tokens left. -/
def tokensLeft (c : Cursor) : Nat := c.tokens.length

/-- The place so many tokens further. -/
def after (c : Cursor) (n : Nat) : Cursor := (fun c => c.read.2)^[n] c

/-- The tokens are read one after the other, and then the end of the text. -/
theorem read_spec (c : Cursor) :
    c.read.1 = c.tokens.head?.getD ⟨.eof, []⟩ ∧ c.read.2.tokens = c.tokens.tail := by
  obtain ⟨pending, lexer⟩ := c
  unfold read
  cases pending with
  | some t => exact ⟨rfl, rfl⟩
  | none =>
    dsimp only
    cases hn : lexer.next with
    | none => simp [tokens, Lexer.tokens_of_done (Lexer.next_eq_none_iff.mp hn)]
    | some p => simp [tokens, Lexer.tokens_of_next hn]

theorem tokens_after (c : Cursor) (n : Nat) : (c.after n).tokens = c.tokens.drop n := by
  induction n with
  | zero => rfl
  | succ n ih =>
    rw [after, Function.iterate_succ_apply', ← after, (read_spec _).2, ih, List.tail_drop]

theorem read_after (c : Cursor) (n : Nat) :
    (c.after n).read.1 = c.tokens.getD n ⟨.eof, []⟩ := by
  rw [(read_spec _).1, tokens_after, List.head?_drop, List.getD_eq_getElem?_getD]

/-- Where no tokens are left, the end of the text is read again and again. -/
theorem read_of_tokens_eq_nil {c : Cursor} (h : c.tokens = []) : c.read = (⟨.eof, []⟩, c) := by
  obtain ⟨pending, lexer⟩ := c
  obtain ⟨hp, hl⟩ := List.append_eq_nil_iff.mp h
  obtain rfl := Option.toList_eq_nil_iff.mp hp
  cases hn : lexer.next with
  | none => simp [read, hn]
  | some p => simp [Lexer.tokens_of_next hn] at hl

/-- A token is pending only if it is the last one that the lexer has handed out, and none that tells
of a stray NUL. -/
def Ready (c : Cursor) : Prop := ∀ t ∈ c.pending, c.lexer.HandedOut t ∧ t.kind ≠ .error

theorem ready_of_pending {c : Cursor} (h : c.pending = none) : c.Ready := fun t ht => by
  rw [h] at ht
  cases ht

end Cursor

/-! ### Loops -/

/-- The loops of the machine. -/
inductive Loop | top | comment | header | body

/-- The loop that is in this mode; one loop skips the comments between commands and those at the end
of a header. -/
def Mode.loop : Mode → Loop
  | .top => .top
  | .topComment | .headerComment .. => .comment
  | .header .. => .header
  | .body .. => .body

/-! ### Reading and putting back -/

/-- The computation is not stuck, and what it gives has the property. -/
abbrev Safe {α : Type} (P : α → Prop) : Except ParseError α → Prop := Ends (· ≠ .stuck) P

theorem safe_throw {α : Type} {P : α → Prop} {e : ParseError} (he : e ≠ .stuck) :
    Safe P (throw e) := he

theorem ne_stuck_of_safe {α : Type} {P : α → Prop} {x : Except ParseError α} (h : Safe P x) :
    x ≠ .error .stuck := by
  rintro rfl
  exact h rfl

/-- The token is the next one at a place, and the other place the one behind it. At the end of the
text no token need have been left. -/
inductive Taken (c : Cursor) : Token → Cursor → Prop
  | lexeme {t : Token} {l : Lexer} (ht : t.IsLexeme) (hd : l.done = false)
    (hleft : (Cursor.mk none l).tokensLeft < c.tokensLeft) : Taken c t ⟨none, l⟩
  | last {l : Lexer} (hd : l.done = true) : Taken c ⟨.eof, []⟩ ⟨none, l⟩

namespace Taken

variable {c c' : Cursor} {t : Token}

theorem pending (h : Taken c t c') : c'.pending = none := by
  cases h <;> rfl

theorem ne_error (h : Taken c t c') : t.kind ≠ .error := by
  cases h with
  | lexeme ht => exact ht.kind_ne.2
  | last => exact nofun

theorem left_le (h : Taken c t c') : c'.tokensLeft ≤ c.tokensLeft := by
  cases h with
  | lexeme _ _ hleft => exact Nat.le_of_lt hleft
  | last hd => simp [Cursor.tokensLeft, Cursor.tokens, Lexer.tokens_of_done hd]

theorem left_lt (h : Taken c t c') (hk : t.kind ≠ .eof) : c'.tokensLeft < c.tokensLeft := by
  cases h with
  | lexeme _ _ hleft => exact hleft
  | last => exact absurd rfl hk

/-- Behind all tokens but the last there are others. -/
theorem left_pos (h : Taken c t c') (hk : t.kind ≠ .eof) : 0 < c'.tokensLeft := by
  cases h with
  | lexeme _ hd =>
    obtain ⟨ts, last, heq, -⟩ := Lexer.exists_tokens_eq _ hd
    simp [Cursor.tokensLeft, Cursor.tokens, heq]
  | last => exact absurd rfl hk

end Taken

namespace Machine

variable {c c' : Cursor} {t : Token} {m m' : Machine}

theorem safe_read (hc : c.Ready) : Safe (fun p => Taken c p.1 p.2) (read c) := by
  obtain ⟨pending, lexer⟩ := c
  unfold read Cursor.read
  cases pending with
  | some t =>
    obtain ⟨hout, hne⟩ := hc t rfl
    dsimp only
    rw [if_neg hne]
    cases hout with
    | lexeme ht hd => exact .lexeme ht hd (by simp [Cursor.tokensLeft, Cursor.tokens])
    | last hd => exact .last hd
    | fault => exact absurd rfl hne
  | none =>
    dsimp only
    cases hn : lexer.next with
    | none => exact .last (Lexer.next_eq_none_iff.mp hn)
    | some p =>
      obtain ⟨t, l⟩ := p
      dsimp only
      cases Lexer.handedOut_next hn with
      | lexeme ht hd =>
        rw [if_neg ht.kind_ne.2]
        exact .lexeme ht hd (by simp [Cursor.tokensLeft, Cursor.tokens, Lexer.tokens_of_next hn])
      | last hd => exact .last hd
      | fault hd hf =>
        rw [if_pos rfl, hf]
        exact nofun

theorem read_of_tokens_eq_nil (h : c.tokens = []) : read c = .ok (⟨.eof, []⟩, c) := by
  rw [read, Cursor.read_of_tokens_eq_nil h]
  rfl

/-- Where tokens are left, a token can be put back right after it was taken, and no more are left
than before. -/
theorem safe_putBack (h : Taken c t c') (hpos : 0 < c.tokensLeft) :
    Safe (fun b => b.Ready ∧ b.tokensLeft ≤ c.tokensLeft) (putBack t c') := by
  have hne := h.ne_error
  cases h with
  | lexeme ht hd hleft =>
    refine ⟨fun u hu => ?_, ?_⟩
    · cases hu
      exact ⟨.lexeme ht hd, hne⟩
    · exact hleft
  | last hd =>
    refine ⟨fun u hu => ?_, ?_⟩
    · cases hu
      exact ⟨.last hd, hne⟩
    -- the end of the text may be read where nothing is left; put back, it would be one token more
    · simpa [Cursor.tokensLeft, Cursor.tokens, Lexer.tokens_of_done hd] using Nat.succ_le_of_lt hpos

/-! ### Steps -/

/-- No step leaves more tokens, and only a step that leaves a loop for the space between commands
may leave as many. -/
structure Advances (m m' : Machine) : Prop where
  ready : m'.cursor.Ready
  left_le : m'.cursor.tokensLeft ≤ m.cursor.tokensLeft
  left_lt : m.mode = .top ∨ m'.mode ≠ .top → m'.cursor.tokensLeft < m.cursor.tokensLeft

/-- If there is a step, it advances. -/
def Going (m : Machine) (m? : Option Machine) : Prop := ∀ m' ∈ m?, Advances m m'

theorem going_of_lt (hr : m'.cursor.Ready) (hlt : m'.cursor.tokensLeft < m.cursor.tokensLeft) :
    Going m (some m') := fun _ h => by
  cases h
  exact ⟨hr, Nat.le_of_lt hlt, fun _ => hlt⟩

/-- A token that is no end of the text is taken. -/
theorem going_of_taken (h : Taken m.cursor t m'.cursor) (hk : t.kind ≠ .eof) : Going m (some m') :=
  going_of_lt (Cursor.ready_of_pending h.pending) (h.left_lt hk)

theorem going_of_le (hm : m.mode ≠ .top) (hm' : m'.mode = .top) (hr : m'.cursor.Ready)
    (hle : m'.cursor.tokensLeft ≤ m.cursor.tokensLeft) : Going m (some m') := fun _ h => by
  cases h
  exact ⟨hr, hle, fun hor => (hor.elim hm fun h => h hm').elim⟩

theorem safe_openCommand {name : Text} (h : Taken m.cursor t c) (hk : t.kind ≠ .eof) :
    Safe (fun m' => Going m (some m')) (openCommand m name c) := by
  unfold openCommand
  split
  · exact nofun
  · exact going_of_taken h hk

theorem safe_closeCommand {name : Text} {command : Command} (hm : m.mode ≠ .top) (hr : c.Ready)
    (hle : c.tokensLeft ≤ m.cursor.tokensLeft) :
    Safe (Going m) (closeCommand m name command c) := by
  unfold closeCommand
  split
  · exact nofun
  · exact going_of_le hm rfl hr hle

/-- What is looked at behind a token is put back, or taken as well. -/
theorem safe_peek {k : Token × Cursor → Except ParseError (Option Machine)}
    (h : Taken m.cursor t c) (hk : t.kind ≠ .eof)
    (hnext : ∀ u c', Taken c u c' →
      Safe (fun b => b.Ready ∧ b.tokensLeft < m.cursor.tokensLeft) (putBack u c') →
      Safe (Going m) (k (u, c'))) :
    Safe (Going m) (read c >>= k) := by
  refine (safe_read (Cursor.ready_of_pending h.pending)).bind fun ⟨u, c'⟩ hu => hnext u c' hu ?_
  have hback := safe_putBack hu (h.left_pos hk)
  cases hb : putBack u c' with
  | error e =>
    rw [hb] at hback
    exact hback
  | ok b =>
    rw [hb] at hback
    exact ⟨hback.1, Nat.lt_of_le_of_lt hback.2 (h.left_lt hk)⟩

theorem safe_stepTop (h : m.cursor.Ready) : Safe (Going m) (stepTop m) := by
  refine (safe_read h).bind fun ⟨t, c⟩ ht => ?_
  have herror := ht.ne_error
  dsimp only at ht herror ⊢
  split
  case h_1 => exact nofun
  case h_2 hk | h_3 hk => exact going_of_taken ht (by simp [hk])
  case h_4 hk =>
    have hne : t.kind ≠ .eof := by simp [hk]
    refine safe_peek ht hne fun u c' hu hback => ?_
    dsimp only
    split
    case h_1 | h_2 => exact hback.bind fun b hb => going_of_lt hb.1 hb.2
    case h_3 =>
      exact going_of_lt (Cursor.ready_of_pending hu.pending)
        (Nat.lt_of_le_of_lt hu.left_le (ht.left_lt hne))
    case h_4 => exact safe_throw nofun
  case h_5 hk => exact (safe_openCommand ht (by simp [hk])).bind fun _ => id
  case h_6 | h_7 => exact safe_throw nofun
  case h_8 hk => exact absurd hk herror

theorem safe_stepTopComment (hm : m.mode = .topComment) (h : m.cursor.Ready) :
    Safe (Going m) (stepTopComment m) := by
  refine (safe_read h).bind fun ⟨t, c⟩ ht => ?_
  dsimp only at ht ⊢
  split
  case h_1 | h_2 =>
    exact going_of_le (by simp [hm]) rfl (Cursor.ready_of_pending ht.pending) ht.left_le
  case h_3 hk => exact going_of_taken ht hk

theorem safe_stepHeader {name : Text} {guards : List Text} (h : m.cursor.Ready) :
    Safe (Going m) (stepHeader m name guards) := by
  refine (safe_read h).bind fun ⟨t, c⟩ ht => ?_
  dsimp only at ht ⊢
  split
  case h_1 hk | h_2 hk | h_3 hk | h_4 hk | h_5 hk => exact going_of_taken ht (by simp [hk])
  case h_6 | h_7 => exact safe_throw nofun

theorem safe_stepHeaderComment {name : Text} {guards : List Text} (h : m.cursor.Ready) :
    Safe (Going m) (stepHeaderComment m name guards) := by
  refine (safe_read h).bind fun ⟨t, c⟩ ht => ?_
  dsimp only at ht ⊢
  split
  case h_1 hk => exact going_of_taken ht (by simp [hk])
  case h_2 => exact safe_throw nofun
  case h_3 hk => exact going_of_taken ht hk

theorem safe_stepBody {name line : Text} {command : Command} {indented : Bool}
    (hm : m.mode = .body name command indented line) (h : m.cursor.Ready) :
    Safe (Going m) (stepBody m name command indented line) := by
  have hne : m.mode ≠ .top := by simp [hm]
  refine (safe_read h).bind fun ⟨t, c⟩ ht => ?_
  have herror := ht.ne_error
  dsimp only at ht herror ⊢
  split
  case h_1 hk | h_4 hk => exact going_of_taken ht (by simp [hk])
  case h_2 => exact safe_closeCommand hne (Cursor.ready_of_pending ht.pending) ht.left_le
  case h_3 hk =>
    have hk : t.kind ≠ .eof := by simp [hk]
    split
    · exact going_of_taken ht hk
    split
    · refine safe_peek ht hk fun u c' hu hback => ?_
      dsimp only
      split
      case h_1 | h_2 | h_3 => exact hback.bind fun b hb => going_of_lt hb.1 hb.2
      case h_4 => exact safe_throw nofun
    · exact going_of_taken ht hk
  case h_5 hk | h_6 hk =>
    have hk : t.kind ≠ .eof := by simp [hk]
    split
    · exact going_of_taken ht hk
    -- the next header: nothing is used up, but the loop is left
    · refine (safe_putBack ht (Nat.zero_lt_of_lt (ht.left_lt hk))).bind fun b hb => ?_
      exact safe_closeCommand hne hb.1 hb.2
  case h_7 hk =>
    have hk : t.kind ≠ .eof := by simp [hk]
    split
    · exact going_of_taken ht hk
    · refine safe_peek ht hk fun u c' hu hback => ?_
      dsimp only
      split
      case h_1 | h_2 | h_3 => exact hback.bind fun b hb => going_of_lt hb.1 hb.2
      case h_4 => exact safe_throw nofun
  case h_8 hk => exact absurd hk herror

theorem safe_step (h : m.cursor.Ready) : Safe (Going m) (step m) := by
  unfold step
  split
  case h_1 => exact safe_stepTop h
  case h_2 hm => exact safe_stepTopComment hm h
  case h_3 => exact safe_stepHeader h
  case h_4 => exact safe_stepHeaderComment h
  case h_5 hm => exact safe_stepBody hm h

theorem advances_of_step (h : m.cursor.Ready) (hs : step m = .ok (some m')) : Advances m m' := by
  have hgoing := safe_step h
  rw [hs] at hgoing
  exact hgoing m' rfl

/-! ### The whole walk -/

theorem Advances.trans {m₁ m₂ m₃ : Machine} (h : Advances m₁ m₂) (h' : Advances m₂ m₃) :
    Advances m₁ m₃ := by
  refine ⟨h'.ready, Nat.le_trans h'.left_le h.left_le, ?_⟩
  rintro (htop | hne)
  · exact Nat.lt_of_le_of_lt h'.left_le (h.left_lt (.inl htop))
  · exact Nat.lt_of_lt_of_le (h'.left_lt (.inr hne)) h.left_le

instance : Trans Advances Advances Advances := ⟨Advances.trans⟩

/-- The steps lead from the machine through the others, one after the other, to a machine that halts
or to an error. -/
inductive Walks : Machine → List Machine → Except ParseError Machine → Prop
  | halts {m : Machine} (h : step m = .ok none) : Walks m [] (.ok m)
  | fails {m : Machine} {e : ParseError} (h : step m = .error e) : Walks m [] (.error e)
  | goes {m m' : Machine} {ms : List Machine} {r : Except ParseError Machine}
    (h : step m = .ok (some m')) (hw : Walks m' ms r) : Walks m (m' :: ms) r

theorem exists_walks (m : Machine) : ∃ ms, Walks m ms m.run := by
  rw [run]
  split
  next h => exact ⟨[], .fails h⟩
  next h => exact ⟨[], .halts h⟩
  next m' h =>
    have hlt := weight_step_lt h
    obtain ⟨ms, hw⟩ := exists_walks m'
    exact ⟨m' :: ms, .goes h hw⟩
  termination_by m.weight

variable {ms : List Machine} {r : Except ParseError Machine}

theorem Walks.isChain (hw : Walks m ms r) (h : m.cursor.Ready) :
    (m :: ms).IsChain Advances := by
  induction hw with
  | halts | fails => exact .singleton _
  | goes hs _ ih =>
    have hadv := advances_of_step h hs
    exact .cons_cons hadv (ih hadv.ready)

theorem Walks.ready (hw : Walks m ms r) (h : m.cursor.Ready) : ∀ m' ∈ m :: ms, m'.cursor.Ready :=
  List.forall_mem_cons.mpr
    ⟨h, fun _ hm => (List.rel_of_pairwise_cons (hw.isChain h).pairwise hm).ready⟩

theorem Walks.safe (hw : Walks m ms r) (h : m.cursor.Ready) : Safe (fun _ => True) r := by
  induction hw with
  | halts => trivial
  | fails hs =>
    have hsafe := safe_step h
    rw [hs] at hsafe
    exact hsafe
  | goes hs _ ih => exact ih (advances_of_step h hs).ready

theorem Advances.left_lt_of_loop (h : Advances m m') (hl : m.mode.loop = m'.mode.loop) :
    m'.cursor.tokensLeft < m.cursor.tokensLeft := by
  -- back between commands, the loop is the same only if it was left from there
  refine h.left_lt (or_iff_not_imp_right.mpr fun htop => ?_)
  rw [not_not.mp htop] at hl
  cases hm : m.mode with
  | top => rfl
  | _ => rw [hm] at hl; cases hl

theorem safe_ofMachine (m : Machine) : Safe (fun _ => True) (ofMachine m) := by
  unfold ofMachine
  split
  · intro h
    cases h
  split
  next e he =>
    rintro rfl
    cases isGuardFault_of_tableFault he
  · trivial

/-- From every text the machine walks to an end, and it is never stuck: no token is put back while
another is pending, and no step meets an error token. Whenever it is in the same loop again, fewer
tokens are left than before. The tokens of the text are read in order, and past the one that ends
them the end of the text is read for ever. -/
theorem run_halts (text : Text) :
    (∃ ms, Walks (ofText text) ms (ofText text).run ∧
      (∀ m ∈ ofText text :: ms, step m ≠ .error .stuck) ∧
      (ofText text :: ms).Pairwise (fun m m' => m.mode.loop = m'.mode.loop →
        m'.cursor.tokensLeft < m.cursor.tokensLeft) ∧
      ∀ m ∈ ofText text :: ms, ∀ n ≥ m.cursor.tokensLeft,
        read (m.cursor.after n) = .ok (⟨.eof, []⟩, m.cursor.after n)) ∧
    parse text ≠ .error .stuck ∧
    ∃ ts last, (Lexer.ofText text).tokens = ts ++ [last] ∧ (∀ t ∈ ts, t.IsLexeme) ∧
      (last.kind = .eof ∨ last.kind = .error) ∧
      ∀ n, ((Cursor.ofText text).after n).read.1 = (ts ++ [last]).getD n ⟨.eof, []⟩ := by
  have h : (ofText text).cursor.Ready := Cursor.ready_of_pending rfl
  obtain ⟨ms, hw⟩ := exists_walks (ofText text)
  refine ⟨⟨ms, hw, fun m hm => ?_, ?_, fun m _ n hn => ?_⟩, ?_, ?_⟩
  · exact ne_stuck_of_safe (safe_step (hw.ready h m hm))
  · exact (hw.isChain h).pairwise.imp Advances.left_lt_of_loop
  · exact read_of_tokens_eq_nil (by rw [Cursor.tokens_after, List.drop_eq_nil_of_le hn])
  · exact ne_stuck_of_safe ((hw.safe h).bind fun m _ => safe_ofMachine m)
  · obtain ⟨ts, last, heq, hts, hlast⟩ := Lexer.exists_tokens_eq (.ofText text) rfl
    refine ⟨ts, last, heq, hts, hlast, fun n => ?_⟩
    rw [Cursor.read_after, ← heq]
    rfl

end Machine

end Rollout.Upfile
