import Rollout.Proofs.Upfile.Tokens

/-!
What the machine makes of a text, token by token. A token that was put back is read again as if it
had never been read (`outcome_congr`), so the machine may always be taken to be between two tokens
of the text that is left (`Yields`).
-/

namespace Rollout.Upfile

namespace Machine

/-! ### From one step to the next -/

/-- What comes of a machine: the Upfile, or the first error. -/
def outcome (m : Machine) : Except ParseError Upfile := m.run >>= ofMachine

theorem outcome_of_step {m m' : Machine} (h : step m = .ok (some m')) : outcome m = outcome m' := by
  rw [outcome, run]
  split <;> simp_all [outcome]

theorem outcome_of_none {m : Machine} (h : step m = .ok none) : outcome m = ofMachine m := by
  rw [outcome, run]
  split <;> simp_all [bind, Except.bind]

theorem outcome_of_error {m : Machine} {e : ParseError} (h : step m = .error e) :
    outcome m = .error e := by
  rw [outcome, run]
  split <;> simp_all [bind, Except.bind]

/-- Machines that agree on what was read and take the same step come to the same. -/
theorem outcome_of_step_eq {m₁ m₂ : Machine} (h : step m₁ = step m₂)
    (hc : m₁.commands = m₂.commands) (hf : m₁.first = m₂.first) : outcome m₁ = outcome m₂ := by
  cases hs : step m₂ with
  | error e => rw [outcome_of_error hs, outcome_of_error (h.trans hs)]
  | ok m =>
    cases m with
    | none => rw [outcome_of_none hs, outcome_of_none (h.trans hs), ofMachine, ofMachine, hc, hf]
    | some m => rw [outcome_of_step hs, outcome_of_step (h.trans hs)]

theorem addLine_nil (command : Command) : addLine command [] = command := rfl

variable {mode mode' : Mode} {cs cs' : Dict Command} {f f' : Option Text}
  {x : Except ParseError Upfile} {e : ParseError} {name : Text} {command : Command}

/-- All that a step knows of the place in the text is the token it reads there. -/
theorem step_congr {c₁ c₂ : Cursor} (h : read c₁ = read c₂) :
    step ⟨mode, c₁, cs, f⟩ = step ⟨mode, c₂, cs, f⟩ := by
  cases mode <;>
    simp only [step, stepTop, stepTopComment, stepHeader, stepHeaderComment, stepBody, openCommand,
      closeCommand, h]

/-- Where the machine reads the same token, it comes to the same. -/
theorem outcome_congr {c₁ c₂ : Cursor} (h : read c₁ = read c₂) :
    outcome ⟨mode, c₁, cs, f⟩ = outcome ⟨mode, c₂, cs, f⟩ :=
  outcome_of_step_eq (step_congr h) rfl rfl

theorem read_eq_ok {c c' : Cursor} {t : Token} (h : read c = .ok (t, c')) :
    c.read = (t, c') ∧ t.kind ≠ .error := by
  unfold read at h
  split at h
  next he =>
    split at h
    · cases h
    · next hk => cases h; exact ⟨he, hk⟩

theorem pending_read (c : Cursor) (hp : c.pending = none) : c.read.2.pending = none := by
  unfold Cursor.read
  rw [hp]
  cases c.lexer.next with
  | none => exact hp
  | some p => rfl

/-- A token that was just read can be put back, and is then what is read next. -/
theorem read_putBack {c c' : Cursor} {t : Token} (hp : c.pending = none)
    (h : read c = .ok (t, c')) : ∃ c'', putBack t c' = .ok c'' ∧ read c'' = read c := by
  obtain ⟨hr, hk⟩ := read_eq_ok h
  have hp' : c'.pending = none := by
    have := pending_read c hp
    rwa [hr] at this
  have hc : (⟨none, c'.lexer⟩ : Cursor) = c' := by rw [← hp']
  refine ⟨⟨some t, c'.lexer⟩, by simp [putBack, Cursor.putBack, hp'], ?_⟩
  rw [h, read, Cursor.read]
  simp [hk, hc]

/-! ### Between two tokens -/

/-- This is what comes of the machine that has read so much and is in that mode before the text. -/
def Yields (mode : Mode) (commands : Dict Command) (first : Option Text) (text : Text)
    (x : Except ParseError Upfile) : Prop :=
  ∀ offset, outcome ⟨mode, .before offset text, commands, first⟩ = x

/-- A token of that kind is read next in the text. -/
def NextKind (text : Text) (k : TokenKind) : Prop :=
  ∀ offset, ∃ t c, t.kind = k ∧ read (.before offset text) = .ok (t, c)

/-- The end of the text is read in a place from which it can be read again. -/
theorem read_nil (offset : Nat) :
    read (.before offset []) = .ok (⟨.eof, []⟩, ⟨none, ⟨[], offset, true, none⟩⟩) := rfl

theorem nextKind_nil : NextKind [] .eof := fun offset => ⟨⟨.eof, []⟩, _, rfl, read_nil offset⟩

theorem nextKind_of_lexes {text rest : Text} {t : Token} (h : Lexes text t rest) :
    NextKind text t.kind := fun offset => by
  obtain ⟨offset', hr⟩ := h offset
  exact ⟨t, _, rfl, hr⟩

theorem nextKind_lineEnd {text : Text} (h : AtLineEnd text) :
    NextKind text .newline ∨ NextKind text .eof := by
  cases text with
  | nil => exact .inr nextKind_nil
  | cons d text => exact .inl (nextKind_of_lexes (lexes_lineEnd (h d rfl) text))

section Step

variable {text rest : Text} {t : Token} {k : TokenKind}

/-- A step that reads one token. -/
theorem Yields.of_step (ht : Lexes text t rest)
    (h : ∀ {c c'}, read c = .ok (t, c') → step ⟨mode, c, cs, f⟩ = .ok (some ⟨mode', c', cs', f'⟩))
    (hy : Yields mode' cs' f' rest x) : Yields mode cs f text x := fun offset => by
  obtain ⟨offset', hr⟩ := ht offset
  rw [outcome_of_step (h hr), hy]

/-- A step that fails for the token it reads. -/
theorem Yields.of_error (ht : Lexes text t rest)
    (h : ∀ {c c'}, read c = .ok (t, c') → step ⟨mode, c, cs, f⟩ = .error e) :
    Yields mode cs f text (.error e) := fun offset => by
  obtain ⟨offset', hr⟩ := ht offset
  exact outcome_of_error (h hr)

/-- A step that reads a token, and another one that it puts back. -/
theorem Yields.of_peek (ht : Lexes text t rest) (ha : NextKind rest k)
    (h : ∀ {c c' c'' b a}, read c = .ok (t, c') → a.kind = k → read c' = .ok (a, c'') →
      putBack a c'' = .ok b → step ⟨mode, c, cs, f⟩ = .ok (some ⟨mode', b, cs', f'⟩))
    (hy : Yields mode' cs' f' rest x) : Yields mode cs f text x := fun offset => by
  obtain ⟨offset', hr⟩ := ht offset
  obtain ⟨a, c, hk, hr'⟩ := ha offset'
  obtain ⟨b, hb, hb'⟩ := read_putBack rfl hr'
  rw [outcome_of_step (h hr hk hr' hb), outcome_congr hb', hy]

/-- A step that fails for the token after the next one. -/
theorem Yields.peek_error (ht : Lexes text t rest) (ha : NextKind rest k)
    (h : ∀ {c c' c'' a}, read c = .ok (t, c') → a.kind = k → read c' = .ok (a, c'') →
      step ⟨mode, c, cs, f⟩ = .error e) : Yields mode cs f text (.error e) := fun offset => by
  obtain ⟨offset', hr⟩ := ht offset
  obtain ⟨a, c, hk, hr'⟩ := ha offset'
  exact outcome_of_error (h hr hk hr')

/-! ### The end of a line -/

theorem outcome_eof {c c' : Cursor} (h : read c = .ok (⟨.eof, []⟩, c')) :
    outcome ⟨.top, c, cs, f⟩ = ofMachine ⟨.top, c, cs, f⟩ :=
  outcome_of_none (by simp [step, stepTop, h])

theorem top_newline {d : Char} (hd : isLineEnd d = true) (hy : Yields .top cs f rest x) :
    Yields .top cs f (d :: rest) x :=
  .of_step (lexes_lineEnd hd rest) (fun h => by simp [step, stepTop, h]) hy

theorem topComment_end (ha : AtLineEnd text) (hy : Yields .top cs f text x) :
    Yields .topComment cs f text x := by
  intro offset
  rw [← hy offset]
  cases text with
  | nil =>
    rw [outcome_eof rfl, outcome_of_step (by simp [step, stepTopComment, read_nil]; rfl),
      outcome_eof rfl]
    rfl
  | cons d text =>
    obtain ⟨offset', h⟩ := lexes_lineEnd (ha d rfl) text offset
    exact outcome_of_step_eq (by simp [step, stepTopComment, stepTop, h]) rfl rfl

theorem header_end {guards : List Text} {d : Char} (hd : isLineEnd d = true)
    (hy : Yields (.body name ⟨guards, []⟩ false []) cs f (d :: rest) x) :
    Yields (.header name guards) cs f (d :: rest) x := fun offset => by
  obtain ⟨offset', h⟩ := lexes_lineEnd hd rest offset
  rw [← hy offset]
  exact outcome_of_step_eq (by simp [step, stepHeader, stepBody, h, addLine_nil]) rfl rfl

theorem headerComment_end {guards : List Text} {d : Char} (hd : isLineEnd d = true)
    (hy : Yields (.body name ⟨guards, []⟩ false []) cs f (d :: rest) x) :
    Yields (.headerComment name guards) cs f (d :: rest) x := fun offset => by
  obtain ⟨offset', h⟩ := lexes_lineEnd hd rest offset
  rw [← hy offset]
  exact outcome_of_step_eq (by simp [step, stepHeaderComment, stepBody, h, addLine_nil]) rfl rfl

theorem step_body_nil (command : Command) (indented : Bool) (line : Text) (offset : Nat) :
    step ⟨.body name command indented line, .before offset [], cs, f⟩ =
      if (addLine command line).lines = [] then .error (.nothingToRun name)
      else .ok (some ⟨.top, ⟨none, ⟨[], offset, true, none⟩⟩,
        cs.insert name (addLine command line), f⟩) := rfl

/-- The end of a line ends a line of the body. -/
theorem body_end {indented : Bool} {line : Text} (ha : AtLineEnd text)
    (hy : Yields (.body name (addLine command line) false []) cs f text x) :
    Yields (.body name command indented line) cs f text x := fun offset => by
  rw [← hy offset]
  cases text with
  | nil => exact outcome_of_step_eq (by rw [step_body_nil, step_body_nil, addLine_nil]) rfl rfl
  | cons d text =>
    obtain ⟨offset', h⟩ := lexes_lineEnd (ha d rfl) text offset
    exact outcome_of_step_eq (by simp [step, stepBody, h, addLine_nil]) rfl rfl

/-! ### Headers -/

section Header

variable {guards : List Text} {w : Text}

theorem header_word (ht : Lexes text ⟨wordKind w, w⟩ rest)
    (hy : Yields (.header name (guards ++ [w])) cs f rest x) :
    Yields (.header name guards) cs f text x :=
  .of_step ht (fun h => by rcases wordKind_eq w with hk | hk <;> simp [step, stepHeader, h, hk]) hy

theorem header_space (ht : Lexes text ⟨.space, w⟩ rest)
    (hy : Yields (.header name guards) cs f rest x) : Yields (.header name guards) cs f text x :=
  .of_step ht (fun h => by simp [step, stepHeader, h]) hy

theorem header_comment (ht : Lexes text ⟨.comment, w⟩ rest)
    (hy : Yields (.headerComment name guards) cs f rest x) :
    Yields (.header name guards) cs f text x :=
  .of_step ht (fun h => by simp [step, stepHeader, h]) hy

/-- A tab has no place in a header. -/
theorem header_tab (ht : Lexes text ⟨.tab, w⟩ rest) :
    Yields (.header name guards) cs f text (.error (.strayInHeader w name)) :=
  .of_error ht fun h => by simp [step, stepHeader, h]

theorem header_nil :
    Yields (.header name guards) cs f [] (.error (.unexpectedEnd name)) := fun offset =>
  outcome_of_error (by simp [step, stepHeader, read_nil])

theorem headerComment_nil :
    Yields (.headerComment name guards) cs f [] (.error (.unexpectedEnd name)) := fun offset =>
  outcome_of_error (by simp [step, stepHeaderComment, read_nil])

end Header

/-! ### Between commands -/

section Top

variable {w w' : Text} {rest' : Text}

theorem top_comment (ht : Lexes text ⟨.comment, w⟩ rest) (hy : Yields .topComment cs f rest x) :
    Yields .top cs f text x :=
  .of_step ht (fun h => by simp [step, stepTop, h]) hy

theorem top_blank (ht : Lexes text ⟨.space, w⟩ rest) (ha : AtLineEnd rest)
    (hy : Yields .top cs f rest x) : Yields .top cs f text x := by
  rcases nextKind_lineEnd ha with hk | hk <;>
    exact .of_peek ht hk (fun h hk h' hb => by simp [step, stepTop, h, hk, h', hb]) hy

theorem top_blankComment (ht : Lexes text ⟨.space, w⟩ rest) (ha : Lexes rest ⟨.comment, w'⟩ rest')
    (hy : Yields .topComment cs f rest' x) : Yields .top cs f text x := fun offset => by
  obtain ⟨offset', h⟩ := ht offset
  obtain ⟨offset'', h'⟩ := ha offset'
  rw [← hy offset'']
  exact outcome_of_step (by simp [step, stepTop, h, h'])

theorem top_space (ht : Lexes text ⟨.space, w⟩ rest) (ha : NextKind rest k)
    (hk : k = .tab ∨ k = .text ∨ k = .inventory) :
    Yields .top cs f text (.error (.indentedHeader w)) :=
  .peek_error ht ha fun h ha h' => by
    rcases hk with rfl | rfl | rfl <;> simp [step, stepTop, h, h', ha]

theorem top_tab (ht : Lexes text ⟨.tab, w⟩ rest) :
    Yields .top cs f text (.error (.indentedHeader w)) :=
  .of_error ht fun h => by simp [step, stepTop, h]

/-- A word opens a command, whose name must be new and not the keyword. -/
theorem top_word (ht : Lexes text ⟨wordKind w, w⟩ rest)
    (hi : w = "inventory".toList → x = .error .inlineInventory)
    (hd : w ≠ "inventory".toList → cs.contains w = true → x = .error (.duplicateCommand w))
    (hy : w ≠ "inventory".toList → cs.contains w = false →
      Yields (.header w []) cs (some (f.getD w)) rest x) :
    Yields .top cs f text x := by
  by_cases hw : w = "inventory".toList
  · rw [hi hw]
    exact .of_error ht fun h => by simp [step, stepTop, h, wordKind, hw]
  · have hk : wordKind w = .text := if_neg hw
    cases hc : cs.contains w with
    | true =>
      rw [hd hw hc]
      exact .of_error ht fun h => by simp [step, stepTop, h, hk, openCommand, hc]
    | false =>
      exact .of_step ht (fun h => by simp [step, stepTop, h, hk, openCommand, hc]) (hy hw hc)

end Top

/-! ### Bodies -/

section Body

variable {line w : Text}

theorem body_newline {d : Char} (hd : isLineEnd d = true)
    (hy : Yields (.body name command false []) cs f rest x) :
    Yields (.body name command false []) cs f (d :: rest) x :=
  .of_step (lexes_lineEnd hd rest) (fun h => by simp [step, stepBody, h, addLine_nil]) hy

theorem body_comment {indented : Bool} (ht : Lexes text ⟨.comment, w⟩ rest)
    (hy : Yields (.body name command indented line) cs f rest x) :
    Yields (.body name command indented line) cs f text x :=
  .of_step ht (fun h => by simp [step, stepBody, h]) hy

/-- A word that is not indented ends the body and is read again between commands. -/
theorem body_close (ht : Lexes text ⟨wordKind w, w⟩ rest)
    (hl : command.lines = [] → x = .error (.nothingToRun name))
    (hy : command.lines ≠ [] → Yields .top (cs.insert name command) f text x) :
    Yields (.body name command false []) cs f text x := fun offset => by
  obtain ⟨offset', h⟩ := ht offset
  -- the word goes back, so the next step reads it from the same text
  obtain ⟨b, hb, hb'⟩ := read_putBack rfl h
  by_cases hc : command.lines = []
  · rw [hl hc]
    refine outcome_of_error ?_
    rcases wordKind_eq w with hk | hk <;> rw [hk] at h hb <;>
      simp [step, stepBody, h, hb, closeCommand, hc]
  · refine (outcome_of_step ?_).trans ((outcome_congr hb').trans (hy hc offset))
    rcases wordKind_eq w with hk | hk <;> rw [hk] at h hb <;>
      simp [step, stepBody, h, hb, closeCommand, hc]

theorem body_blank (ht : Lexes text ⟨.space, w⟩ rest) (ha : NextKind rest k)
    (hk : k = .newline ∨ k = .eof ∨ k = .comment)
    (hy : Yields (.body name command false []) cs f rest x) :
    Yields (.body name command false []) cs f text x :=
  .of_peek ht ha (fun h ha h' hb => by
    rcases hk with rfl | rfl | rfl <;> simp [step, stepBody, h, ha, h', hb]) hy

theorem body_space (ht : Lexes text ⟨.space, w⟩ rest) (ha : NextKind rest k)
    (hk : k = .tab ∨ k = .text ∨ k = .inventory) :
    Yields (.body name command false []) cs f text (.error (.spaceIndent name)) :=
  .peek_error ht ha fun h ha h' => by
    rcases hk with rfl | rfl | rfl <;> simp [step, stepBody, h, h', ha]

theorem body_indent (ht : Lexes text ⟨.tab, w⟩ rest)
    (hy : Yields (.body name command true []) cs f rest x) :
    Yields (.body name command false []) cs f text x :=
  .of_step ht (fun h => by simp [step, stepBody, h]) hy

/-- A second tab says nothing as long as the line goes on with tabs or ends. -/
theorem body_tabs (ht : Lexes text ⟨.tab, w⟩ rest) (ha : NextKind rest k)
    (hk : k = .newline ∨ k = .eof ∨ k = .tab)
    (hy : Yields (.body name command true []) cs f rest x) :
    Yields (.body name command true []) cs f text x :=
  .of_peek ht ha (fun h ha h' hb => by
    rcases hk with rfl | rfl | rfl <;> simp [step, stepBody, h, ha, h', hb]) hy

/-- Two tabs in front of a word, a space or a comment are one too many. -/
theorem body_doubleIndent (ht : Lexes text ⟨.tab, w⟩ rest) (ha : NextKind rest k)
    (hk : k = .comment ∨ k = .space ∨ k = .text ∨ k = .inventory) :
    Yields (.body name command true []) cs f text (.error (.doubleIndent name)) :=
  .peek_error ht ha fun h ha h' => by rcases hk with
    rfl | rfl | rfl | rfl <;> simp [step, stepBody, h, h', ha]

theorem body_word (ht : Lexes text ⟨wordKind w, w⟩ rest)
    (hy : Yields (.body name command true (line ++ w)) cs f rest x) :
    Yields (.body name command true line) cs f text x :=
  .of_step ht (fun h => by rcases wordKind_eq w with hk | hk <;> simp [step, stepBody, h, hk]) hy

theorem body_spaces (ht : Lexes text ⟨.space, w⟩ rest)
    (hy : Yields (.body name command true (line ++ w)) cs f rest x) :
    Yields (.body name command true line) cs f text x :=
  .of_step ht (fun h => by simp [step, stepBody, h]) hy

theorem body_innerTab (ht : Lexes text ⟨.tab, w⟩ rest) (hl : line ≠ [])
    (hy : Yields (.body name command true (line ++ w)) cs f rest x) :
    Yields (.body name command true line) cs f text x :=
  .of_step ht (fun h => by simp [step, stepBody, h, hl]) hy

end Body

end Step

end Machine

end Rollout.Upfile
