import Rollout.Proofs.Dict
import Rollout.Proofs.Upfile.Steps

/-!
The Upfiles that can be written down (`WellFormed`), and that no text declares another one
(`wellFormed_of_parse`). Every token that the machine reads fits its kind, so each line of a body is
a draft of a line that can be written, and what has been read stays sound from step to step
(`sound_step`).
-/

namespace Rollout.Upfile

/-! ### What can be written -/

/-- A name that can be written as the first word of a header. -/
structure IsName (name : Text) : Prop where
  /-- It has a character. -/
  ne_nil : name ≠ []
  /-- No character ends the word or the line, or is a NUL. -/
  chars : ∀ c ∈ name, c ≠ ' ' ∧ c ≠ '\t' ∧ c ≠ '\r' ∧ c ≠ '\n' ∧ c ≠ '\x00'
  /-- It does not start a comment. -/
  head_ne : name.head? ≠ some '#'
  /-- It is not the keyword of inventories. -/
  ne_keyword : name ≠ "inventory".toList

/-- A line that can be written after a tab. -/
structure IsLine (line : Text) : Prop where
  /-- It has a character. -/
  ne_nil : line ≠ []
  /-- No character ends the line or is a NUL. -/
  chars : ∀ c ∈ line, c ≠ '\r' ∧ c ≠ '\n' ∧ c ≠ '\x00'
  /-- There is no second tab in front of it. -/
  head_ne : line.head? ≠ some '\t'
  /-- No blank ends it. -/
  getLast_not_blank : ∀ c ∈ line.getLast?, Text.isBlank c = false
  /-- There is no `#` at its start or right after a space or a tab. -/
  no_comment : line.head? ≠ some '#' ∧ ¬ [' ', '#'] <:+: line ∧ ¬ ['\t', '#'] <:+: line

/-- An Upfile that can be written down. -/
structure WellFormed (u : Upfile) : Prop where
  /-- The default is a command. -/
  default_mem : u.defaultName ∈ u.commands.keys
  /-- Every name can be written. -/
  isName : ∀ name c, u.get? name = some c → IsName name
  /-- Every guard is the name of another command. -/
  guards : ∀ name c, u.get? name = some c → ∀ g ∈ c.guards, g ≠ name ∧ g ∈ u.commands.keys
  /-- Every command has a line. -/
  lines_ne_nil : ∀ name c, u.get? name = some c → c.lines ≠ []
  /-- Every line can be written. -/
  isLine : ∀ name c, u.get? name = some c → ∀ line ∈ c.lines, IsLine line

theorem codeFrom_true_eq_self {t : Text} :
    codeFrom true t = t ↔ t.head? ≠ some '#' ∧ codeFrom false t = t := by
  constructor
  · intro h
    have hh : t.head? ≠ some '#' := by
      rintro hh
      obtain ⟨cs, rfl⟩ := List.head?_eq_some_iff.mp hh
      simp [codeFrom] at h
    exact ⟨hh, codeFrom_of_head hh true false ▸ h⟩
  · rintro ⟨hh, h⟩
    rw [codeFrom_of_head hh true false, h]

theorem codeFrom_false_eq_self : ∀ t : Text,
    codeFrom false t = t ↔ ¬ [' ', '#'] <:+: t ∧ ¬ ['\t', '#'] <:+: t
  | [] => by simp [codeFrom]
  | c :: cs => by
    have ih := codeFrom_false_eq_self cs
    have hcons (d : Char) :
        [d, '#'] <:+: c :: cs ↔ (c = d ∧ cs.head? = some '#') ∨ [d, '#'] <:+: cs := by
      rw [List.infix_cons_iff, List.cons_prefix_cons]
      cases cs <;> grind
    have hstep : codeFrom false (c :: cs) = c :: codeFrom (c = ' ' || c = '\t') cs := by
      simp [codeFrom]
    rw [hstep, hcons, hcons, List.cons_inj_right]
    cases hb : (decide (c = ' ') || decide (c = '\t')) with
    | true =>
      rw [codeFrom_true_eq_self, ih]
      grind
    | false =>
      rw [ih]
      grind

/-- Code without a comment has no `#` where a comment could start. -/
theorem code_eq_self_iff {t : Text} :
    code t = t ↔ t.head? ≠ some '#' ∧ ¬ [' ', '#'] <:+: t ∧ ¬ ['\t', '#'] <:+: t := by
  rw [code, codeFrom_true_eq_self, codeFrom_false_eq_self]

/-- Code after code is code. -/
theorem codeFrom_append {u t : Text} (ht : code t = t) :
    ∀ b : Bool, codeFrom b u = u → codeFrom b (u ++ t) = u ++ t := by
  induction u with
  | nil =>
    intro b _
    have := (codeFrom_true_eq_self.mp ht).1
    exact (codeFrom_of_head this b true).trans ht
  | cons c u ih =>
    intro b h
    unfold codeFrom at h
    rw [List.cons_append, codeFrom]
    split at h
    · cases h
    · next hc => rw [if_neg hc, ih _ (List.cons.inj h).2]

/-! ### Tokens that fit their kinds -/

/-- What the text of a token is, for its kind. -/
def Token.Fits (t : Token) : Prop :=
  match t.kind with
  | .space => t.text ≠ [] ∧ ∀ d ∈ t.text, d = ' '
  | .tab => t.text = ['\t']
  | .text | .inventory => IsWord t.text ∧ t.kind = wordKind t.text
  | _ => True

/-- What is read from a text fits. -/
theorem Token.IsLexeme.fits {t : Token} (ht : t.IsLexeme) : t.Fits := by
  cases ht with
  | space hs => exact ⟨by simp, List.forall_mem_cons.mpr ⟨rfl, hs⟩⟩
  | tab => rfl
  | newline | comment => trivial
  | text hw hk => exact ⟨hw, (if_neg hk).symm⟩
  | inventory => exact ⟨isWord_inventory, rfl⟩

/-- What is read fits, if what was put back does. -/
theorem fits_of_read {c c' : Cursor} {t : Token} (hp : ∀ t ∈ c.pending, t.Fits)
    (h : Machine.read c = .ok (t, c')) : t.Fits ∧ ∀ t ∈ c'.pending, t.Fits := by
  obtain ⟨hr, hk⟩ := Machine.read_eq_ok h
  unfold Cursor.read at hr
  split at hr
  · next hpend => cases hr; exact ⟨hp _ hpend, by simp⟩
  next hpend =>
  split at hr
  · next hn =>
    cases hr
    refine ⟨?_, by simp⟩
    unfold Lexer.next at hn
    split at hn
    · cases hn
    split at hn
    · cases hn; trivial
    split at hn
    · cases hn; exact absurd rfl hk
    · next hc =>
      cases hn
      obtain ⟨_, -, ht, -⟩ := isLexeme_longest _ hc
      exact ht.fits
  · cases hr
    exact ⟨trivial, hp⟩

theorem fits_of_putBack {c c' : Cursor} {t : Token} (ht : t.Fits)
    (h : Machine.putBack t c = .ok c') : ∀ t ∈ c'.pending, t.Fits := by
  unfold Machine.putBack at h
  split at h
  · next hp =>
    cases h
    unfold Cursor.putBack at hp
    split at hp
    · cases hp
    · cases hp
      intro t' h
      cases h
      exact ht
  · cases h

/-! ### Drafts of lines -/

/-- What has been read of a line of a body so far. -/
structure IsDraft (line : Text) : Prop where
  /-- No character ends the line or is a NUL. -/
  chars : ∀ c ∈ line, isLineEnd c = false ∧ c ≠ '\x00'
  /-- There is no second tab in front of it. -/
  head_ne : line.head? ≠ some '\t'
  /-- There is no comment in it. -/
  code_eq : code line = line

variable {line : Text}

theorem isDraft_nil : IsDraft [] := ⟨by simp, by simp, rfl⟩

/-- A draft goes on with code. -/
theorem IsDraft.append {t : Text} (hd : IsDraft line)
    (hc : ∀ c ∈ t, isLineEnd c = false ∧ c ≠ '\x00') (hh : line ≠ [] ∨ t.head? ≠ some '\t')
    (ht : code t = t) : IsDraft (line ++ t) := by
  refine ⟨fun c hm => (List.mem_append.mp hm).elim (hd.chars c) (hc c), ?_,
    codeFrom_append ht true hd.code_eq⟩
  cases line with
  | nil => exact hh.resolve_left (by simp)
  | cons a line => exact hd.head_ne

theorem IsDraft.append_tab (hd : IsDraft line) (hne : line ≠ []) : IsDraft (line ++ ['\t']) :=
  hd.append (by simp [isLineEnd]) (.inl hne) rfl

theorem IsDraft.append_space {t : Token} (hd : IsDraft line) (ht : t.Fits) (hk : t.kind = .space) :
    IsDraft (line ++ t.text) := by
  simp only [Token.Fits, hk] at ht
  refine hd.append (fun c hc => by rw [ht.2 c hc]; decide) (.inr fun h => ?_) ?_
  · exact absurd (ht.2 _ (List.mem_of_mem_head? h)) (by decide)
  · have h : code (t.text ++ []) = t.text ++ [] := codeFrom_spaces ht.2 []
    rwa [List.append_nil] at h

theorem Token.Fits.isWord {t : Token} (ht : t.Fits) (hk : t.kind = .text ∨ t.kind = .inventory) :
    IsWord t.text ∧ t.kind = wordKind t.text := by
  rcases hk with hk | hk <;> rw [Token.Fits, hk] at ht <;> exact ⟨ht.1, hk.trans ht.2⟩

theorem IsDraft.append_word {t : Token} (hd : IsDraft line) (ht : t.Fits)
    (hk : t.kind = .text ∨ t.kind = .inventory) : IsDraft (line ++ t.text) := by
  have hw := (ht.isWord hk).1
  refine hd.append (fun c hc => (isWordChar_iff.mp (hw.isWordChar c hc)).2) (.inr fun h => ?_) ?_
  · exact absurd (hw.isInked _ (List.mem_of_mem_head? h)) (by decide)
  · have h : code (t.text ++ []) = t.text ++ [] :=
      code_inked hw.ne_nil hw.head_ne hw.isInked (by simp)
    rwa [List.append_nil] at h

/-- A draft without the blanks at its end is a line, if anything is left. -/
theorem IsDraft.isLine (hd : IsDraft line) (hne : Text.trimEnd line ≠ []) :
    IsLine (Text.trimEnd line) := by
  have hp := Text.isPrefix_trimEnd line
  have hhead : (Text.trimEnd line).head? = line.head? := by
    obtain ⟨rest, hr⟩ := hp
    obtain ⟨a, t, ht⟩ := List.exists_cons_of_ne_nil hne
    have hline : line = a :: t ++ rest := hr.symm.trans (by rw [ht])
    rw [ht, hline]
    rfl
  obtain ⟨hh, hs, ht⟩ := code_eq_self_iff.mp hd.code_eq
  refine ⟨hne, fun c hc => ?_, hhead ▸ hd.head_ne, fun c hc => Text.getLast?_trimEnd hc,
    hhead ▸ hh, fun h => hs (h.trans hp.isInfix), fun h => ht (h.trans hp.isInfix)⟩
  obtain ⟨hl, hn⟩ := hd.chars c (hp.subset hc)
  have : c ≠ '\n' ∧ c ≠ '\r' := by simpa [isLineEnd] using hl
  exact ⟨this.2, this.1, hn⟩

/-! ### What has been read is sound -/

/-- Every command can be written, but for its guards, which may be declared later. -/
def Known (commands : Dict Command) : Prop :=
  ∀ name c, commands.get? name = some c → IsName name ∧ c.lines ≠ [] ∧ ∀ line ∈ c.lines, IsLine line

/-- What is known of the command that is being read, and of the first name, which is its name or
that of a command. -/
def Mode.Sound (commands : Dict Command) (first : Option Text) : Mode → Prop
  | .top | .topComment => ∀ f ∈ first, f ∈ commands.keys
  | .header name _ | .headerComment name _ =>
    IsName name ∧ ∀ f ∈ first, f = name ∨ f ∈ commands.keys
  | .body name command _ line =>
    (IsName name ∧ ∀ f ∈ first, f = name ∨ f ∈ commands.keys) ∧ (∀ l ∈ command.lines, IsLine l) ∧
      IsDraft line

/-- All that the machine has read can be written. -/
structure Machine.Sound (m : Machine) : Prop where
  /-- A token that was put back fits its kind. -/
  pending : ∀ t ∈ m.cursor.pending, t.Fits
  /-- The commands that are complete can be written. -/
  known : Known m.commands
  /-- So can what has been read of the next one. -/
  mode : m.mode.Sound m.commands m.first

/-- A command with a name and lines that can be written may be added. -/
theorem Known.insert {commands : Dict Command} {name : Text} {c : Command} (hk : Known commands)
    (hn : IsName name) (hne : c.lines ≠ []) (hl : ∀ line ∈ c.lines, IsLine line) :
    Known (commands.insert name c) := fun f c' h => by
  rw [Dict.get?_insert] at h
  split at h
  · next hf => cases h; exact ⟨hf ▸ hn, hne, hl⟩
  · exact hk f c' h

/-- A draft adds a line that can be written, or nothing. -/
theorem isLine_addLine {command : Command} (hl : ∀ l ∈ command.lines, IsLine l)
    (hd : IsDraft line) : ∀ l ∈ (Machine.addLine command line).lines, IsLine l := by
  unfold Machine.addLine
  split
  · exact hl
  · next hne =>
    intro l h
    rcases List.mem_append.mp h with h | h
    · exact hl l h
    · exact List.mem_singleton.mp h ▸ hd.isLine hne

theorem IsWord.isName {w : Text} (hw : IsWord w) (hk : wordKind w = .text) : IsName w := by
  refine ⟨hw.ne_nil, fun c hc => ?_, hw.head_ne, fun h => ?_⟩
  · obtain ⟨hi, he, hn⟩ := isWordChar_iff.mp (hw.isWordChar c hc)
    have hi : c ≠ ' ' ∧ c ≠ '\t' := by simpa [Upfile.isInked] using hi
    have he : c ≠ '\n' ∧ c ≠ '\r' := by simpa [isLineEnd] using he
    exact ⟨hi.1, hi.2, he.2, he.1, hn⟩
  · rw [wordKind, if_pos h] at hk
    cases hk

namespace Machine

variable {m m' : Machine} {name : Text} {guards : List Text} {command : Command} {indented : Bool}

/-- Closing a command keeps the machine sound. -/
theorem sound_closeCommand {c : Cursor} (hp : ∀ t ∈ c.pending, t.Fits) (hk : Known m.commands)
    (hn : IsName name) (hf : ∀ f ∈ m.first, f = name ∨ f ∈ m.commands.keys)
    (hl : ∀ l ∈ command.lines, IsLine l) (h : closeCommand m name command c = .ok (some m')) :
    m'.Sound := by
  unfold closeCommand at h
  split at h
  · cases h
  · next hne =>
    cases h
    exact ⟨hp, hk.insert hn hne hl, fun f h => Dict.mem_keys_insert.mpr (hf f h)⟩

theorem sound_stepTop (hs : m.Sound) (hm : m.mode = .top) (h : stepTop m = .ok (some m')) :
    m'.Sound := by
  obtain ⟨⟨t, c⟩, hr, h⟩ := bind_eq_ok h
  obtain ⟨ht, hc⟩ := fits_of_read hs.pending hr
  have hf : ∀ f ∈ m.first, f ∈ m.commands.keys := by
    have := hs.mode
    rwa [hm] at this
  dsimp only at h
  split at h
  case h_1 => cases h
  case h_2 => cases h; exact ⟨hc, hs.known, hs.mode⟩
  case h_3 => cases h; exact ⟨hc, hs.known, hf⟩
  case h_4 =>
    obtain ⟨⟨u, c₁⟩, hr₁, h⟩ := bind_eq_ok h
    obtain ⟨hu, hc₁⟩ := fits_of_read hc hr₁
    dsimp only at h
    split at h
    case h_1 | h_2 =>
      obtain ⟨c₂, hp, h⟩ := bind_eq_ok h
      cases h
      exact ⟨fits_of_putBack hu hp, hs.known, hs.mode⟩
    case h_3 => cases h; exact ⟨hc₁, hs.known, hf⟩
    case h_4 => cases h
  case h_5 hk =>
    obtain ⟨m₁, ho, h⟩ := bind_eq_ok h
    cases h
    obtain ⟨hw, hkw⟩ := ht.isWord (.inl hk)
    unfold openCommand at ho
    split at ho
    · cases ho
    · cases ho
      refine ⟨hc, hs.known, hw.isName (hkw ▸ hk), fun f h => ?_⟩
      obtain rfl := Option.some.inj h
      cases hfirst : m.first with
      | none => exact .inl rfl
      | some first => exact .inr (hf first hfirst)
  case h_6 | h_7 | h_8 => cases h

theorem sound_stepTopComment (hs : m.Sound) (hm : m.mode = .topComment)
    (h : stepTopComment m = .ok (some m')) : m'.Sound := by
  obtain ⟨⟨t, c⟩, hr, h⟩ := bind_eq_ok h
  obtain ⟨ht, hc⟩ := fits_of_read hs.pending hr
  have hf : ∀ f ∈ m.first, f ∈ m.commands.keys := by
    have := hs.mode
    rwa [hm] at this
  dsimp only at h
  split at h
  case h_1 | h_2 => cases h; exact ⟨hc, hs.known, hf⟩
  case h_3 => cases h; exact ⟨hc, hs.known, hs.mode⟩

theorem sound_stepHeader (hs : m.Sound) (hm : m.mode = .header name guards)
    (h : stepHeader m name guards = .ok (some m')) : m'.Sound := by
  obtain ⟨⟨t, c⟩, hr, h⟩ := bind_eq_ok h
  obtain ⟨ht, hc⟩ := fits_of_read hs.pending hr
  have hn : IsName name ∧ ∀ f ∈ m.first, f = name ∨ f ∈ m.commands.keys := by
    have := hs.mode
    rwa [hm] at this
  dsimp only at h
  split at h
  case h_1 | h_2 | h_5 => cases h; exact ⟨hc, hs.known, hn⟩
  case h_3 => cases h; exact ⟨hc, hs.known, hs.mode⟩
  case h_4 => cases h; exact ⟨hc, hs.known, hn, by simp, isDraft_nil⟩
  case h_6 | h_7 => cases h

theorem sound_stepHeaderComment (hs : m.Sound) (hm : m.mode = .headerComment name guards)
    (h : stepHeaderComment m name guards = .ok (some m')) : m'.Sound := by
  obtain ⟨⟨t, c⟩, hr, h⟩ := bind_eq_ok h
  obtain ⟨ht, hc⟩ := fits_of_read hs.pending hr
  have hn : IsName name ∧ ∀ f ∈ m.first, f = name ∨ f ∈ m.commands.keys := by
    have := hs.mode
    rwa [hm] at this
  dsimp only at h
  split at h
  case h_1 => cases h; exact ⟨hc, hs.known, hn, by simp, isDraft_nil⟩
  case h_2 => cases h
  case h_3 => cases h; exact ⟨hc, hs.known, hs.mode⟩

theorem sound_stepBody (hs : m.Sound) (hm : m.mode = .body name command indented line)
    (h : stepBody m name command indented line = .ok (some m')) : m'.Sound := by
  obtain ⟨⟨t, c⟩, hr, h⟩ := bind_eq_ok h
  obtain ⟨ht, hc⟩ := fits_of_read hs.pending hr
  obtain ⟨hn, hl, hd⟩ : (IsName name ∧ ∀ f ∈ m.first, f = name ∨ f ∈ m.commands.keys) ∧
      (∀ l ∈ command.lines, IsLine l) ∧ IsDraft line := by
    have := hs.mode
    rwa [hm] at this
  dsimp only at h
  -- the cases are the kinds of tokens in the order of `stepBody`
  split at h
  case h_1 => cases h; exact ⟨hc, hs.known, hn, isLine_addLine hl hd, isDraft_nil⟩
  case h_2 => exact sound_closeCommand hc hs.known hn.1 hn.2 (isLine_addLine hl hd) h
  case h_3 hk =>
    -- the first tab indents the line, a second one is looked past, and one inside is part of it
    split at h
    · cases h; exact ⟨hc, hs.known, hn, hl, hd⟩
    split at h
    · obtain ⟨⟨u, c₁⟩, hr₁, h⟩ := bind_eq_ok h
      obtain ⟨hu, hc₁⟩ := fits_of_read hc hr₁
      dsimp only at h
      split at h
      case h_1 | h_2 | h_3 =>
        obtain ⟨c₂, hp, h⟩ := bind_eq_ok h
        cases h
        exact ⟨fits_of_putBack hu hp, hs.known, hs.mode⟩
      case h_4 => cases h
    · next hne =>
      cases h
      have htext : t.text = ['\t'] := by simpa only [Token.Fits, hk] using ht
      exact ⟨hc, hs.known, hn, hl, htext ▸ hd.append_tab hne⟩
  case h_4 => cases h; exact ⟨hc, hs.known, hs.mode⟩
  case h_5 hk | h_6 hk =>
    split at h
    · cases h; exact ⟨hc, hs.known, hn, hl, hd.append_word ht (by simp [hk])⟩
    · obtain ⟨c₁, hp, h⟩ := bind_eq_ok h
      exact sound_closeCommand (fits_of_putBack ht hp) hs.known hn.1 hn.2 hl h
  case h_7 hk =>
    split at h
    · cases h; exact ⟨hc, hs.known, hn, hl, hd.append_space ht hk⟩
    · obtain ⟨⟨u, c₁⟩, hr₁, h⟩ := bind_eq_ok h
      obtain ⟨hu, hc₁⟩ := fits_of_read hc hr₁
      dsimp only at h
      split at h
      case h_1 | h_2 | h_3 =>
        obtain ⟨c₂, hp, h⟩ := bind_eq_ok h
        cases h
        exact ⟨fits_of_putBack hu hp, hs.known, hs.mode⟩
      case h_4 => cases h
  case h_8 => cases h

/-- What has been read stays sound in every step. -/
theorem sound_step (hs : m.Sound) (h : step m = .ok (some m')) : m'.Sound := by
  unfold step at h
  split at h
  case h_1 hm => exact sound_stepTop hs hm h
  case h_2 hm => exact sound_stepTopComment hs hm h
  case h_3 hm => exact sound_stepHeader hs hm h
  case h_4 hm => exact sound_stepHeaderComment hs hm h
  case h_5 hm => exact sound_stepBody hs hm h

theorem closeCommand_ne_none {c : Cursor} : closeCommand m name command c ≠ .ok none := by
  unfold closeCommand
  split <;> simp

/-- The machine stops between commands. -/
theorem mode_of_step_eq_none (h : step m = .ok none) : m.mode = .top := by
  -- every step in another mode goes on or fails
  unfold step at h
  split at h
  case h_1 hm => exact hm
  case h_2 | h_3 | h_4 =>
    obtain ⟨⟨t, c⟩, -, h⟩ := bind_eq_ok h
    dsimp only at h
    split at h <;> cases h
  case h_5 =>
    obtain ⟨⟨t, c⟩, -, h⟩ := bind_eq_ok h
    dsimp only at h
    split at h
    case h_1 | h_4 | h_8 => cases h
    case h_2 => exact absurd h closeCommand_ne_none
    case h_3 =>
      split at h
      · cases h
      split at h
      · obtain ⟨⟨u, c₁⟩, -, h⟩ := bind_eq_ok h
        dsimp only at h
        split at h
        case h_1 | h_2 | h_3 => obtain ⟨c₂, -, h⟩ := bind_eq_ok h; cases h
        case h_4 => cases h
      · cases h
    case h_5 | h_6 =>
      split at h
      · cases h
      · obtain ⟨c₁, -, h⟩ := bind_eq_ok h
        exact absurd h closeCommand_ne_none
    case h_7 =>
      split at h
      · cases h
      · obtain ⟨⟨u, c₁⟩, -, h⟩ := bind_eq_ok h
        dsimp only at h
        split at h
        case h_1 | h_2 | h_3 => obtain ⟨c₂, -, h⟩ := bind_eq_ok h; cases h
        case h_4 => cases h

/-- What has been read to the end is sound. -/
theorem sound_run {m m' : Machine} (hs : m.Sound) (h : run m = .ok m') :
    m'.Sound ∧ m'.mode = .top := by
  rw [run] at h
  split at h
  · cases h
  · next hm => cases h; exact ⟨hs, mode_of_step_eq_none hm⟩
  · next hm =>
    have := weight_step_lt hm
    exact sound_run (sound_step hs hm) h
  termination_by m.weight

theorem sound_ofText (t : Text) : (ofText t).Sound :=
  ⟨fun _ h => by simp [ofText, Cursor.ofText] at h, fun _ _ h => by simp [ofText] at h,
    fun _ h => by simp [ofText] at h⟩

end Machine

/-- No guard of a command is bad if each one names another command. -/
theorem guardFault_eq_none_iff {commands : Dict Command} {name : Text} {guards : List Text} :
    guardFault commands name guards = none ↔ ∀ g ∈ guards, g ≠ name ∧ g ∈ commands.keys := by
  induction guards with
  | nil => simp [guardFault]
  | cons g gs ih =>
    rw [guardFault, List.forall_mem_cons, ← ih]
    split
    · next hg => simp [hg]
    · next hg =>
      split
      · next hc => simp [hg, Dict.contains_iff_mem_keys.mp hc]
      · next hc => simp [hg, mt Dict.contains_iff_mem_keys.mpr hc]

/-- No command has a bad guard if every guard names another command. -/
theorem tableFault_eq_none_iff {commands : Dict Command} : tableFault commands = none ↔
    ∀ name c, commands.get? name = some c → ∀ g ∈ c.guards, g ≠ name ∧ g ∈ commands.keys := by
  rw [tableFault, List.findSome?_eq_none_iff]
  constructor
  · exact fun h name c hc => guardFault_eq_none_iff.mp (h (name, c) (Dict.get?_eq_some_iff.mp hc))
  · exact fun h e he => guardFault_eq_none_iff.mpr (h e.1 e.2 (Dict.get?_eq_some_iff.mpr he))

/-- Whatever a text declares can be written. -/
theorem wellFormed_of_parse {t : Text} {u : Upfile} (h : parse t = .ok u) : u.WellFormed := by
  obtain ⟨m, hm, h⟩ := bind_eq_ok h
  obtain ⟨hs, hmode⟩ := Machine.sound_run (Machine.sound_ofText t) hm
  have hf : ∀ f ∈ m.first, f ∈ m.commands.keys := by
    have := hs.mode
    rwa [hmode] at this
  unfold ofMachine at h
  split at h
  · cases h
  next first hfirst =>
  split at h
  · cases h
  next hg =>
  cases h
  exact ⟨hf first hfirst, fun name c hc => (hs.known name c hc).1, tableFault_eq_none_iff.mp hg,
    fun name c hc => (hs.known name c hc).2.1, fun name c hc => (hs.known name c hc).2.2⟩

end Rollout.Upfile
