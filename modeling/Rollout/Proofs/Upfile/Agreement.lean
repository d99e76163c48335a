import Rollout.Proofs.Upfile.Steps

/-!
The machine reads what the lines declare. It is between two lines just when the grammar is
(`Reading.mode`), a line takes both to the same place or to the same error (`readCode_yields`), and
so do all lines of a text (`readLines_yields`).
-/

namespace Rollout.Upfile

open Machine

variable {cs : Dict Command} {f : Option Text} {x : Except ParseError Upfile} {name : Text}
  {command : Command} {line after c : Text}

/-! ### Tokens up to the end of a line -/

/-- What holds of the start of a line and of the end of a line holds of what is left of the text. -/
theorem head?_append_atLineEnd {p : Char → Prop} (hl : ∀ d ∈ line.head?, p d) (ha : AtLineEnd after)
    (hp : ∀ d, isLineEnd d = true → p d) : ∀ d ∈ (line ++ after).head?, p d := by
  cases line with
  | nil => exact fun d hd => hp d (ha d hd)
  | cons a line => exact hl

theorem lexes_spaces_append {s : Text} (hs : ∀ d ∈ s, d = ' ') (hl : line.head? ≠ some ' ')
    (ha : AtLineEnd after) :
    Lexes (' ' :: (s ++ line) ++ after) ⟨.space, ' ' :: s⟩ (line ++ after) := by
  have h : ∀ d ∈ (line ++ after).head?, d ≠ ' ' :=
    head?_append_atLineEnd (fun d hd h => hl (h ▸ hd)) ha fun d hd h =>
      by subst h; exact absurd hd (by decide)
  have hr : (line ++ after).head? ≠ some ' ' := fun hd => h ' ' hd rfl
  simpa using lexes_spaces hs hr

theorem lexes_word_append {w : Text} (hw : IsWord w) (hl : ∀ d ∈ line.head?, isInked d = false)
    (ha : AtLineEnd after) : Lexes (w ++ line ++ after) ⟨wordKind w, w⟩ (line ++ after) := by
  rw [List.append_assoc]
  refine lexes_word hw (head?_append_atLineEnd (fun d hd => ?_) ha fun d hd => ?_)
  · exact Bool.eq_false_iff.mpr fun h => by simpa [hl d hd] using (isWordChar_iff.mp h).1
  · exact Bool.eq_false_iff.mpr fun h => by simpa [hd] using (isWordChar_iff.mp h).2.1

/-- Code that does not start with a space starts with a tab or a word. -/
theorem Cut.nextKind (h : Cut line c) (ha : AtLineEnd after) (hc : c ≠ [])
    (hl : line.head? ≠ some ' ') :
    ∃ k, NextKind (line ++ after) k ∧ (k = .tab ∨ k = .text ∨ k = .inventory) := by
  cases h with
  | nil | comment => exact absurd rfl hc
  | spaces => exact absurd rfl hl
  | tab => exact ⟨.tab, nextKind_of_lexes (lexes_tab _), .inl rfl⟩
  | @word w line c hw hlw h =>
    exact ⟨wordKind w, nextKind_of_lexes (lexes_word_append hw hlw ha), .inr (wordKind_eq w)⟩

/-! ### The machine in a line -/

/-- A header is read up to the end of its line. -/
theorem header_line {guards : List Text} (h : Cut line c) (ha : AtLineEnd after)
    (hs : '\t' ∈ c → x = .error (.strayInHeader ['\t'] name))
    (hl : '\t' ∉ c → after = [] → x = .error (.unexpectedEnd name))
    (hy : '\t' ∉ c → after ≠ [] →
      Yields (.body name ⟨guards ++ words c, []⟩ false []) cs f after x) :
    Yields (.header name guards) cs f (line ++ after) x := by
  induction h generalizing guards with
  | nil =>
    cases after with
    | nil => exact hl (by simp) rfl ▸ header_nil
    | cons d rest => exact header_end (ha d rfl) (by simpa [words_nil] using hy (by simp) (by simp))
  | comment hcs =>
    refine header_comment (lexes_comment hcs ha) ?_
    cases after with
    | nil => exact hl (by simp) rfl ▸ headerComment_nil
    | cons d rest =>
      exact headerComment_end (ha d rfl) (by simpa [words_nil] using hy (by simp) (by simp))
  | @spaces s line c hss hls h ih =>
    have hm : '\t' ∈ ' ' :: (s ++ c) ↔ '\t' ∈ c := by
      have : '\t' ∉ s := fun h => absurd (hss _ h) (by decide)
      simp [this]
    rw [hm] at hs hl hy
    have hw : words (' ' :: (s ++ c)) = words c :=
      words_spaces (s := ' ' :: s) (List.forall_mem_cons.mpr ⟨rfl, hss⟩) c
    exact header_space (lexes_spaces_append hss hls ha) (ih hs hl (hw ▸ hy))
  | tab h ih => exact hs (List.mem_cons_self ..) ▸ header_tab (lexes_tab _)
  | @word w line c hw hlw h ih =>
    have hm : '\t' ∈ w ++ c ↔ '\t' ∈ c := by
      have : '\t' ∉ w := fun h => absurd (hw.isInked _ h) (by decide)
      simp [this]
    rw [hm] at hs hl hy
    refine header_word (lexes_word_append hw hlw ha) (ih hs hl fun ht hne => ?_)
    have hc : ∀ d ∈ c.head?, d = ' ' := fun d hd => by
      have hb := hlw d (h.head?.elim (fun h => by rw [h] at hd; cases hd) (fun h => h ▸ hd))
      have : d ≠ '\t' := fun h => ht (h ▸ List.mem_of_mem_head? hd)
      simpa [isInked, this] using hb
    have := hy ht hne
    rwa [words_word hw.ne_nil hw.isInked hc, List.append_cons] at this

/-- An indented line is a line of the command, without the blanks at its end. -/
theorem indented_line {line c read : Text} (h : Cut line c) (ha : AtLineEnd after)
    (ht : read ≠ [] ∨ c.head? ≠ some '\t')
    (hy : Yields (.body name (addLine command (read ++ c)) false []) cs f after x) :
    Yields (.body name command true read) cs f (line ++ after) x := by
  induction h generalizing read with
  | nil => exact body_end ha (by simpa using hy)
  | comment hcs => exact body_comment (lexes_comment hcs ha) (body_end ha (by simpa using hy))
  | @spaces s line c hs hl h ih =>
    exact body_spaces (lexes_spaces_append hs hl ha) (ih (.inl (by simp)) (by simpa using hy))
  | tab h ih =>
    have hr : read ≠ [] := ht.resolve_right (by simp)
    exact body_innerTab (lexes_tab _) hr (ih (.inl (by simp)) (by simpa using hy))
  | @word w line c hw hl h ih =>
    exact body_word (lexes_word_append hw hl ha)
      (ih (.inl (by simp [hw.ne_nil])) (by simpa using hy))

/-- A line of tabs is no line of the command. -/
theorem tabs_line : ∀ {line : Text},
    (∀ d ∈ line, d = '\t') → AtLineEnd after → Yields (.body name command false []) cs f after x →
    Yields (.body name command true []) cs f (line ++ after) x
  | [], _, ha, hy => body_end ha hy
  | _ :: [], ht, ha, hy => by
    obtain rfl := ht _ (List.mem_cons_self ..)
    have hy : Yields (.body name command true []) cs f after x := body_end ha hy
    rcases nextKind_lineEnd ha with hk | hk
    · exact body_tabs (lexes_tab _) hk (.inl rfl) hy
    · exact body_tabs (lexes_tab _) hk (.inr (.inl rfl)) hy
  | _ :: b :: line, ht, ha, hy => by
    obtain ⟨rfl, hl⟩ := List.forall_mem_cons.mp ht
    obtain rfl := hl b (List.mem_cons_self ..)
    exact body_tabs (lexes_tab _) (nextKind_of_lexes (lexes_tab _)) (.inr (.inr rfl))
      (tabs_line hl ha hy)

/-- A second tab with anything else after it is one tab too many. -/
theorem doubleIndent_line (h : Cut line c) (ha : AtLineEnd after) (hd : ∃ d ∈ line, d ≠ '\t') :
    Yields (.body name command true []) cs f ('\t' :: line ++ after)
      (.error (.doubleIndent name)) := by
  induction h with
  | nil => simp at hd
  | comment hcs =>
    exact body_doubleIndent (lexes_tab _) (nextKind_of_lexes (lexes_comment hcs ha)) (.inl rfl)
  | spaces hs hl h =>
    exact body_doubleIndent (lexes_tab _) (nextKind_of_lexes (lexes_spaces_append hs hl ha))
      (.inr (.inl rfl))
  | @tab line c h ih =>
    have hd : ∃ d ∈ line, d ≠ '\t' := by simpa using hd
    exact body_tabs (lexes_tab _) (nextKind_of_lexes (lexes_tab _)) (.inr (.inr rfl)) (ih hd)
  | word hw hl h =>
    exact body_doubleIndent (lexes_tab _) (nextKind_of_lexes (lexes_word_append hw hl ha))
      (.inr (.inr (wordKind_eq _)))

/-! ### The machine and the grammar -/

/-- What the machine is in between two lines. -/
def Reading.mode (r : Reading) : Mode :=
  match r.current with
  | none => .top
  | some (name, command) => .body name command false []

variable {r : Reading} {k : Reading → Except ParseError Upfile}

/-- Reading a header closes the command before it and leaves the new one open. -/
theorem header_yields {w : Text} {commands : Dict Command} (hr : r.close = .ok commands)
    (hw : IsWord w) (hl : ∀ d ∈ line.head?, isInked d = false) (h : Cut line c)
    (ha : AtLineEnd after)
    (hk : ∀ r', r.header (w ++ c) after.isEmpty = .ok r' →
      Yields r'.mode r'.commands r'.first after (k r')) :
    Yields .top commands r.first (w ++ line ++ after) (r.header (w ++ c) after.isEmpty >>= k) := by
  have hc : ∀ d ∈ c.head?, isInked d = false := fun d hd =>
    hl d (h.head?.elim (fun h => by rw [h] at hd; cases hd) (fun h => h ▸ hd))
  have htake : (w ++ c).takeWhile isInked = w := takeWhile_append_of_head hw.isInked hc
  have hdrop : (w ++ c).dropWhile isInked = c := dropWhile_append_of_head hw.isInked hc
  have ht : '\t' ∈ w ++ c ↔ '\t' ∈ c := by
    have : '\t' ∉ w := fun h => absurd (hw.isInked _ h) (by decide)
    simp [this]
  unfold Reading.header at hk ⊢
  simp only [hr, htake, hdrop, ht, ok_bind] at hk ⊢
  refine top_word (lexes_word_append hw hl ha) (fun hi => by rw [if_pos hi]; rfl)
    (fun hi hd => by rw [if_neg hi, if_pos hd]; rfl) fun hi hd => ?_
  rw [if_neg hi, if_neg (by simp [hd])] at hk ⊢
  refine header_line h ha (fun ht => by rw [if_pos ht]; rfl)
    (fun ht hl => by rw [if_neg ht, if_pos (by simp [hl])]; rfl) fun ht hne => ?_
  rw [if_neg ht, if_neg (by simp [hne])] at hk ⊢
  exact hk _ rfl

/-- A line of a body takes the machine to where it takes the command. -/
theorem bodyLine_yields {k : Command → Except ParseError Upfile} (h : Cut line c)
    (ha : AtLineEnd after)
    (hk : ∀ command', Reading.bodyLine name command ('\t' :: line) c = .ok command' →
      Yields (.body name command' false []) cs f after (k command')) :
    Yields (.body name command true []) cs f (line ++ after)
      (Reading.bodyLine name command ('\t' :: line) c >>= k) := by
  unfold Reading.bodyLine at hk ⊢
  by_cases hc : c = []
  · rw [if_pos (.inl hc)] at hk ⊢
    exact indented_line h ha (.inr (by simp [hc])) (by simpa [hc, addLine_nil] using hk _ rfl)
  by_cases ht : ∀ d ∈ line, d = '\t'
  · rw [if_pos (.inr (by simpa using ht))] at hk ⊢
    exact tabs_line ht ha (hk _ rfl)
  rw [if_neg (not_or.mpr ⟨hc, by simpa using ht⟩)] at hk ⊢
  by_cases hd : c.head? = some '\t'
  · rw [if_pos hd]
    cases h with
    | nil | comment | spaces => simp at hd
    | tab h => exact doubleIndent_line h ha (by simpa using ht)
    | @word w line c hw hl h =>
      obtain ⟨a, w', rfl⟩ := List.exists_cons_of_ne_nil hw.ne_nil
      obtain rfl : a = '\t' := by simpa using hd
      exact absurd (hw.isInked _ (List.mem_cons_self ..)) (by decide)
  · rw [if_neg hd] at hk ⊢
    exact indented_line h ha (.inr hd) (hk _ rfl)

/-- Code that starts with a word is a header. -/
theorem readCode_inked {a : Char} {last : Bool} (ha : isInked a = true) :
    r.readCode line (a :: c) last = r.header (a :: c) last := by
  have ha : a ≠ ' ' ∧ a ≠ '\t' := by simpa [isInked] using ha
  unfold Reading.readCode
  rw [if_neg (by simp [ha.1])]
  split
  · next h _ => exact absurd (List.cons.inj h).1 ha.2
  · next h _ => exact absurd (List.cons.inj h).1 ha.1
  · next h _ => exact absurd (List.cons.inj h).1 ha.1
  · next h _ => exact absurd (List.cons.inj h).1 ha.2
  · rfl

theorem readCode_word {w : Text} {last : Bool} (hw : IsWord w) :
    r.readCode line (w ++ c) last = r.header (w ++ c) last := by
  obtain ⟨a, w', rfl⟩ := List.exists_cons_of_ne_nil hw.ne_nil
  exact readCode_inked (hw.isInked a (List.mem_cons_self ..))

/-- Code that does not start with a space is blank only if it is empty. -/
theorem Cut.all_spaces {s : Text} (h : Cut line c) (hl : line.head? ≠ some ' ')
    (hs : ∀ d ∈ s, d = ' ') : (' ' :: (s ++ c)).all (· = ' ') = true ↔ c = [] := by
  constructor
  · intro hall
    cases c with
    | nil => rfl
    | cons a c =>
      have ha : a = ' ' := by simp at hall; exact hall.2.1
      exact absurd ((h.head?.resolve_left (by simp)).symm.trans (congrArg some ha)) hl
  · rintro rfl
    simpa using hs

theorem Cut.of_nil (h : Cut line c) (hc : c = []) :
    line = [] ∨ ∃ cs, line = '#' :: cs ∧ ∀ d ∈ cs, isLineEnd d = false := by
  cases h with
  | nil => exact .inl rfl
  | @comment cs hcs => exact .inr ⟨cs, rfl, hcs⟩
  | spaces | tab => cases hc
  | word hw hl h => exact absurd (List.append_eq_nil_iff.mp hc).1 hw.ne_nil

theorem takeWhile_spaces {s : Text} (h : Cut line c) (hl : line.head? ≠ some ' ')
    (hs : ∀ d ∈ s, d = ' ') : (s ++ c).takeWhile (· = ' ') = s :=
  takeWhile_append_of_head (by simpa using hs) fun d hd => decide_eq_false fun he => by
    subst he
    exact h.head?.elim (fun h => by rw [h] at hd; cases hd) fun h => hl (h.symm.trans hd)

theorem readCode_blank {last : Bool} (h : c.all (· = ' ') = true) :
    r.readCode line c last = .ok r :=
  if_pos h

theorem readCode_spaces {last : Bool} (h : ¬ (' ' :: c).all (· = ' ') = true) :
    r.readCode line (' ' :: c) last = .error (match r.current with
      | none => .indentedHeader (' ' :: c.takeWhile (· = ' '))
      | some (name, _) => .spaceIndent name) := by
  obtain ⟨cs, f, _ | ⟨name, command⟩⟩ := r <;> exact if_neg h

theorem readCode_tab {last : Bool} :
    Reading.readCode ⟨cs, f, some (name, command)⟩ line ('\t' :: c) last =
      Reading.bodyLine name command line c >>= fun command' => .ok ⟨cs, f, some (name, command')⟩ :=
  rfl

/-- A line takes the machine to where it takes the grammar, before the first header. -/
theorem yields_top (h : Cut line c) (ha : AtLineEnd after)
    (hk : ∀ r', Reading.readCode ⟨cs, f, none⟩ line c after.isEmpty = .ok r' →
      Yields r'.mode r'.commands r'.first after (k r')) :
    Yields .top cs f (line ++ after)
      (Reading.readCode ⟨cs, f, none⟩ line c after.isEmpty >>= k) := by
  cases h with
  | nil => exact hk _ rfl
  | comment hcs => exact top_comment (lexes_comment hcs ha) (topComment_end ha (hk _ rfl))
  | @spaces s line c hs hl h =>
    have ht := lexes_spaces_append hs hl ha
    have hall := h.all_spaces hl hs
    by_cases hc : c = []
    · rw [readCode_blank (hall.mpr hc)] at hk ⊢
      rcases h.of_nil hc with rfl | ⟨cs', rfl, hcs⟩
      · exact top_blank ht ha (hk _ rfl)
      · exact top_blankComment ht (lexes_comment hcs ha) (topComment_end ha (hk _ rfl))
    · obtain ⟨k', hk', hkind⟩ := h.nextKind ha hc hl
      rw [readCode_spaces (mt hall.mp hc), takeWhile_spaces h hl hs]
      exact top_space ht hk' hkind
  | tab h => exact top_tab (lexes_tab _)
  | @word w line c hw hlw h =>
    rw [readCode_word hw] at hk ⊢
    exact header_yields rfl hw hlw h ha hk

/-- A line takes the machine to where it takes the grammar, after a header. -/
theorem yields_body (h : Cut line c) (ha : AtLineEnd after)
    (hk : ∀ r', Reading.readCode ⟨cs, f, some (name, command)⟩ line c after.isEmpty = .ok r' →
      Yields r'.mode r'.commands r'.first after (k r')) :
    Yields (.body name command false []) cs f (line ++ after)
      (Reading.readCode ⟨cs, f, some (name, command)⟩ line c after.isEmpty >>= k) := by
  cases h with
  | nil => exact hk _ rfl
  | comment hcs => exact body_comment (lexes_comment hcs ha) (body_end ha (hk _ rfl))
  | @spaces s line c hs hl h =>
    have ht := lexes_spaces_append hs hl ha
    have hall := h.all_spaces hl hs
    by_cases hc : c = []
    · rw [readCode_blank (hall.mpr hc)] at hk ⊢
      have hk := hk _ rfl
      rcases h.of_nil hc with rfl | ⟨cs', rfl, hcs⟩
      · rcases nextKind_lineEnd ha with hk' | hk'
        · exact body_blank ht hk' (.inl rfl) hk
        · exact body_blank ht hk' (.inr (.inl rfl)) hk
      · have hcomment := lexes_comment hcs ha
        exact body_blank ht (nextKind_of_lexes hcomment) (.inr (.inr rfl))
          (body_comment hcomment (body_end ha hk))
    · obtain ⟨k', hk', hkind⟩ := h.nextKind ha hc hl
      rw [readCode_spaces (mt hall.mp hc)]
      exact body_space ht hk' hkind
  | @tab line c h =>
    rw [readCode_tab] at hk ⊢
    refine body_indent (lexes_tab _) ?_
    have hb := bodyLine_yields (k := fun command' => k ⟨cs, f, some (name, command')⟩) h ha
      fun command' hc => hk ⟨cs, f, some (name, command')⟩ (by rw [hc, ok_bind])
    revert hb
    cases Reading.bodyLine name command ('\t' :: line) c <;> exact id
  | @word w line c hw hlw h =>
    rw [readCode_word hw] at hk ⊢
    -- the word closes the command, and only then is it read as the next header
    refine body_close (lexes_word_append hw hlw ha) (fun hl => ?_) fun hl => ?_
    · have hclose : Reading.close ⟨cs, f, some (name, command)⟩ = .error (.nothingToRun name) :=
        if_pos hl
      rw [Reading.header, hclose]
      rfl
    · exact header_yields (r := ⟨cs, f, some (name, command)⟩) (if_neg hl) hw hlw h ha hk

/-- A line takes the machine to where it takes the grammar. -/
theorem readCode_yields (h : Cut line c) (ha : AtLineEnd after)
    (hk : ∀ r', r.readCode line c after.isEmpty = .ok r' →
      Yields r'.mode r'.commands r'.first after (k r')) :
    Yields r.mode r.commands r.first (line ++ after) (r.readCode line c after.isEmpty >>= k) := by
  obtain ⟨cs, f, _ | ⟨name, command⟩⟩ := r
  · exact yields_top h ha hk
  · exact yields_body h ha hk

/-! ### All lines -/

theorem sourceLines_of_forall {line : Text} (hl : ∀ d ∈ line, isLineEnd d = false) :
    sourceLines line = [line] :=
  List.splitOnP_eq_singleton hl

theorem sourceLines_append {line : Text} (hl : ∀ d ∈ line, isLineEnd d = false) {d : Char}
    (hd : isLineEnd d = true) (rest : Text) :
    sourceLines (line ++ d :: rest) = line :: sourceLines rest :=
  List.splitOnP_append_cons_of_forall_mem hl d hd rest

/-- What is left to do at the end of the text, once the last command is closed. -/
theorem finish_of_close {r : Reading} (hr : r.close = .ok cs) (place : Cursor) :
    r.finish = ofMachine ⟨.top, place, cs, r.first⟩ := by
  rw [Reading.finish, hr, ok_bind, ofMachine]
  cases r.first with
  | none => rfl
  | some first => cases tableFault cs <;> rfl

/-- At the end of the text the machine is left with what the grammar has read. -/
theorem finish_yields (r : Reading) :
    Yields r.mode r.commands r.first [] r.finish := fun offset => by
  obtain ⟨cs, f, _ | ⟨name, command⟩⟩ := r
  · exact (outcome_eof (read_nil offset)).trans (finish_of_close rfl _).symm
  · have hstep : step ⟨.body name command false [], .before offset [], cs, f⟩ = _ :=
      step_body_nil ..
    by_cases hl : command.lines = []
    · have hclose : Reading.close ⟨cs, f, some (name, command)⟩ = .error (.nothingToRun name) :=
        if_pos hl
      rw [Reading.finish, hclose]
      exact outcome_of_error (hstep.trans (if_pos hl))
    · rw [finish_of_close (r := ⟨cs, f, some (name, command)⟩) (if_neg hl)]
      exact (outcome_of_step (hstep.trans (if_neg hl))).trans (outcome_eof rfl)

/-- The end of a line changes nothing between two lines. -/
theorem lineEnd_yields {d : Char} {rest : Text} (hd : isLineEnd d = true)
    (hy : Yields r.mode r.commands r.first rest x) :
    Yields r.mode r.commands r.first (d :: rest) x := by
  obtain ⟨cs, f, _ | ⟨name, command⟩⟩ := r
  · exact top_newline hd hy
  · exact body_newline hd hy

/-- A text starts with a line that reaches up to the first end of a line. -/
theorem exists_line (text : Text) :
    ∃ line after, text = line ++ after ∧ (∀ d ∈ line, isLineEnd d = false) ∧ AtLineEnd after :=
  ⟨text.takeWhile (fun d => !isLineEnd d), text.dropWhile (fun d => !isLineEnd d),
    List.takeWhile_append_dropWhile.symm, fun d hd => by simpa using mem_takeWhile hd,
    fun d hd => by simpa using head?_dropWhile d hd⟩

/-- The machine goes through the lines that are left as the grammar does. -/
theorem readLines_yields (text : Text) (r : Reading)
    (hn : ∀ line ∈ sourceLines text, '\x00' ∉ code line) :
    Yields r.mode r.commands r.first text (r.readLines (sourceLines text) >>= Reading.finish) := by
  obtain ⟨line, after, rfl, hl, ha⟩ := exists_line text
  cases after with
  | nil =>
    rw [List.append_nil, sourceLines_of_forall hl] at hn
    have h := cut_code line hl (hn line (List.mem_cons_self ..))
    have hy := readCode_yields (r := r) (k := Reading.finish) h ha fun r' _ => finish_yields r'
    rw [List.append_nil] at hy ⊢
    rw [sourceLines_of_forall hl, Reading.readLines, bind_assoc]
    exact hy
  | cons d rest =>
    rw [sourceLines_append hl (ha d rfl)] at hn
    have h := cut_code line hl (hn line (List.mem_cons_self ..))
    have hlast : (sourceLines rest).isEmpty = (d :: rest).isEmpty := by simp [sourceLines]
    rw [sourceLines_append hl (ha d rfl), Reading.readLines, bind_assoc, hlast]
    refine readCode_yields h ha fun r' _ => lineEnd_yields (ha d rfl) ?_
    exact readLines_yields rest r' fun l hl => hn l (List.mem_cons_of_mem _ hl)
  termination_by text.length

/-- An Upfile is what its lines declare: without NULs before the comments, the machine gives the
table, or the error, that reading line by line gives. -/
theorem parse_eq_declared {t : Text} (h : ∀ line ∈ sourceLines t, '\x00' ∉ code line) :
    parse t = declared t :=
  readLines_yields t .start h 0

/-- A text with comments, blank lines and a guard that is declared after the command it guards. -/
def installing : Text :=
  "# all\ninstall built #x\n\tcp a#b /bin  #c\n  \n\t\t\r\tsync\nbuilt\n\ttest -e a#b \n"

theorem parse_eq_declared_installing : (∀ line ∈ sourceLines installing, '\x00' ∉ code line) ∧
    parse installing = .ok
      ⟨.ofList [("install".toList, ⟨["built".toList], ["cp a#b /bin".toList, "sync".toList]⟩),
        ("built".toList, ⟨[], ["test -e a#b".toList]⟩)], "install".toList⟩ := by
  have h : ∀ line ∈ sourceLines installing, '\x00' ∉ code line := by decide +kernel
  exact ⟨h, (parse_eq_declared h).trans rfl⟩

end Rollout.Upfile
