import Mathlib.Data.List.TakeWhile
import Rollout.Proofs.Upfile.Faults
import Rollout.Proofs.Upfile.RoundTrip

/-!
Commands may be declared in any order (`parse_blocks`). The lines of a block, a header with the
lines up to the next one, do the same wherever it stands (`IsBlock.opens`): they close the command
before them and leave their own one open, with the guards and the lines to run that the block alone
determines (`declaration`).
-/

namespace Rollout.Upfile

/-! ### Blocks -/

/-- The line starts with a word. -/
def IsHeader (line : Text) : Prop := ∃ d ∈ line.head?, isInked d = true ∧ d ≠ '#'

instance : DecidablePred IsHeader
  | [] => .isFalse (by simp [IsHeader])
  | d :: _ => decidable_of_iff (isInked d = true ∧ d ≠ '#') (by simp [IsHeader])

/-- The line to run that a line of a body holds, if it holds one. -/
def bodyText (line : Text) : Option Text :=
  match code line with
  | '\t' :: text => if Text.trimEnd text = [] then none else some (Text.trimEnd text)
  | _ => none

/-- The command that a header and the lines after it declare, with its name. -/
def declaration (b : Text) : Text × Command :=
  match sourceLines b with
  | [] => ([], ⟨[], []⟩)
  | header :: others => ((code header).takeWhile isInked,
      ⟨words ((code header).dropWhile isInked), others.filterMap bodyText⟩)

/-- A header with the lines up to the next one. Nothing but a guard can keep it from being an Upfile
by itself. -/
structure IsBlock (b : Text) : Prop where
  ended : ∃ d ∈ b.getLast?, isLineEnd d = true
  header : ∃ line ∈ (sourceLines b).head?, IsHeader line
  others : ∀ line ∈ (sourceLines b).tail, ¬ IsHeader line
  sound : ∀ e, parse b = .error e → e.isGuardFault = true

variable {line c : Text} {name : Text} {command : Command}

theorem code_of_isHeader (h : IsHeader line) :
    ∃ a c, code line = a :: c ∧ isInked a = true := by
  obtain ⟨a, ha, hi, hh⟩ := h
  obtain ⟨cs, rfl⟩ := List.head?_eq_some_iff.mp ha
  exact ⟨a, _, by rw [code, codeFrom, if_neg (by simp [hh])], hi⟩

theorem head?_code (h : ¬ IsHeader line) : ∀ d ∈ (code line).head?, isInked d = false := by
  intro d hd
  cases line with
  | nil => cases hd
  | cons a cs =>
    rw [code, codeFrom] at hd
    split at hd
    · cases hd
    · next hh =>
      cases hd
      exact Bool.eq_false_iff.mpr fun hi => h ⟨_, rfl, hi, fun ha => hh ⟨rfl, ha⟩⟩

theorem trimEnd_of_all_tabs {text : Text} (h : text.all (· = '\t') = true) :
    Text.trimEnd text = [] := by
  rw [Text.trimEnd, List.reverse_eq_nil_iff, List.dropWhile_eq_nil_iff]
  intro d hd
  have : d = '\t' := by simpa using List.all_eq_true.mp h d (List.mem_reverse.mp hd)
  rw [this]
  rfl

/-- A line that is no header does the same wherever its command stands. -/
theorem readCode_other (h : ¬ IsHeader line) (name : Text) (command : Command) :
    (∃ e, ∀ cs f last, Reading.readCode ⟨cs, f, some (name, command)⟩ line (code line) last =
      .error e) ∨
    ∀ cs f last, Reading.readCode ⟨cs, f, some (name, command)⟩ line (code line) last =
      .ok ⟨cs, f, some (name, ⟨command.guards, command.lines ++ (bodyText line).toList⟩)⟩ := by
  have hhead := head?_code h
  cases hc : code line with
  | nil => exact .inr fun cs f last => by simp [readCode_blank (c := []) rfl, bodyText, hc]
  | cons a text =>
    rw [hc] at hhead
    have ha : a = ' ' ∨ a = '\t' := by
      have := hhead a rfl
      simpa [isInked, ← imp_iff_not_or, or_iff_not_imp_left] using this
    rcases ha with rfl | rfl
    -- a space in front is an error unless the line is blank, and a tab indents the line
    · by_cases hall : (' ' :: text).all (· = ' ') = true
      · exact .inr fun cs f last => by simp [readCode_blank hall, bodyText, hc]
      · exact .inl ⟨.spaceIndent name, fun cs f last => readCode_spaces hall⟩
    · simp only [readCode_tab, Reading.bodyLine]
      split
      · next hblank =>
        right
        intro cs f last
        have htrim : Text.trimEnd text = [] := by
          rcases hblank with rfl | hall
          · rfl
          · refine trimEnd_of_all_tabs (List.all_eq_true.mpr fun d hd => ?_)
            have hm : d ∈ line := (isPrefix_codeFrom true line).subset (by
              rw [← code, hc]
              exact List.mem_cons_of_mem _ hd)
            exact List.all_eq_true.mp hall d hm
        simp [bodyText, hc, htrim]
      · split
        · exact .inl ⟨_, fun cs f last => rfl⟩
        · right
          intro cs f last
          rw [ok_bind, bodyText, hc, Reading.appendLine]
          split <;> next htrim => simp [htrim]

theorem readLines_others (name : Text) : ∀ {lines : List Text},
    (∀ line ∈ lines, ¬ IsHeader line) → ∀ command : Command,
    (∃ e, ∀ cs f more, Reading.readLines ⟨cs, f, some (name, command)⟩ (lines ++ more) =
      .error e) ∨
    ∀ cs f more, Reading.readLines ⟨cs, f, some (name, command)⟩ (lines ++ more) =
      Reading.readLines
        ⟨cs, f, some (name, ⟨command.guards, command.lines ++ lines.filterMap bodyText⟩)⟩ more
  | [], _, command => .inr fun cs f more => by simp
  | line :: lines, h, command => by
    obtain ⟨hl, hls⟩ := List.forall_mem_cons.mp h
    rcases readCode_other hl name command with ⟨e, he⟩ | hok
    · exact .inl ⟨e, fun cs f more => by rw [List.cons_append, Reading.readLines, he, error_bind]⟩
    · rcases readLines_others name hls
        ⟨command.guards, command.lines ++ (bodyText line).toList⟩ with ⟨e, he⟩ | hoks
      · exact .inl ⟨e, fun cs f more => by
          rw [List.cons_append, Reading.readLines, hok, ok_bind, he]⟩
      · refine .inr fun cs f more => ?_
        rw [List.cons_append, Reading.readLines, hok, ok_bind, hoks]
        cases hb : bodyText line <;> simp [hb]

/-- The lines of a block. -/
def blockLines (b : Text) : List Text := (sourceLines b).dropLast

theorem IsBlock.sourceLines_append {b : Text} (h : IsBlock b) (t : Text) :
    sourceLines (b ++ t) = blockLines b ++ sourceLines t := by
  obtain ⟨d, hd, hend⟩ := h.ended
  have hb : b = b.dropLast ++ [d] := (List.dropLast_append_getLast? d hd).symm
  have hlines : sourceLines b = sourceLines b.dropLast ++ [[]] := by
    conv_lhs => rw [hb]
    exact List.splitOnP_append_cons b.dropLast [] hend
  rw [blockLines, hlines, List.dropLast_concat]
  conv_lhs => rw [hb]
  rw [List.append_assoc]
  exact List.splitOnP_append_cons b.dropLast t hend

/-- The lines of blocks are read one block after another. -/
theorem sourceLines_flatten : ∀ {blocks : List Text}, (∀ b ∈ blocks, IsBlock b) →
    sourceLines blocks.flatten = blocks.flatMap blockLines ++ [[]]
  | [], _ => rfl
  | b :: blocks, h => by
    obtain ⟨hb, hbs⟩ := List.forall_mem_cons.mp h
    rw [List.flatten_cons, hb.sourceLines_append, sourceLines_flatten hbs, List.flatMap_cons,
      List.append_assoc]

theorem IsBlock.nul_notMem_code {b : Text} (h : IsBlock b) :
    ∀ line ∈ sourceLines b, '\x00' ∉ code line :=
  (nulsInComments_of_parse h.sound).nul_notMem_code

/-- A header that can be read first can be read after other commands. -/
theorem header_of_ok {r r' : Reading} {cs : Dict Command} {last : Bool}
    (h : Reading.start.header c last = .ok r') (hr : r.close = .ok cs)
    (hc : cs.contains (c.takeWhile isInked) = false) :
    r.header c false = .ok ⟨cs, some (r.first.getD (c.takeWhile isInked)),
      some (c.takeWhile isInked, ⟨words (c.dropWhile isInked), []⟩)⟩ := by
  rw [Reading.header, show Reading.start.close = .ok .empty from rfl, ok_bind] at h
  dsimp only at h
  split at h
  · cases h
  next hkeyword =>
  split at h
  · cases h
  split at h
  · cases h
  next htab =>
  rw [Reading.header, hr, ok_bind]
  dsimp only
  rw [if_neg hkeyword, if_neg (by simp [hc]), if_neg htab]
  rfl

theorem IsBlock.exists_reading {b : Text} (h : IsBlock b) :
    ∃ r cs, Reading.start.readLines (sourceLines b) = .ok r ∧ r.close = .ok cs := by
  have hparse : parse b = Reading.start.readLines (sourceLines b) >>= Reading.finish :=
    readLines_yields b .start h.nul_notMem_code 0
  have hsound := h.sound
  have hlines := ensures_readLines (sourceLines b) .start
  cases hr : Reading.start.readLines (sourceLines b) with
  | error e =>
    rw [hr] at hlines hparse
    exact absurd (hsound e hparse) (by simp [show e.isGuardFault = false from hlines])
  | ok r =>
    have hclose := ensures_close r
    cases hc : r.close with
    | error e =>
      rw [hc] at hclose
      rw [hr, ok_bind, Reading.finish, hc, error_bind] at hparse
      exact absurd (hsound e hparse) (by simp [show e.isGuardFault = false from hclose])
    | ok cs => exact ⟨r, cs, rfl, hc⟩

theorem lines_ne_nil_of_close {cs cs' : Dict Command} {f : Option Text}
    (h : Reading.close ⟨cs, f, some (name, command)⟩ = .ok cs') : command.lines ≠ [] := fun hl => by
  have hclose : Reading.close ⟨cs, f, some (name, command)⟩ = .error (.nothingToRun name) :=
    if_pos hl
  rw [hclose] at h
  cases h

/-- A header and other lines that can be read by themselves open their command anywhere. -/
theorem opens_of_readLines {header : Text} {body : List Text} {r : Reading} {cs : Dict Command}
    (hheader : IsHeader header) (hbody : ∀ line ∈ body, ¬ IsHeader line)
    (hr : Reading.start.readLines (header :: body ++ [[]]) = .ok r) (hclose : r.close = .ok cs) :
    Opens (header :: body) ((code header).takeWhile isInked,
      ⟨words ((code header).dropWhile isInked), body.filterMap bodyText⟩) := by
  obtain ⟨a, c, hcode, ha⟩ := code_of_isHeader hheader
  have hfirst (r : Reading) (more : List Text) (hmore : more ≠ []) :
      r.readLines (header :: body ++ more) =
        (r.header (code header) false >>= (Reading.readLines · (body ++ more))) := by
    have hlast : (body ++ more).isEmpty = false := by simp [hmore]
    rw [List.cons_append, Reading.readLines, hlast, hcode, readCode_inked ha]
  rw [hfirst _ _ (by simp)] at hr
  obtain ⟨r', hheader, hr⟩ := bind_eq_ok hr
  have hstart := header_of_ok hheader (show Reading.start.close = .ok .empty from rfl) rfl
  obtain rfl := Except.ok.inj (hheader.symm.trans hstart)
  rcases readLines_others ((code header).takeWhile isInked) hbody
    ⟨words ((code header).dropWhile isInked), []⟩ with ⟨e, he⟩ | hok
  · rw [he] at hr
    cases hr
  · rw [hok] at hr
    obtain rfl := Except.ok.inj hr
    refine ⟨lines_ne_nil_of_close hclose, fun hr hc more hmore => ?_⟩
    rw [hfirst _ _ hmore, header_of_ok hheader hr hc, ok_bind, hok]
    rfl

/-- The lines of a block declare what it declares, wherever it stands. -/
theorem IsBlock.opens {b : Text} (h : IsBlock b) : Opens (blockLines b) (declaration b) := by
  have hlines : sourceLines b = blockLines b ++ [[]] := by
    simpa [sourceLines] using h.sourceLines_append []
  obtain ⟨header, hhead, hheader⟩ := h.header
  obtain ⟨r, cs, hr, hclose⟩ := h.exists_reading
  cases hb : blockLines b with
  | nil =>
    rw [hlines, hb] at hhead
    cases hhead
    obtain ⟨_, hd, -⟩ := hheader
    cases hd
  | cons first body =>
    rw [hb] at hlines
    rw [hlines] at hhead hr
    cases hhead
    have hothers : ∀ line ∈ body, ¬ IsHeader line := fun line hl =>
      h.others line (by simp [hlines, hl])
    have hdecl : declaration b = ((code header).takeWhile isInked,
        ⟨words ((code header).dropWhile isInked), body.filterMap bodyText⟩) := by
      rw [declaration, hlines]
      simp [bodyText, code, codeFrom]
    rw [hdecl]
    exact opens_of_readLines hheader hothers hr hclose

/-! ### Orders of blocks -/

theorem nul_notMem_code_flatten {blocks : List Text} (hb : ∀ b ∈ blocks, IsBlock b) :
    ∀ line ∈ sourceLines blocks.flatten, '\x00' ∉ code line := by
  intro line hl
  rw [sourceLines_flatten hb] at hl
  rcases List.mem_append.mp hl with hl | hl
  · obtain ⟨b, hm, hl⟩ := List.mem_flatMap.mp hl
    exact (hb b hm).nul_notMem_code line (List.dropLast_subset _ hl)
  · rw [List.mem_singleton.mp hl]
    nofun

/-- What comes of blocks: the commands that they declare, the first being the default, unless a
guard is bad. -/
theorem parse_flatten {first : Text} {blocks : List Text} (hb : ∀ b ∈ first :: blocks, IsBlock b)
    (hn : (((first :: blocks).map declaration).map (·.1)).Nodup) :
    parse (first :: blocks).flatten =
      match tableFault (.ofList ((first :: blocks).map declaration)) with
      | some e => .error e
      | none => .ok ⟨.ofList ((first :: blocks).map declaration), (declaration first).1⟩ := by
  obtain ⟨r, hr, hclose, hfirst⟩ := readLines_flatMap (r := .start) rfl
    (fun b h => (hb b h).opens) hn fun _ _ => rfl
  calc parse (first :: blocks).flatten
      = Reading.start.readLines (sourceLines (first :: blocks).flatten) >>= Reading.finish :=
        readLines_yields _ .start (nul_notMem_code_flatten hb) 0
    _ = r.finish := by rw [sourceLines_flatten hb, hr, ok_bind]
    _ = ofMachine ⟨.top, .before 0 [], _, r.first⟩ := finish_of_close hclose _
    _ = _ := by
      rw [ofMachine, hfirst]
      rfl

theorem ofList_eq_of_perm {es fs : List (Text × Command)} (hn : (es.map (·.1)).Nodup)
    (h : fs.Perm es) : Dict.ofList fs = Dict.ofList es :=
  Dict.ofList_eq_of_mem_iff ((h.map _).nodup_iff.mpr hn) fun _ _ =>
    h.mem_iff.trans (Dict.get?_ofList_eq_some_iff hn).symm

/-- Blocks with different names may stand in any order: either every order declares the commands
that the blocks declare, with the first of the order as the default, or every order has the same bad
guard. -/
theorem parse_blocks {blocks : List Text} (hne : blocks ≠ []) (hb : ∀ b ∈ blocks, IsBlock b)
    (hn : (blocks.map fun b => (declaration b).1).Nodup) :
    (∃ commands : Dict Command,
      (∀ name c, commands.get? name = some c ↔ ∃ b ∈ blocks, declaration b = (name, c)) ∧
      ∀ order : List Text, order.Perm blocks →
        ∃ b ∈ order.head?, parse order.flatten = .ok ⟨commands, (declaration b).1⟩) ∨
    ∃ e : ParseError, e.isGuardFault = true ∧
      ∀ order : List Text, order.Perm blocks → parse order.flatten = .error e := by
  have hn : ((blocks.map declaration).map (·.1)).Nodup := by rwa [List.map_map]
  have horder (order : List Text) (h : order.Perm blocks) :
      ∃ b ∈ order.head?, parse order.flatten =
        match tableFault (.ofList (blocks.map declaration)) with
        | some e => .error e
        | none => .ok ⟨.ofList (blocks.map declaration), (declaration b).1⟩ := by
    cases order with
    | nil => exact absurd h.nil_eq.symm hne
    | cons first others =>
      refine ⟨first, rfl, ?_⟩
      -- the table of commands, and with it the first bad guard, is the same in every order
      rw [← ofList_eq_of_perm hn (h.map declaration)]
      exact parse_flatten (fun b hm => hb b (h.mem_iff.mp hm))
        (((h.map declaration).map _).nodup_iff.mpr hn)
  cases hf : tableFault (.ofList (blocks.map declaration)) with
  | none =>
    refine .inl ⟨.ofList (blocks.map declaration), fun name c => ?_, fun order h => ?_⟩
    · rw [Dict.get?_ofList_eq_some_iff hn, List.mem_map]
    · simpa only [hf] using horder order h
  | some e =>
    refine .inr ⟨e, isGuardFault_of_tableFault hf, fun order h => ?_⟩
    obtain ⟨b, -, hp⟩ := horder order h
    rw [hp, hf]

/-- A command, and the one that tells whether it is done already. -/
def stages : List Text :=
  ["install built # once\n\tcp a#b /bin  # c\n\r\tsync\n".toList, "built\n\ttest -e a#b\n".toList]

theorem isBlock_stages : ∀ b ∈ stages, IsBlock b := by
  have hinstall : parse stages[0] = .error (.undefinedGuard "install" "built") :=
    (readLines_yields _ .start (by decide +kernel) 0).trans rfl
  have hbuilt : parse stages[1] = .ok ⟨.ofList [("built".toList, ⟨[], ["test -e a#b".toList]⟩)],
      "built".toList⟩ := (readLines_yields _ .start (by decide +kernel) 0).trans rfl
  refine List.forall_mem_cons.mpr ⟨⟨⟨_, rfl, rfl⟩, ⟨_, rfl, by decide⟩, by decide, fun e he => ?_⟩,
    List.forall_mem_singleton.mpr ⟨⟨_, rfl, rfl⟩, ⟨_, rfl, by decide⟩, by decide, fun e he => ?_⟩⟩
  · cases hinstall.symm.trans he
    rfl
  · cases hbuilt.symm.trans he

/-- The guard may be declared before the command or after it. -/
theorem parse_blocks_stages : ∃ commands : Dict Command,
    commands.get? "install" = some ⟨["built".toList], ["cp a#b /bin".toList, "sync".toList]⟩ ∧
      parse (stages[0] ++ stages[1]) = .ok ⟨commands, "install"⟩ ∧
      parse (stages[1] ++ stages[0]) = .ok ⟨commands, "built"⟩ := by
  have hparse : parse (stages[0] ++ stages[1]) =
      .ok ⟨.ofList (stages.map declaration), "install"⟩ :=
    (readLines_yields _ .start (by decide +kernel) 0).trans rfl
  have hne : stages ≠ [] := by decide
  rcases parse_blocks hne isBlock_stages (by decide +kernel) with
    ⟨commands, hcommands, horder⟩ | ⟨e, -, horder⟩
  · obtain ⟨b, hb, hfirst⟩ := horder [stages[0], stages[1]] (.refl _)
    obtain ⟨b', hb', hsecond⟩ := horder [stages[1], stages[0]] (.swap ..)
    cases hb
    cases hb'
    exact ⟨commands, (hcommands _ _).mpr ⟨stages[0], List.mem_cons_self .., rfl⟩, hfirst, hsecond⟩
  · cases hparse.symm.trans (horder stages (.refl _))

end Rollout.Upfile
