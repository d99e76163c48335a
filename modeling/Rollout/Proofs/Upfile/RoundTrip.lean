import Rollout.Proofs.Dict
import Rollout.Proofs.Upfile.Agreement
import Rollout.Proofs.Upfile.WellFormed

/-!
Writing an Upfile down and reading it again. The written form consists of whole lines without
comments (`sourceLines_write`), and reading the lines of a command closes the command before it and
leaves this one open (`opens_writtenLines`), so the commands come back one after another
(`readLines_flatMap`).
-/

namespace Rollout.Upfile

variable {name : Text} {c : Command}

/-! ### Lines that declare a command -/

/-- Reading the lines closes the command before them and leaves this one open, wherever they stand
before other lines. -/
structure Opens (lines : List Text) (e : Text × Command) : Prop where
  lines_ne_nil : e.2.lines ≠ []
  reads : ∀ {r : Reading} {cs : Dict Command}, r.close = .ok cs → cs.contains e.1 = false →
    ∀ more, more ≠ [] →
      r.readLines (lines ++ more) = Reading.readLines ⟨cs, some (r.first.getD e.1), some e⟩ more

/-- Commands that are declared one after another are read one after another. -/
theorem readLines_flatMap {α : Type} {lines : α → List Text} {e : α → Text × Command} :
    ∀ {as : List α} {r : Reading} {cs : Dict Command}, r.close = .ok cs →
      (∀ a ∈ as, Opens (lines a) (e a)) → ((as.map e).map (·.1)).Nodup →
      (∀ a ∈ as, cs.contains (e a).1 = false) →
      ∃ r', r.readLines (as.flatMap lines ++ [[]]) = .ok r' ∧
        r'.close = .ok (cs.insertAll (as.map e)) ∧
        r'.first = r.first.or (as.head?.map fun a => (e a).1)
  | [], r, cs, hr, _, _, _ => ⟨r, rfl, hr, by simp⟩
  | a :: as, r, cs, hr, ho, hn, hc => by
    obtain ⟨ho, hos⟩ := List.forall_mem_cons.mp ho
    obtain ⟨hc, hcs⟩ := List.forall_mem_cons.mp hc
    obtain ⟨hn, hns⟩ := List.nodup_cons.mp hn
    have hclose : Reading.close ⟨cs, some (r.first.getD (e a).1), some (e a)⟩ =
        .ok (cs.insert (e a).1 (e a).2) := if_neg ho.lines_ne_nil
    have hnew : ∀ b ∈ as, (cs.insert (e a).1 (e a).2).contains (e b).1 = false := fun b hb => by
      have hne : (e b).1 ≠ (e a).1 := fun h =>
        hn (List.mem_map.mpr ⟨e b, List.mem_map.mpr ⟨b, hb, rfl⟩, h⟩)
      rw [Dict.contains, Dict.get?_insert, if_neg hne]
      exact hcs b hb
    -- the command stays open until the next header, so its insertion is part of what is closed
    obtain ⟨r', hr', hclose', hfirst⟩ := readLines_flatMap hclose hos hns hnew
    refine ⟨r', ?_, hclose', hfirst.trans ?_⟩
    · rw [List.flatMap_cons, List.append_assoc, ho.reads hr hc _ (by simp), hr']
    · cases r.first <;> rfl

/-! ### The lines that are written -/

/-- The lines of a command as it is written. -/
def writtenLines (name : Text) (c : Command) : List Text :=
  (name ++ c.guards.flatMap (' ' :: ·)) :: c.lines.map ('\t' :: ·) ++ [[]]

/-- The commands in the order in which they are written. -/
def written (u : Upfile) : List (Text × Command) :=
  u.names.filterMap fun name => (u.get? name).map (name, ·)

theorem writeCommand_eq (name : Text) (c : Command) :
    writeCommand name c = (writtenLines name c).flatMap (· ++ ['\n']) := by
  simp [writeCommand, writtenLines, List.flatMap_map]

theorem write_eq (u : Upfile) :
    u.write = (u.written.flatMap fun e => writtenLines e.1 e.2).flatMap (· ++ ['\n']) := by
  rw [write, written]
  induction u.names with
  | nil => rfl
  | cons name names ih =>
    rw [List.flatMap_cons, ih]
    cases h : u.get? name with
    | none => simp [h]
    | some c => simp [h, writeCommand_eq]

/-- Lines that are written one after another are read one after another. -/
theorem sourceLines_flatMap : ∀ {lines : List Text},
    (∀ line ∈ lines, ∀ d ∈ line, isLineEnd d = false) →
    sourceLines (lines.flatMap (· ++ ['\n'])) = lines ++ [[]]
  | [], _ => rfl
  | line :: lines, h => by
    obtain ⟨hl, hls⟩ := List.forall_mem_cons.mp h
    rw [List.flatMap_cons, List.append_assoc, List.singleton_append,
      sourceLines_append hl (by decide), sourceLines_flatMap hls, List.cons_append]

theorem IsName.isWord (h : IsName name) : IsWord name :=
  ⟨h.ne_nil, h.head_ne, fun d hd => by
    obtain ⟨h₁, h₂, h₃, h₄, h₅⟩ := h.chars d hd
    simp [isWordChar, isLineEnd, *]⟩

/-- A command whose parts can be written. -/
structure Writable (name : Text) (c : Command) : Prop where
  /-- Its name can be written. -/
  isName : IsName name
  /-- So can the names of its guards. -/
  guards : ∀ g ∈ c.guards, IsName g
  /-- It has a line. -/
  lines_ne_nil : c.lines ≠ []
  /-- Its lines can be written. -/
  isLine : ∀ line ∈ c.lines, IsLine line

/-- No line that is written is broken, or cut off by a NUL. -/
theorem chars_writtenLines (h : Writable name c) :
    ∀ line ∈ writtenLines name c, ∀ d ∈ line, isLineEnd d = false ∧ d ≠ '\x00' := by
  have hw {w : Text} (hw : IsName w) : ∀ d ∈ w, isLineEnd d = false ∧ d ≠ '\x00' := fun d hd =>
    (isWordChar_iff.mp (hw.isWord.isWordChar d hd)).2
  intro line hl d hd
  rcases List.mem_append.mp hl with hl | hl
  · rcases List.mem_cons.mp hl with rfl | hl
    · rcases List.mem_append.mp hd with hd | hd
      · exact hw h.isName d hd
      · obtain ⟨g, hg, hd⟩ := List.mem_flatMap.mp hd
        rcases List.mem_cons.mp hd with rfl | hd
        · decide
        · exact hw (h.guards g hg) d hd
    · obtain ⟨l, hm, rfl⟩ := List.mem_map.mp hl
      rcases List.mem_cons.mp hd with rfl | hd
      · decide
      · obtain ⟨hr, hn, h0⟩ := (h.isLine l hm).chars d hd
        exact ⟨by simp [isLineEnd, hn, hr], h0⟩
  · rw [List.mem_singleton.mp hl] at hd
    cases hd

/-- No guard starts a comment. -/
theorem code_guards : ∀ {gs : List Text},
    (∀ g ∈ gs, IsName g) → code (gs.flatMap (' ' :: ·)) = gs.flatMap (' ' :: ·)
  | [], _ => rfl
  | g :: gs, h => by
    obtain ⟨hg, hgs⟩ := List.forall_mem_cons.mp h
    have hhead : ∀ d ∈ (gs.flatMap (' ' :: ·)).head?, isInked d = false := by
      cases gs <;> simp [isInked]
    have hg := hg.isWord
    have := code_inked hg.ne_nil hg.head_ne hg.isInked hhead
    rw [code_guards hgs] at this
    exact congrArg (' ' :: ·) this

/-- The guards are the words after the name. -/
theorem words_guards : ∀ {gs : List Text}, (∀ g ∈ gs, IsName g) → words (gs.flatMap (' ' :: ·)) = gs
  | [], _ => rfl
  | g :: gs, h => by
    obtain ⟨hg, hgs⟩ := List.forall_mem_cons.mp h
    have hhead : ∀ d ∈ (gs.flatMap (' ' :: ·)).head?, d = ' ' := by
      cases gs <;> simp
    have hg := hg.isWord
    have := words_word hg.ne_nil hg.isInked hhead
    rw [words_guards hgs] at this
    rw [List.flatMap_cons, List.cons_append]
    exact (words_spaces (s := [' ']) (by simp) _).trans this

/-! ### Reading them again -/

variable {cs : Dict Command} {f : Option Text} {r : Reading} {last : Bool}

/-- The header of a written command closes the command before it. -/
theorem readCode_header (h : Writable name c) (hr : r.close = .ok cs)
    (hc : cs.contains name = false) :
    r.readCode (name ++ c.guards.flatMap (' ' :: ·))
        (code (name ++ c.guards.flatMap (' ' :: ·))) false =
      .ok ⟨cs, some (r.first.getD name), some (name, ⟨c.guards, []⟩)⟩ := by
  have hw := h.isName.isWord
  have hhead : ∀ d ∈ (c.guards.flatMap (' ' :: ·)).head?, isInked d = false := by
    cases c.guards <;> simp [isInked]
  have htab : '\t' ∉ name ++ c.guards.flatMap (' ' :: ·) := by
    intro ht
    rcases List.mem_append.mp ht with ht | ht
    · exact absurd (hw.isInked _ ht) (by decide)
    · obtain ⟨g, hg, ht⟩ := List.mem_flatMap.mp ht
      rcases List.mem_cons.mp ht with ht | ht
      · cases ht
      · exact absurd ((h.guards g hg).isWord.isInked _ ht) (by decide)
  rw [code_inked hw.ne_nil hw.head_ne hw.isInked hhead, code_guards h.guards, readCode_word hw,
    Reading.header, hr, ok_bind, takeWhile_append_of_head hw.isInked hhead,
    dropWhile_append_of_head hw.isInked hhead, words_guards h.guards]
  dsimp only
  rw [if_neg h.isName.ne_keyword, if_neg (by simp [hc]), if_neg htab]
  rfl

/-- A line of a written command is read as it was. -/
theorem readCode_line {l : Text} (hl : IsLine l) :
    Reading.readCode ⟨cs, f, some (name, c)⟩ ('\t' :: l) (code ('\t' :: l)) last =
      .ok ⟨cs, f, some (name, ⟨c.guards, c.lines ++ [l]⟩)⟩ := by
  have hcode : code ('\t' :: l) = '\t' :: l :=
    congrArg ('\t' :: ·) (code_eq_self_iff.mpr hl.no_comment)
  have hall : ('\t' :: l).all (· = '\t') = false := by
    obtain ⟨a, l, rfl⟩ := List.exists_cons_of_ne_nil hl.ne_nil
    have : a ≠ '\t' := fun h => hl.head_ne (congrArg some h)
    simp [this]
  have htrim := Text.trimEnd_eq_self hl.getLast_not_blank
  rw [hcode, readCode_tab, Reading.bodyLine, if_neg (by simp [hl.ne_nil, hall]), if_neg hl.head_ne,
    ok_bind, Reading.appendLine, htrim, if_neg hl.ne_nil]

/-- The lines of a written command are read one after another. -/
theorem readLines_body : ∀ {ls : List Text} {c : Command},
    (∀ l ∈ ls, IsLine l) → ∀ more : List Text,
    Reading.readLines ⟨cs, f, some (name, c)⟩ (ls.map ('\t' :: ·) ++ more) =
      Reading.readLines ⟨cs, f, some (name, ⟨c.guards, c.lines ++ ls⟩)⟩ more
  | [], c, _, more => by simp
  | l :: ls, c, h, more => by
    obtain ⟨hl, hls⟩ := List.forall_mem_cons.mp h
    rw [List.map_cons, List.cons_append, Reading.readLines, readCode_line hl, ok_bind,
      readLines_body hls]
    simp

/-- Reading a written command closes the one before it and leaves this one open. -/
theorem opens_writtenLines (h : Writable name c) : Opens (writtenLines name c) (name, c) where
  lines_ne_nil := h.lines_ne_nil
  reads {r cs} hr hc more _ := by
    have hlast : (c.lines.map ('\t' :: ·) ++ [] :: more).isEmpty = false := by simp
    rw [writtenLines, List.cons_append, List.cons_append, List.append_assoc,
      List.singleton_append, Reading.readLines, hlast, readCode_header h hr hc, ok_bind,
      readLines_body h.isLine, Reading.readLines]
    rfl

/-! ### The whole table -/

variable {u : Upfile}

theorem exists_of_mem_keys {n : Text} : n ∈ u.commands.keys ↔ ∃ c, u.get? n = some c :=
  Dict.mem_keys_iff

theorem WellFormed.writable (h : u.WellFormed) {n : Text} {c : Command} (hc : u.get? n = some c) :
    Writable n c where
  isName := h.isName n c hc
  guards g hg := by
    obtain ⟨c', hc'⟩ := exists_of_mem_keys.mp (h.guards n c hc g hg).2
    exact h.isName g c' hc'
  lines_ne_nil := h.lines_ne_nil n c hc
  isLine := h.isLine n c hc

/-- All commands are written, and no others. -/
theorem WellFormed.mem_names (h : u.WellFormed) {n : Text} : n ∈ u.names ↔ n ∈ u.commands.keys := by
  rw [names, List.mem_cons, List.mem_filter]
  by_cases hn : n = u.defaultName
  · simp [hn, h.default_mem]
  · simp [hn]

/-- Each command is written under its name. -/
theorem WellFormed.mem_written (h : u.WellFormed) {n : Text} {c : Command} :
    (n, c) ∈ u.written ↔ u.get? n = some c := by
  rw [written, List.mem_filterMap]
  constructor
  · rintro ⟨m, -, hm⟩
    obtain ⟨c', hc', he⟩ := Option.map_eq_some_iff.mp hm
    cases he
    exact hc'
  · intro hc
    exact ⟨n, h.mem_names.mpr (exists_of_mem_keys.mpr ⟨c, hc⟩), by rw [hc]; rfl⟩

theorem map_fst_written (u : Upfile) :
    u.written.map (·.1) = u.names.filter fun n => (u.get? n).isSome := by
  rw [written]
  induction u.names with
  | nil => rfl
  | cons n names ih => cases hn : u.get? n <;> simp [hn, ih]

theorem nodup_names (u : Upfile) : u.names.Nodup :=
  List.nodup_cons.mpr ⟨by simp, u.commands.nodup_keys.filter _⟩

/-- The default is written first. -/
theorem WellFormed.head?_written (h : u.WellFormed) :
    u.written.head?.map (·.1) = some u.defaultName := by
  obtain ⟨c, hc⟩ := exists_of_mem_keys.mp h.default_mem
  rw [written, names, List.filterMap_cons, hc]
  rfl

theorem WellFormed.chars_written (h : u.WellFormed) :
    ∀ line ∈ u.written.flatMap (fun e => writtenLines e.1 e.2),
      ∀ d ∈ line, isLineEnd d = false ∧ d ≠ '\x00' := fun line hl => by
  obtain ⟨e, he, hl⟩ := List.mem_flatMap.mp hl
  exact chars_writtenLines (h.writable (h.mem_written.mp he)) line hl

/-- The written form consists of the lines of its commands, and ends with an empty one. -/
theorem WellFormed.sourceLines_write (h : u.WellFormed) :
    sourceLines u.write = u.written.flatMap (fun e => writtenLines e.1 e.2) ++ [[]] := by
  rw [write_eq, sourceLines_flatMap fun line hl d hd => (h.chars_written line hl d hd).1]

theorem WellFormed.nul_notMem_code (h : u.WellFormed) :
    ∀ line ∈ sourceLines u.write, '\x00' ∉ code line := by
  intro line hl hd
  rw [h.sourceLines_write] at hl
  rcases List.mem_append.mp hl with hl | hl
  · exact (h.chars_written line hl _ ((isPrefix_codeFrom true line).subset hd)).2 rfl
  · rw [List.mem_singleton.mp hl] at hd
    cases hd

/-- The written form of an Upfile that can be written down declares this Upfile. -/
theorem WellFormed.parse_write_eq (h : u.WellFormed) : parse u.write = .ok u := by
  have hw : ∀ e ∈ u.written, Writable e.1 e.2 := fun e he => h.writable (h.mem_written.mp he)
  have hnodup : (u.written.map (·.1)).Nodup := by
    rw [map_fst_written]
    exact u.nodup_names.filter _
  obtain ⟨r, hr, hclose, hfirst⟩ := readLines_flatMap (r := .start) (e := id) rfl
    (fun e he => opens_writtenLines (hw e he)) (by rwa [List.map_id]) fun _ _ => rfl
  have hcommands : Reading.start.commands.insertAll u.written = u.commands :=
    Dict.ofList_eq_of_mem_iff hnodup fun _ _ => h.mem_written
  simp only [id, h.head?_written] at hfirst
  rw [List.map_id, hcommands] at hclose
  have hfault : tableFault u.commands = none := tableFault_eq_none_iff.mpr h.guards
  calc parse u.write = Reading.start.readLines (sourceLines u.write) >>= Reading.finish :=
        readLines_yields u.write .start h.nul_notMem_code 0
    _ = r.finish := by rw [h.sourceLines_write, hr, ok_bind]
    _ = ofMachine ⟨.top, .before 0 [], u.commands, r.first⟩ := finish_of_close hclose _
    _ = .ok u := by rw [ofMachine, hfirst]; simp [hfault, Reading.start]

/-- The texts declare just the Upfiles that can be written down. The written form of such an Upfile
declares it again, and reading and writing this form once more does not change it. -/
theorem parse_write (u : Upfile) : (∀ t, parse t = .ok u → u.WellFormed) ∧
    (u.WellFormed → parse u.write = .ok u ∧ (parse u.write).map write = .ok u.write) ∧
    ∀ t, parse t = .ok u → parse u.write = .ok u ∧ (parse u.write).map write = .ok u.write := by
  have hwrite : u.WellFormed →
      parse u.write = .ok u ∧ (parse u.write).map write = .ok u.write := fun h => by
    have hp := h.parse_write_eq
    exact ⟨hp, by rw [hp]; rfl⟩
  exact ⟨fun _ => wellFormed_of_parse, hwrite, fun _ h => hwrite (wellFormed_of_parse h)⟩

/-- A table with two commands, the first of which in the order of names is not the default. -/
def installed : Upfile :=
  ⟨.ofList [("install".toList, ⟨["built".toList], ["cp a#b /bin".toList, "sync".toList]⟩),
    ("built".toList, ⟨[], [" test -e a#b".toList]⟩)], "install".toList⟩

theorem parse_write_installed :
    parse installed.write = .ok installed ∧ installed.WellFormed ∧
    (parse installed.write).map write =
      .ok "install built\n\tcp a#b /bin\n\tsync\n\nbuilt\n\t test -e a#b\n\n".toList := by
  have hp : parse installed.write = .ok installed :=
    (readLines_yields installed.write .start (by decide +kernel) 0).trans rfl
  exact ⟨hp, (parse_write installed).1 _ hp, ((parse_write installed).2.2 _ hp).2.trans rfl⟩

end Rollout.Upfile
