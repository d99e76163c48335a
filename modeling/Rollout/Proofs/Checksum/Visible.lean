import Mathlib.Data.Char
import Mathlib.Data.List.Lex
import Mathlib.Data.List.Nodup
import Rollout.Checksum

/-!
The visible files of a directory as a map from paths to contents. The walk finds exactly the files
of the map, each once (`mem_filesIn`, `nodup_filesIn`), and sorting them takes away the order in
which directories list their entries, so directories with the same map have the same list of visible
files (`visibleFiles_eq`).
-/

namespace Rollout

namespace FileTree

/-! ### Names in directories -/

/-- Can something stand under the name in a directory? -/
def isName (name : Text) : Bool := name ≠ [] && name.all fun c => c ≠ '/' && c ≠ '\u0000'

theorem isName_iff {name : Text} :
    isName name = true ↔ name ≠ [] ∧ '/' ∉ name ∧ '\u0000' ∉ name := by
  simp only [isName, Bool.and_eq_true, decide_eq_true_eq, List.all_eq_true]
  exact and_congr_right fun _ => ⟨fun h => ⟨fun hm => (h _ hm).1 rfl, fun hm => (h _ hm).2 rfl⟩,
    fun h c hc => ⟨fun he => h.1 (he ▸ hc), fun he => h.2 (he ▸ hc)⟩⟩

mutual

/-- Does everything in the tree stand under a name of its own? -/
def wellNamed : FileTree → Bool
  | .dir entries _ => wellNamedIn entries
  | _ => true

/-- Does everything below the entries stand under a name of its own? -/
def wellNamedIn : List (Text × FileTree) → Bool
  | [] => true
  | (name, t) :: es =>
    isName name && es.all (fun e => e.1 ≠ name) && wellNamed t && wellNamedIn es

end

theorem child?_eq_none {name : Text} : ∀ {es : List (Text × FileTree)},
    (∀ e ∈ es, e.1 ≠ name) → child? name es = none
  | [], _ => rfl
  | (n, t) :: es, h => by
    obtain ⟨hn, hes⟩ := List.forall_mem_cons.mp h
    rw [child?, if_neg hn, child?_eq_none hes]

theorem wellNamedIn_cons {name : Text} {t : FileTree} {es : List (Text × FileTree)} :
    wellNamedIn ((name, t) :: es) = true ↔ isName name = true ∧ child? name es = none ∧
      (∀ e ∈ es, e.1 ≠ name) ∧ wellNamed t = true ∧ wellNamedIn es = true := by
  rw [wellNamedIn]
  simp only [Bool.and_eq_true, List.all_eq_true, decide_eq_true_eq]
  constructor
  · rintro ⟨⟨⟨hn, hfresh⟩, ht⟩, hes⟩
    exact ⟨hn, child?_eq_none hfresh, hfresh, ht, hes⟩
  · rintro ⟨hn, -, hfresh, ht, hes⟩
    exact ⟨⟨⟨hn, hfresh⟩, ht⟩, hes⟩

theorem isName_of_child? {name : Text} {t : FileTree} : ∀ {es : List (Text × FileTree)},
    wellNamedIn es = true → child? name es = some t → isName name = true ∧ wellNamed t = true
  | (n, u) :: es, h, hc => by
    obtain ⟨hn, -, -, hu, hes⟩ := wellNamedIn_cons.mp h
    rw [child?] at hc
    split at hc
    · next he =>
      cases hc
      exact ⟨he ▸ hn, hu⟩
    · exact isName_of_child? hes hc

theorem isName_of_at? {u : FileTree} : ∀ {names : List Text} {t : FileTree},
    wellNamed t = true → t.at? names = some u → ∀ name ∈ names, isName name = true
  | [], _, _, _ => nofun
  | name :: names, .dir es a, h, hat => by
    rw [at?] at hat
    split at hat
    · next t hc =>
      obtain ⟨hn, ht⟩ := isName_of_child? h hc
      exact List.forall_mem_cons.mpr ⟨hn, isName_of_at? ht hat⟩
    · cases hat

/-- A path that is made of names. -/
def Named (p : List Text) : Prop := p ≠ [] ∧ ∀ name ∈ p, isName name = true

end FileTree

open FileTree

namespace Checksum

/-! ### The visible map -/

/-- What names lead to from directory to directory if none of them starts with a dot. -/
def visibleAt? (t : FileTree) (names : List Text) : Option FileTree :=
  if names.any fun n => n.head? = some '.' then none else t.at? names

/-- The content of the visible file that names lead to. -/
def visible? (t : FileTree) (names : List Text) : Option Bytes :=
  match visibleAt? t names with
  | some (.file data _) => some data
  | _ => none

variable {name : Text} {names : List Text} {data : Bytes} {about about' : About} {t : FileTree}
  {es es' : List (Text × FileTree)}

theorem visibleAt?_dir_cons : visibleAt? (.dir es about) (name :: names) =
    if name.head? = some '.' then none else (child? name es).bind (visibleAt? · names) := by
  by_cases hd : name.head? = some '.'
  · rw [visibleAt?, if_pos (by simp [hd]), if_pos hd]
  · rw [if_neg hd]
    cases hc : child? name es <;> simp [visibleAt?, at?, hc, hd]

theorem visible?_dir_nil : visible? (.dir es about) [] = none := rfl

theorem visible?_file {d : Bytes} : visible? (.file d about) names = some data ↔
    names = [] ∧ d = data := by
  cases names with
  | nil => simp [visible?, visibleAt?, at?]
  | cons n ns => simp [visible?, visibleAt?, at?]

theorem visible?_link {target : Text} : visible? (.link target about) names = none := by
  cases names <;> simp [visible?, visibleAt?, at?]

theorem visible?_device {d : Device} : visible? (.device d about) names = none := by
  cases names <;> simp [visible?, visibleAt?, at?]

/-- What is visible in a directory is visible in its first entry or among the others. -/
theorem visibleAt?_entry {u : FileTree} (hfresh : child? name es = none) {n : Text}
    {q : List Text} :
    visibleAt? (.dir ((name, t) :: es) about) (n :: q) = some u ↔
      (name.head? ≠ some '.' ∧ n = name ∧ visibleAt? t q = some u) ∨
        visibleAt? (.dir es about) (n :: q) = some u := by
  rw [visibleAt?_dir_cons, visibleAt?_dir_cons, child?]
  by_cases hn : name = n
  · subst hn
    simp [hfresh]
  · simp [hn, Ne.symm hn]

theorem visible?_eq_some_iff : visible? t names = some data ↔
    ∃ a, visibleAt? t names = some (.file data a) := by
  rw [visible?]
  split <;> simp_all

theorem visible?_entry (hfresh : child? name es = none) {p : List Text} :
    visible? (.dir ((name, t) :: es) about) p = some data ↔
      (name.head? ≠ some '.' ∧ ∃ q, p = name :: q ∧ visible? t q = some data) ∨
        visible? (.dir es about) p = some data := by
  cases p with
  | nil => simp [visible?_dir_nil]
  | cons n q =>
    simp only [visible?_eq_some_iff, visibleAt?_entry hfresh, exists_or, exists_and_left,
      List.cons.injEq, and_assoc, exists_eq_left']

theorem named_of_visible? (h : wellNamedIn es = true)
    (hp : visible? (.dir es about) names = some data) : Named names := by
  obtain ⟨a, ha⟩ := visible?_eq_some_iff.mp hp
  rw [visibleAt?] at ha
  split at ha
  · cases ha
  · refine ⟨?_, isName_of_at? (t := .dir es about) h ha⟩
    rintro rfl
    cases hp

mutual

/-- The walk finds what is visible below something. -/
theorem mem_filesAt {data : Bytes} : ∀ {name : Text} {t : FileTree} {p : List Text},
    wellNamed t = true →
    ((p, data) ∈ filesAt name t ↔ ∃ q, p = name :: q ∧ visible? t q = some data)
  | name, .file d a, p, _ => by
    simp only [filesAt, visible?_file, List.mem_singleton, Prod.mk.injEq]
    constructor
    · rintro ⟨rfl, rfl⟩
      exact ⟨[], rfl, rfl, rfl⟩
    · rintro ⟨q, rfl, rfl, rfl⟩
      exact ⟨rfl, rfl⟩
  | name, .dir es a, p, h => by
    rw [filesAt, List.mem_map]
    constructor
    · rintro ⟨⟨q, d⟩, hq, he⟩
      obtain ⟨rfl, rfl⟩ := Prod.mk.inj he
      exact ⟨q, rfl, (mem_filesIn a h).mp hq⟩
    · rintro ⟨q, rfl, hq⟩
      exact ⟨(q, data), (mem_filesIn a h).mpr hq, rfl⟩
  | _, .link .., _, _ => by simp [filesAt, visible?_link]
  | _, .device .., _, _ => by simp [filesAt, visible?_device]

/-- The walk finds the files of the visible map. -/
theorem mem_filesIn {data : Bytes} : ∀ {es : List (Text × FileTree)} (about : About)
    {p : List Text}, wellNamedIn es = true →
    ((p, data) ∈ filesIn es ↔ visible? (.dir es about) p = some data)
  | [], about, p, _ => by cases p <;> simp [filesIn, visible?, visibleAt?, at?, child?]
  | (n, t) :: es, about, p, h => by
    obtain ⟨-, hfresh, -, ht, hes⟩ := wellNamedIn_cons.mp h
    rw [visible?_entry hfresh, filesIn, List.mem_append, mem_filesIn about hes]
    by_cases hd : n.head? = some '.'
    · simp [hd]
    · simp [hd, mem_filesAt ht]

end

/-! ### No file is found twice -/

theorem head_of_mem_filesAt {p : List Text} (h : p ∈ (filesAt name t).map Prod.fst) :
    p.head? = some name := by
  cases t with
  | file d a =>
    obtain rfl := List.mem_singleton.mp h
    rfl
  | dir es a =>
    rw [filesAt, List.map_map] at h
    obtain ⟨f, -, rfl⟩ := List.mem_map.mp h
    rfl
  | link => cases h
  | device => cases h

theorem head_of_mem_filesIn {p : List Text} : ∀ {es : List (Text × FileTree)},
    p ∈ (filesIn es).map Prod.fst → ∃ e ∈ es, p.head? = some e.1
  | (n, t) :: es, h => by
    rw [filesIn, List.map_append, List.mem_append] at h
    rcases h with h | h
    · refine ⟨(n, t), List.mem_cons_self .., ?_⟩
      split at h
      · cases h
      · exact head_of_mem_filesAt h
    · obtain ⟨e, he, hp⟩ := head_of_mem_filesIn h
      exact ⟨e, List.mem_cons_of_mem _ he, hp⟩

mutual

theorem nodup_filesAt : ∀ {name : Text} {t : FileTree}, wellNamed t = true →
    ((filesAt name t).map Prod.fst).Nodup
  | _, .file .., _ => List.nodup_singleton _
  | name, .dir es a, h => by
    have hmap : (filesAt name (.dir es a)).map Prod.fst =
        ((filesIn es).map Prod.fst).map (List.cons name) := by
      rw [filesAt, List.map_map, List.map_map]
      rfl
    rw [hmap]
    exact (nodup_filesIn h).map (List.cons_injective)
  | _, .link .., _ => List.nodup_nil
  | _, .device .., _ => List.nodup_nil

theorem nodup_filesIn : ∀ {es : List (Text × FileTree)}, wellNamedIn es = true →
    ((filesIn es).map Prod.fst).Nodup
  | [], _ => List.nodup_nil
  | (n, t) :: es, h => by
    obtain ⟨-, -, hfresh, ht, hes⟩ := wellNamedIn_cons.mp h
    rw [filesIn, List.map_append, List.nodup_append']
    refine ⟨?_, nodup_filesIn hes, fun p hp hq => ?_⟩
    · split
      · exact List.nodup_nil
      · exact nodup_filesAt ht
    · split at hp
      · cases hp
      · obtain ⟨e, he, hhead⟩ := head_of_mem_filesIn hq
        rw [head_of_mem_filesAt hp] at hhead
        exact hfresh e he (Option.some.inj hhead).symm

end

/-- Directories hold the same visible files if the walk finds the same in some order. -/
theorem filesIn_perm_iff (h : wellNamedIn es = true) (h' : wellNamedIn es' = true) :
    (filesIn es).Perm (filesIn es') ↔ visible? (.dir es about) = visible? (.dir es' about') := by
  rw [List.perm_ext_iff_of_nodup (nodup_filesIn h).of_map (nodup_filesIn h').of_map]
  constructor
  · refine fun hmem => funext fun p => Option.ext fun data => ?_
    rw [← mem_filesIn about h, hmem, mem_filesIn about' h']
  · rintro hmap ⟨p, data⟩
    rw [mem_filesIn about h, hmap, mem_filesIn about' h']

/-! ### The order of the files -/

theorem mem_visibleFiles (about : About) (h : wellNamedIn es = true) {p : List Text} :
    (p, data) ∈ visibleFiles es ↔ visible? (.dir es about) p = some data := by
  rw [visibleFiles, List.mem_mergeSort, mem_filesIn about h]

theorem pairwise_visibleFiles (es : List (Text × FileTree)) :
    (visibleFiles es).Pairwise fun a b => ¬ b.1 < a.1 := by
  have htrans : ∀ a b c : List Text, ¬ b < a → ¬ c < b → ¬ c < a := fun _ _ _ hab hbc =>
    not_lt.mpr ((not_lt.mp hab).trans (not_lt.mp hbc))
  have htotal : ∀ a b : List Text, ¬ b < a ∨ ¬ a < b := fun _ _ =>
    not_and_or.mp fun h => lt_asymm h.1 h.2
  have h : (visibleFiles es).Pairwise fun a b => !decide (b.1 < a.1) :=
    List.pairwise_mergeSort (fun a b c => by simpa using htrans a.1 b.1 c.1)
      (fun a b => by simpa using htotal a.1 b.1) (filesIn es)
  simpa using h

/-- The list of visible files is a function of the map. -/
theorem visibleFiles_eq (h : wellNamedIn es = true) (h' : wellNamedIn es' = true)
    (hmap : visible? (.dir es about) = visible? (.dir es' about')) :
    visibleFiles es = visibleFiles es' := by
  have hperm : (visibleFiles es).Perm (visibleFiles es') :=
    (List.mergeSort_perm ..).trans
      (((filesIn_perm_iff h h').mpr hmap).trans (List.mergeSort_perm ..).symm)
  refine hperm.eq_of_pairwise (fun a b ha hb hab hba => ?_) (pairwise_visibleFiles es)
    (pairwise_visibleFiles es')
  -- Files of one path are one file, so the order of paths is antisymmetric on files.
  have hkey : a.1 = b.1 := le_antisymm (not_lt.mp hab) (not_lt.mp hba)
  have hdata : some a.2 = some b.2 := by
    rw [← (mem_visibleFiles about h).mp ha, hmap, ← (mem_visibleFiles about' h').mp hb, hkey]
  exact Prod.ext hkey (Option.some.inj hdata)

end Checksum

end Rollout
