import Rollout.Blake3
import Rollout.Proofs.Checksum.Stream
import Rollout.Workspace

/-!
The checksum of a directory is a function of exactly what is visible in it. Everything that is visible
is opened by its path, so a checksum is taken exactly if these paths are none too long
(`ofPath_eq_ok_iff`). Directories with the same visible files have the same checksum, wherever they
are and whatever else they hold; and directories with the same checksum have the same visible files,
unless the hash takes two different byte strings that it was given to the same value
(`ofPath_determined`).
-/

namespace Rollout

namespace FileTree

/-- Is it a regular file? -/
def isFile : FileTree → Bool
  | .file .. => true
  | _ => false

end FileTree

open FileTree

namespace Checksum

variable {path name : Text} {t : FileTree} {es es' : List (Text × FileTree)} {about about' : About}
  {kind : FileTree → Bool} {hash : Hash}

/-! ### Paths below a path -/

theorem pathIn_pathIn (h : isName name = true) (rest : Text) :
    pathIn (pathIn path name) rest = pathIn path (name ++ '/' :: rest) := by
  obtain ⟨hne, hslash, -⟩ := isName_iff.mp h
  have hlast : ∀ p : Text, (p ++ name).getLast? ≠ some '/' := fun p hp => by
    rw [List.getLast?_append_of_ne_nil p hne] at hp
    exact hslash (List.mem_of_getLast? hp)
  by_cases hp : path.getLast? = some '/'
  · simp only [pathIn, if_pos hp, if_neg (hlast path), List.append_assoc]
  · have hname := hlast (path ++ ['/'])
    rw [List.append_assoc, List.singleton_append] at hname
    simp only [pathIn, if_neg hp, if_neg hname, List.append_assoc, List.cons_append]

theorem pathIn_join_cons (h : isName name = true) (n : Text) (ns : List Text) :
    pathIn (pathIn path name) (Text.join ['/'] (n :: ns)) =
      pathIn path (Text.join ['/'] (name :: n :: ns)) := by
  rw [pathIn_pathIn h, Text.join, List.append_assoc, List.singleton_append]

/-! ### What is opened by its path -/

/-- Are the paths of all visible things of a kind that stand below a path short enough? -/
def Fits (kind : FileTree → Bool) (path : Text) (t : FileTree) : Prop :=
  ∀ n ns u, visibleAt? t (n :: ns) = some u → kind u = true →
    isPath (pathIn path (Text.join ['/'] (n :: ns))) = true

theorem Fits.nil : Fits kind path (.dir [] about) := fun n ns u h => by
  simp [visibleAt?_dir_cons, child?] at h

theorem Fits.of_not_dir (h : isDir t = false) : Fits kind path t := fun n ns u hu => by
  cases t with
  | dir => cases h
  | _ => simp [visibleAt?, at?] at hu

theorem fits_entry (h : wellNamedIn ((name, t) :: es) = true) :
    Fits kind path (.dir ((name, t) :: es) about) ↔
      (name.head? ≠ some '.' → (kind t = true → isPath (pathIn path name) = true) ∧
        Fits kind (pathIn path name) t) ∧ Fits kind path (.dir es about) := by
  obtain ⟨hname, hfresh, -, ht, -⟩ := wellNamedIn_cons.mp h
  constructor
  · refine fun hf => ⟨fun hd => ⟨fun hk => ?_, fun n ns u hu hk => ?_⟩, fun n ns u hu hk => ?_⟩
    · exact hf name [] t ((visibleAt?_entry hfresh).mpr (.inl ⟨hd, rfl, rfl⟩)) hk
    · rw [pathIn_join_cons hname]
      exact hf name (n :: ns) u ((visibleAt?_entry hfresh).mpr (.inl ⟨hd, rfl, hu⟩)) hk
    · exact hf n ns u ((visibleAt?_entry hfresh).mpr (.inr hu)) hk
  · rintro ⟨hentry, hothers⟩ n ns u hu hk
    rcases (visibleAt?_entry hfresh).mp hu with ⟨hd, rfl, hfirst⟩ | hlater
    · cases ns with
      | nil =>
        obtain rfl := Option.some.inj hfirst
        exact (hentry hd).1 hk
      | cons m ms =>
        rw [← pathIn_join_cons hname]
        exact (hentry hd).2 m ms u hfirst hk
    · exact hothers n ns u hlater hk

/-- The search for a directory whose path is too long goes through all visible ones. -/
theorem longDirectory_eq_none_iff (h : wellNamedIn es = true) (about : About) :
    longDirectory path es = none ↔ Fits isDir path (.dir es about) := by
  fun_induction longDirectory path es generalizing about with
  | case1 => simp [Fits.nil]
  -- A hidden directory is passed over with all that is below it.
  | case2 path name inner a es hd ih =>
    obtain ⟨-, -, -, -, hes⟩ := wellNamedIn_cons.mp h
    simp [fits_entry h, ih hes about, hd]
  | case3 path name inner a es hd hlong =>
    have hpath : isPath (pathIn path name) = false := by simpa using hlong
    simp [fits_entry h, hd, hpath, isDir]
  | case4 path name inner a es hd hlong ihInner ih =>
    obtain ⟨-, -, -, hinner, hes⟩ := wellNamedIn_cons.mp h
    have hpath : isPath (pathIn path name) = true := by simpa using hlong
    simp [fits_entry h, hd, hpath, ihInner hinner a, ih hes about]
  | case5 path e es hdir ih =>
    obtain ⟨name, t⟩ := e
    obtain ⟨-, -, -, -, hes⟩ := wellNamedIn_cons.mp h
    have ht : isDir t = false := by
      cases t with
      | dir inner a => exact (hdir name inner a rfl).elim
      | _ => rfl
    simp [fits_entry h, ih hes about, ht, Fits.of_not_dir]

/-- The files of the walk are the visible ones. -/
theorem fits_isFile_iff (h : wellNamedIn es = true) (about : About) :
    Fits isFile path (.dir es about) ↔
      ∀ f ∈ filesIn es, isPath (pathIn path (Text.join ['/'] f.1)) = true := by
  constructor
  · rintro hf ⟨p, data⟩ hp
    obtain ⟨a, ha⟩ := visible?_eq_some_iff.mp ((mem_filesIn about h).mp hp)
    cases p with
    | nil => cases ha
    | cons n ns => exact hf n ns _ ha rfl
  · intro hfiles n ns u hu hk
    cases u with
    | file data a =>
      have hvisible := visible?_eq_some_iff.mpr ⟨a, hu⟩
      exact hfiles (n :: ns, data) ((mem_filesIn about h).mpr hvisible)
    | _ => cases hk

/-- The search for a file whose path is too long goes through all visible ones. -/
theorem longFile_eq_none_iff (h : wellNamedIn es = true) (about : About) :
    longFile path es = none ↔ Fits isFile path (.dir es about) := by
  simp only [fits_isFile_iff h, longFile, visibleFiles, List.find?_eq_none, List.forall_mem_map,
    List.mem_mergeSort, Bool.not_eq_true, Bool.not_eq_false']

/-- A checksum is taken exactly if everything that is visible can be opened by its path. -/
theorem ofPath_eq_ok_iff {root : FileTree} {cwd : List Text} {x : Text}
    (hroot : root.find? cwd path = some (.dir es about)) (h : wellNamedIn es = true) :
    ofPath hash root cwd path = .ok x ↔ (Fits isDir path (.dir es about) ∧
      Fits isFile path (.dir es about)) ∧ ofEntries hash es = x := by
  rw [← longDirectory_eq_none_iff h, ← longFile_eq_none_iff h]
  simp only [ofPath, hroot]
  split <;> simp [*]

/-! ### The same visible files -/

/-- The hash takes two different byte strings to the same value. -/
def Collides (hash : Hash) (a b : Bytes) : Prop := a ≠ b ∧ hash a = hash b

/-- Directories with the same visible files have the same checksum. -/
theorem ofEntries_eq_of_visible?_eq (h : wellNamedIn es = true) (h' : wellNamedIn es' = true)
    (hmap : visible? (.dir es about) = visible? (.dir es' about')) :
    ofEntries hash es = ofEntries hash es' := by
  rw [ofEntries_eq, ofEntries_eq, stream, stream, visibleFiles_eq h h' hmap]

/-! ### From the stream back to the files -/

theorem exists_visible?_of_stream_eq (about' : About) (h : wellNamedIn es = true)
    (h' : wellNamedIn es' = true) (hs : stream hash es = stream hash es') {p : List Text} {b : Bytes}
    (hb : visible? (.dir es about) p = some b) :
    ∃ b', visible? (.dir es' about') p = some b' ∧ hash b = hash b' := by
  have hmem : (p, hash b) ∈ (visibleFiles es).map fun f => (f.1, hash f.2) :=
    List.mem_map_of_mem (f := fun f => (f.1, hash f.2)) ((mem_visibleFiles about h).mpr hb)
  rw [stream_inj h h' hs] at hmem
  obtain ⟨⟨q, b'⟩, hf, he⟩ := List.mem_map.mp hmem
  obtain ⟨rfl, hhash⟩ := Prod.mk.inj he
  exact ⟨b', (mem_visibleFiles about' h').mp hf, hhash.symm⟩

/-- Equal streams come from equal files, or the contents of two files collide. -/
theorem visible?_eq_or_collides (h : wellNamedIn es = true) (h' : wellNamedIn es' = true)
    (hs : stream hash es = stream hash es') :
    visible? (.dir es about) = visible? (.dir es' about') ∨
      ∃ p b b', visible? (.dir es about) p = some b ∧ visible? (.dir es' about') p = some b' ∧
        Collides hash b b' := by
  refine or_iff_not_imp_right.mpr fun hno => funext fun p => Option.ext fun b => ?_
  have hsame : ∀ {b b'}, visible? (.dir es about) p = some b →
      visible? (.dir es' about') p = some b' → hash b = hash b' → b = b' := fun hb hb' hhash =>
    by_contra fun hne => hno ⟨p, _, _, hb, hb', hne, hhash⟩
  constructor
  · intro hb
    obtain ⟨b', hb', hhash⟩ := exists_visible?_of_stream_eq about' h h' hs hb
    rw [hsame hb hb' hhash]
    exact hb'
  · intro hb'
    obtain ⟨b, hb, hhash⟩ := exists_visible?_of_stream_eq about h' h hs.symm hb'
    rw [← hsame hb hb' hhash.symm]
    exact hb

/-- A directory has a checksum exactly if everything visible in it can be opened by its path. Of two
directories in any places, listed in any order, the checksums are equal if the visible files are;
and if the checksums are equal then so are the visible files, or the hash takes two different
contents that stand under one path, or two different streams, to the same value. -/
theorem ofPath_determined (hash : Hash) {root root' : FileTree} {cwd cwd' : List Text}
    {path path' : Text} (hroot : root.find? cwd path = some (.dir es about))
    (h : wellNamedIn es = true) (hroot' : root'.find? cwd' path' = some (.dir es' about'))
    (h' : wellNamedIn es' = true) :
    ((∃ x, ofPath hash root cwd path = .ok x) ↔
      Fits isDir path (.dir es about) ∧ Fits isFile path (.dir es about)) ∧
    ∀ x x', ofPath hash root cwd path = .ok x → ofPath hash root' cwd' path' = .ok x' →
      (visible? (.dir es about) = visible? (.dir es' about') → x = x') ∧
      (x = x' → visible? (.dir es about) = visible? (.dir es' about') ∨
        (∃ p b b', visible? (.dir es about) p = some b ∧ visible? (.dir es' about') p = some b' ∧
          Collides hash b b') ∨
        Collides hash (stream hash es) (stream hash es')) := by
  simp only [ofPath_eq_ok_iff hroot h, ofPath_eq_ok_iff hroot' h']
  refine ⟨by simp, ?_⟩
  rintro x x' ⟨-, rfl⟩ ⟨-, rfl⟩
  refine ⟨ofEntries_eq_of_visible?_eq h h', fun hx => ?_⟩
  by_cases hs : stream hash es = stream hash es'
  · exact (visible?_eq_or_collides h h' hs).imp_right .inl
  · exact .inr (.inr ⟨hs, hexText_inj hx⟩)

/-! ### A release beside the directory it was made from -/

/-- A directory that is worked in, with hidden entries, a link and an empty directory. -/
def workingCopy : List (Text × FileTree) :=
  [("src", Workspace.directory
      (Workspace.textFiles [(".lib.go.swp", ["x"]), ("lib.go", ["package lib"])])),
    (".git", Workspace.directory (Workspace.textFiles [("HEAD", ["main"])])),
    ("latest", .ofTarget "main.go"),
    ("main.go", .ofData (Utf8.encode "package main\n") false), ("logs", .emptyDir)]

/-- What is shipped of it, in another order. -/
def release : List (Text × FileTree) :=
  [("main.go", .ofData (Utf8.encode "package main\n") false),
    ("src", Workspace.directory (Workspace.textFiles [("lib.go", ["package lib"])]))]

/-- A system with both of them, and a link that leads to the release. -/
def site : FileTree :=
  Workspace.directory
    [("home", Workspace.directory [("app", Workspace.directory workingCopy)]),
      ("srv", Workspace.directory [("one", Workspace.directory release)]),
      ("current", .ofTarget "srv/one")]

/-- The release has the checksum of the directory that is worked in. -/
theorem ofPath_determined_release : ∃ x, ofPath Blake3.hash site ["home"] "./app" = .ok x ∧
    ofPath Blake3.hash site [] "current/" = .ok x := by
  have hroot : site.find? ["home"] "./app" = some (Workspace.directory workingCopy) := by cbv
  have hroot' : site.find? [] "current/" = some (Workspace.directory release) := by cbv
  have h : wellNamedIn workingCopy = true := by decide
  have h' : wellNamedIn release = true := by decide
  have hmap : visible? (Workspace.directory workingCopy) = visible? (Workspace.directory release) :=
    (filesIn_perm_iff h h').mp (by decide)
  obtain ⟨hok, hsame⟩ := ofPath_determined Blake3.hash hroot h hroot' h'
  obtain ⟨hok', -⟩ := ofPath_determined Blake3.hash hroot' h' hroot h
  obtain ⟨x, hx⟩ := hok.mpr
    ⟨(longDirectory_eq_none_iff h _).mp (by cbv), (fits_isFile_iff h _).mpr (by decide)⟩
  obtain ⟨x', hx'⟩ := hok'.mpr
    ⟨(longDirectory_eq_none_iff h' _).mp (by cbv), (fits_isFile_iff h' _).mpr (by decide)⟩
  obtain rfl := (hsame x x' hx hx').1 hmap
  exact ⟨x, hx, hx'⟩

end Checksum

end Rollout
