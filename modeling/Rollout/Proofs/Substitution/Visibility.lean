import Rollout.Proofs.Substitution.Rounds

/-!
Which value a name has in a scope, and which values matter to a line. A scope that was derived from
the scope of an Upfile, in however many steps, knows a name by the value injected last on the way to
it, or else by the lines of a command without guards, or else by the variable
(`substitute_of_derived`). What a line expands to depends only on those names whose keys stand in
the texts that its expansion passes through (`substitute_eq_of_unreferenced`).
-/

namespace Rollout

variable {vars vars' table table' : Dict Text} {s : Scope} {line name t : Text} {u u' : Upfile}

/-! ### Values by look-up -/

/-- What a name stands for as a command without guards: its lines, without the blanks around. -/
def Upfile.value? (u : Upfile) (name : Text) : Option Text :=
  (u.get? name).bind fun c =>
    if c.guards = [] then some (Text.trim (Text.join ['\n'] c.lines)) else none

theorem Upfile.get?_values (u : Upfile) (name : Text) : u.values.get? name = u.value? name := by
  rw [values, Dict.get?_map, Dict.get?_filter, value?, get?]
  cases u.commands.get? name with
  | none => rfl
  | some c => cases hg : c.guards <;> simp [Option.filter, Command.isValue, Command.value, hg]

namespace Scope

/-- The value that was injected last for a name. -/
def injection? (s : Scope) (name : Text) : Option Text := s.injected.reverse.lookup name

/-- A value that was injected wins over a command without guards, and that over a variable. -/
theorem get?_visible (vars : Dict Text) (s : Scope) (name : Text) :
    (s.visible vars).get? name =
      (s.injection? name).or ((s.upfile.value? name).or (vars.get? name)) := by
  rw [visible, Dict.get?_insertAll, Dict.get?_insertAll_entries, Upfile.get?_values, injection?]

theorem lookup_filter_ne {n name : Text} (h : name ≠ n) : ∀ es : List (Text × Text),
    (es.filter fun e => e.1 ≠ n).lookup name = es.lookup name
  | [] => rfl
  | (j, v) :: es => by
    by_cases hj : j = n
    · have hne : name ≠ j := hj ▸ h
      rw [List.filter_cons_of_neg (by simp [hj]), lookup_filter_ne h es, List.lookup_cons,
        beq_false_of_ne hne]
    · rw [List.filter_cons_of_pos (by simp [hj]), List.lookup_cons, List.lookup_cons,
        lookup_filter_ne h es]

theorem injection?_withValue (s : Scope) (n v name : Text) :
    (s.withValue n v).injection? name = if name = n then some v else s.injection? name := by
  simp only [injection?, withValue, List.reverse_append, List.reverse_singleton,
    List.singleton_append, List.lookup_cons]
  by_cases hn : name = n
  · simp [hn]
  · rw [beq_false_of_ne hn, if_neg hn, ← List.filter_reverse, lookup_filter_ne hn]

/-! ### Scopes derived one from another -/

/-- The scope that a path of injections leads to from the Upfile alone. -/
def along (u : Upfile) (path : List (Text × Text)) : Scope :=
  path.foldl (fun s e => s.withValue e.1 e.2) (ofUpfile u)

theorem along_concat (u : Upfile) (path : List (Text × Text)) (n v : Text) :
    along u (path ++ [(n, v)]) = (along u path).withValue n v :=
  List.foldl_concat ..

/-- A path leads to a scope of its Upfile, which has injected what stands last on the path. -/
theorem along_spec (u : Upfile) (path : List (Text × Text)) :
    (along u path).upfile = u ∧
      ∀ name, (along u path).injection? name = path.reverse.lookup name := by
  induction path using List.reverseRecOn with
  | nil => exact ⟨rfl, fun _ => rfl⟩
  | append_singleton path e ih =>
    obtain ⟨hu, hi⟩ := ih
    rw [along_concat]
    refine ⟨hu, fun name => ?_⟩
    rw [injection?_withValue, hi, List.reverse_concat, List.lookup_cons]
    by_cases hn : name = e.1
    · simp [hn]
    · simp [hn, beq_false_of_ne hn]

end Scope

/-- A derivation: from which scope of a tree it starts, by its place, and the value that it injects
on top of it. -/
structure Derivation where
  /-- The place of the scope that it starts from. -/
  parent : Nat
  /-- The name. -/
  name : Text
  /-- Its value. -/
  value : Text

/-- The nodes of a tree with the one that is derived; from no node nothing is derived. -/
def Derivation.grow {α : Type} (inject : α → Text → Text → α) (nodes : List α) (d : Derivation) :
    List α :=
  nodes ++ (nodes[d.parent]?.map (inject · d.name d.value)).toList

/-- The scopes of a tree over an Upfile, in the order in which they are derived. -/
def Scope.tree (u : Upfile) (ds : List Derivation) : List Scope :=
  ds.foldl (Derivation.grow Scope.withValue) [Scope.ofUpfile u]

/-- For each scope of a tree the injections on the way to it. -/
def Scope.paths (ds : List Derivation) : List (List (Text × Text)) :=
  ds.foldl (Derivation.grow fun path n v => path ++ [(n, v)]) [[]]

variable {α β : Type} {inject : α → Text → Text → α} {inject' : β → Text → Text → β}

/-- What agrees on injections agrees on whole trees. -/
theorem Derivation.map_grow {f : α → β} (hf : ∀ a n v, f (inject a n v) = inject' (f a) n v)
    (nodes : List α) (d : Derivation) :
    grow inject' (nodes.map f) d = (grow inject nodes d).map f := by
  rw [grow, grow, List.map_append, List.getElem?_map]
  cases nodes[d.parent]? with
  | none => rfl
  | some a => simp [hf]

/-- Nodes that are there stay as they are, whatever is derived from them. -/
theorem Derivation.prefix_foldl_grow (inject : α → Text → Text → α) :
    ∀ (ds : List Derivation) (nodes : List α), nodes <+: ds.foldl (grow inject) nodes
  | [], _ => List.prefix_refl _
  | d :: ds, nodes =>
    (List.prefix_append nodes _).trans (prefix_foldl_grow inject ds (grow inject nodes d))

/-- The scopes of a tree are those that their paths lead to. -/
theorem Scope.tree_eq_map_along (u : Upfile) (ds : List Derivation) :
    tree u ds = (paths ds).map (along u) := by
  have hgrow (nodes : List (List (Text × Text))) (d : Derivation) :=
    Derivation.map_grow (fun path n v => along_concat u path n v) nodes d
  rw [paths, ← List.foldl_hom (List.map (along u)) hgrow]
  rfl

/-! ### Precedence -/

/-- The same values are visible, so every line expands to the same. -/
theorem substitute_congr_of_get? {s s' : Scope}
    (h : ∀ name, (s.visible vars).get? name = (s'.visible vars).get? name) (line : Text) :
    substitute vars s line = substitute vars s' line := by
  rw [substitute, substitute, Dict.eq_of_get?_eq h]

/-- Two Upfiles with the same commands, but for commands with guards. -/
def Upfile.SameValues (u u' : Upfile) : Prop :=
  ∀ name, u.get? name = u'.get? name ∨
    ((∀ c, u.get? name = some c → c.guards ≠ []) ∧ ∀ c, u'.get? name = some c → c.guards ≠ [])

theorem Upfile.value?_eq_none (h : ∀ c, u.get? name = some c → c.guards ≠ []) :
    u.value? name = none := by
  rw [value?, Option.bind_eq_none_iff]
  exact fun c hc => if_neg (h c hc)

theorem Upfile.SameValues.value?_eq (h : u.SameValues u') (name : Text) :
    u.value? name = u'.value? name := by
  rcases h name with he | ⟨hu, hu'⟩
  · rw [value?, value?, he]
  · rw [value?_eq_none hu, value?_eq_none hu']

/-- At the end of a path of injections a name stands for the value injected last for it, else for
the lines of the command of that name if it has no guards, else for the variable. -/
theorem Scope.get?_visible_along (vars : Dict Text) (u : Upfile) (path : List (Text × Text))
    (name : Text) : ((along u path).visible vars).get? name =
      (path.reverse.lookup name).or ((u.value? name).or (vars.get? name)) := by
  obtain ⟨hu, hi⟩ := along_spec u path
  rw [get?_visible, hu, hi]

/-- In a tree of scopes over an Upfile each scope knows a name by the value injected last on the way
to it, else by the lines of a command without guards, else by the variable; and it stays as it is
when others are derived. A command with guards does not hide the variable of its name. So a line
expands to the same in two scopes whose ways agree on the last value of each name, and commands with
guards may be changed, removed or added without a trace. -/
theorem substitute_of_derived (vars : Dict Text) (u : Upfile) :
    (∀ ds, Scope.tree u ds = (Scope.paths ds).map (Scope.along u) ∧
      ∀ ds', Scope.tree u ds <+: Scope.tree u (ds ++ ds')) ∧
    (∀ path name, ((Scope.along u path).visible vars).get? name =
      (path.reverse.lookup name).or ((u.value? name).or (vars.get? name))) ∧
    (∀ path name, (∀ c, u.get? name = some c → c.guards ≠ []) →
      ((Scope.along u path).visible vars).get? name =
        (path.reverse.lookup name).or (vars.get? name)) ∧
    (∀ path path', (∀ name, path.reverse.lookup name = path'.reverse.lookup name) →
      ∀ line, substitute vars (Scope.along u path) line =
        substitute vars (Scope.along u path') line) ∧
    ∀ u', u.SameValues u' → ∀ path line,
      substitute vars (Scope.along u path) line = substitute vars (Scope.along u' path) line := by
  refine ⟨fun ds => ⟨Scope.tree_eq_map_along u ds, fun ds' => ?_⟩,
    Scope.get?_visible_along vars u, fun path name h => ?_,
    fun path path' h => substitute_congr_of_get? fun name => ?_,
    fun u' h path => substitute_congr_of_get? fun name => ?_⟩
  · rw [Scope.tree, Scope.tree, List.foldl_append]
    exact Derivation.prefix_foldl_grow ..
  · rw [Scope.get?_visible_along, Upfile.value?_eq_none h, Option.none_or]
  · rw [Scope.get?_visible_along, Scope.get?_visible_along, h]
  · rw [Scope.get?_visible_along, Scope.get?_visible_along, h.value?_eq]

/-- A name by its variable, since its command has a guard, then by the value injected last. -/
example :
    let u : Upfile := ⟨.ofList [("tag", ⟨["fresh"], ["git tag"]⟩), ("fresh", ⟨[], ["true"]⟩)], "tag"⟩
    let path : List (Text × Text) := [("tag", "v2"), ("server", "web1"), ("tag", "v3")]
    substitute (.ofList [("tag", "v1")]) (Scope.ofUpfile u) "push $tag" = .ok "push v1" ∧
      substitute (.ofList [("tag", "v1")]) (Scope.along u path) "push $tag" = .ok "push v3" := by
  decide +kernel

/-! ### Names that no text refers to -/

/-- The maps agree on each name whose key stands in the text. -/
def AgreeOn (table table' : Dict Text) (t : Text) : Prop :=
  ∀ name, key name <:+: t → table.get? name = table'.get? name

namespace AgreeOn

theorem of_infix {t' : Text} (h : AgreeOn table table' t) (ht : t' <:+: t) :
    AgreeOn table table' t' :=
  fun name hk => h name (hk.trans ht)

theorem mem_keys_iff (h : AgreeOn table table' t) (hk : key name <:+: t) :
    name ∈ table.keys ↔ name ∈ table'.keys := by
  rw [Dict.mem_keys_iff, Dict.mem_keys_iff, h name hk]

theorem keyFree_iff (h : AgreeOn table table' t) : KeyFree table t ↔ KeyFree table' t :=
  ⟨fun hf name hn hk => hf name ((h.mem_keys_iff hk).mpr hn) hk,
    fun hf name hn hk => hf name ((h.mem_keys_iff hk).mp hn) hk⟩

theorem hasReference_eq (h : AgreeOn table table' t) :
    hasReference table t = hasReference table' t := by
  rw [Bool.eq_iff_iff, ← not_iff_not, Bool.not_eq_true, Bool.not_eq_true, hasReference_eq_false_iff,
    hasReference_eq_false_iff, h.keyFree_iff]

/-- A key that stands nowhere in the text is neither replaced nor in the way of another one. -/
theorem pass_eq (h : AgreeOn table table' t) : pass table t = pass table' t := by
  refine (scansTo_iff.mp ?_).symm
  have hs := scansTo_pass table t
  generalize pass table t = r at hs
  induction hs with
  | done => exact .done
  | @copied c cs _ hno _ ih =>
    refine .copied (fun n hn hp => ?_) (ih (h.of_infix (List.suffix_cons c cs).isInfix))
    exact hno n ((h.mem_keys_iff hp.isInfix).mpr hn) hp
  | @replaced n v rest _ hv hl _ ih =>
    have hkey : key n <:+: key n ++ rest := (List.prefix_append ..).isInfix
    refine .replaced (h n hkey ▸ hv) (fun n' hn' hp => ?_)
      (ih (h.of_infix (List.suffix_append ..).isInfix))
    exact hl n' ((h.mem_keys_iff hp.isInfix).mpr hn') hp

end AgreeOn

/-- The texts that so many rounds pass through: the text itself, and what each pass makes of the one
before it, until a pass changes nothing. -/
def passedTexts (table : Dict Text) : Nat → Text → List Text
  | 0, t => [t]
  | rounds + 1, t =>
    if pass table t = t then [t] else t :: passedTexts table rounds (pass table t)

/-- Each round makes the same of its text with both maps, and so hands the same text to the next. -/
theorem settle_eq_of_agreeOn : ∀ {rounds : Nat} {t : Text},
    (∀ u ∈ passedTexts table rounds t, AgreeOn table table' u) →
    settle table line rounds t = settle table' line rounds t
  | 0, _, _ => rfl
  | rounds + 1, t, h => by
    rw [passedTexts] at h
    have ht : AgreeOn table table' t := h t (by split <;> simp)
    rw [settle, settle, ← ht.pass_eq, ← ht.hasReference_eq]
    split
    · rfl
    · next hne =>
      rw [if_neg hne] at h
      exact settle_eq_of_agreeOn fun u hu => h u (List.mem_cons_of_mem t hu)

/-- Variables that are added, removed or changed do not matter to a line if their keys stand in none
of the texts that its expansion passes through: it expands to the same, or is taken for cyclic with
both maps. -/
theorem substitute_eq_of_unreferenced
    (h : ∀ name, vars.get? name ≠ vars'.get? name →
      ∀ t ∈ passedTexts (s.visible vars) maxRounds line, ¬ key name <:+: t) :
    substitute vars s line = substitute vars' s line := by
  refine settle_eq_of_agreeOn fun t ht name hk => ?_
  have hvars : vars.get? name = vars'.get? name := by
    by_contra hne
    exact h name hne t ht hk
  rw [Scope.get?_visible, Scope.get?_visible, hvars]

/-! ### A login whose user is a variable -/

/-- A command that refers to a variable. -/
def login : Upfile := ⟨.ofList [("remote", ⟨[], ["$user@web1"]⟩)], "remote"⟩

/-- The variable, and two more. -/
def loginVars : Dict Text := .ofList [("user", "ops"), ("lang", "en"), ("tty", "$user")]

/-- The variable, one of a longer name than that of the command, and one that stands for itself. -/
def otherVars : Dict Text :=
  .ofList [("user", "ops"), ("remote_user", "root"), ("lang", "$lang")]

/-- Neither a longer name nor one without an end matters to a line that they do not stand in. -/
theorem substitute_eq_of_unreferenced_login :
    (∀ name, loginVars.get? name ≠ otherVars.get? name →
      ∀ t ∈ passedTexts ((Scope.ofUpfile login).visible loginVars) maxRounds "ssh $remote true",
        ¬ key name <:+: t) ∧
      substitute loginVars (Scope.ofUpfile login) "ssh $remote true" = .ok "ssh ops@web1 true" ∧
      substitute otherVars (Scope.ofUpfile login) "ssh $remote true" = .ok "ssh ops@web1 true" := by
  have hkeys : ∀ name ∈ loginVars.keys ++ otherVars.keys,
      loginVars.get? name ≠ otherVars.get? name →
      ∀ t ∈ passedTexts ((Scope.ofUpfile login).visible loginVars) maxRounds "ssh $remote true",
        ¬ key name <:+: t := by
    decide +kernel
  have h := fun name hne => hkeys name (Dict.mem_keys_of_get?_ne hne) hne
  have hok : substitute loginVars (Scope.ofUpfile login) "ssh $remote true" =
      .ok "ssh ops@web1 true" := by
    decide +kernel
  exact ⟨h, hok, substitute_eq_of_unreferenced h ▸ hok⟩

/-- A variable whose key stands in the line matters, although the line refers to a longer name. -/
example :
    substitute (.ofList [("rem", "x")]) (Scope.ofUpfile login) "$remotes" = .ok "$user@web1s" ∧
      substitute (.ofList [("rem", "x"), ("remotes", "y")]) (Scope.ofUpfile login) "$remotes" =
        .ok "y" := by
  decide +kernel

end Rollout
