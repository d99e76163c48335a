import Rollout.Machine.Shell.Builtin.Basic
import Rollout.Machine.Shell.Field

/-!
Commands about variables: giving them values and marks, showing them, and taking them away; and the options and
the arguments of the shell.
-/

namespace Rollout.Shell.Builtin

/-! ### Showing variables -/

/-- The value of a variable as it is shown. -/
def shownContent (d : Dialect) : Content → Text
  | .unset => []
  | .text t => '=' :: (match d with
    | .plain => Quoting.plain t
    | .rich => Quoting.double t)
  | .list es =>
    let element (e : Nat × Text) : Text := '[' :: Text.ofNat e.1 ++ ']' :: '=' :: Quoting.double e.2
    '=' :: '(' :: Text.join [' '] (es.map element) ++ [')']
  | .table es =>
    let key (t : Text) : Text := if Quoting.isNeeded t || t.any Quoting.isHidden || t = ['@'] || t = ['*'] then Quoting.double t else t
    let element (e : Text × Text) : Text := '[' :: key e.1 ++ ']' :: '=' :: Quoting.double e.2 ++ [' ']
    '=' :: '(' :: (inBuckets es).flatMap element ++ [')']

/-- The letters of the marks of a variable. -/
def marksOf (v : Variable) : Text :=
  let kind : Text := match v.content with
    | .list _ => ['a']
    | .table _ => ['A']
    | _ => []
  let case : Text := match v.casing with
    | .kept => []
    | .upper => ['u']
    | .lower => ['l']
    | .capital => ['c']
  let marks := kind ++ (if v.integer then ['i'] else []) ++ (if v.reference then ['n'] else [])
    ++ (if v.readonly then ['r'] else []) ++ (if v.exported then ['x'] else []) ++ case
  '-' :: if marks = [] then ['-'] else marks

/-- A variable as the rich dialect declares it. -/
def declaration (name : Text) (v : Variable) : Text :=
  "declare " ++ marksOf v ++ ' ' :: name ++ if v.bare then [] else shownContent .rich v.content

/-- A variable with the value that it has now. -/
def current (s : Interpreter) (name : Text) (v : Variable) : Variable :=
  match s.changing? name with
  | some t => { v with content := .text t }
  | none => v

/-- Show the variables that pass a test. -/
def showVariables (word : Text) (p : Variable → Bool) : Action Nat := do
  let s ← get
  let shown := s.vars.entries.filter fun e => p e.2
  Unix.say (shown.flatMap fun (name, v) => (match s.dialect with
    | .plain => word ++ ' ' :: name ++ shownContent .plain v.content
    | .rich => declaration name (current s name v)) ++ ['\n'])
  return 0

/-! ### Marking variables -/

/-- The name in front of a sign of assignment, whether the value is added, and the value. -/
def assignmentOf (d : Dialect) (t : Text) : Text × Bool × Option Text :=
  let name := t.takeWhile (· ≠ '=')
  if name.length < t.length then
    let value := t.drop (name.length + 1)
    if d = .rich && name.getLast? = some '+' then (name.dropLast, true, some value) else (name, false, some value)
  else (t, false, none)

/-- Refuse a name. -/
def refuseName (t name : Text) : Action Nat := do
  match (← get).dialect with
  | .plain => abort (name ++ ": bad variable name")
  | .rich => do
    protest ('`' :: t ++ "': not a valid identifier")
    return 1

/-- Show named commands, or only that they are there; perhaps only those that programs get. -/
def showFunctions (onlyNames onlyShared : Bool) : Action Nat := do
  let s ← get
  let sorted := s.functions.entries.mergeSort fun a b => !decide (b.1 < a.1)
  Unix.say ((sorted.filter fun e => !onlyShared || s.shared.contains e.1).flatMap fun (name, f) =>
    let isShared := s.shared.contains name
    let line : Text := "declare " ++ (if isShared then "-fx ".toList else "-f ") ++ name ++ ['\n']
    (if onlyNames then [] else Command.definition name f.body ++ ['\n']) ++ if onlyNames || isShared then line else [])
  return 0

/-- Give variables values and a mark. -/
def mark (f : Variable → Variable) : Routine := forEach fun t => do
  let s ← get
  let (name, extend, value) := assignmentOf s.dialect t
  if !Shell.isName name then refuseName t name
  else do
    match value with
    | some v => assign name ((if extend then (s.value? name).getD [] else []) ++ v)
    | none => pure ()
    changeVariable name f
    return 0

/-- Mark variables for programs. -/
def exportTo : Routine := fun ts => do
  let (os, ts) ← match (← get).dialect with
    | .plain => options "p" "" ts
    | .rich => options "pnf" "" ts
  if has os 'f' then
    if ts = [] then showFunctions false true
    else forEach (fun name => do
      let s ← get
      if s.functions.contains name then do
        set { s with shared := (if has os 'n' then [] else [name]) ++ s.shared.filter (· ≠ name) }
        return 0
      else do
        protest (name ++ ": not a function")
        return 1) ts
  else if ts = [] then showVariables "export" (·.exported)
  else mark (fun v => { v with exported := !has os 'n' }) ts

/-- Mark variables that must stay as they are. -/
def readonly : Routine := fun ts => do
  let (os, ts) ← match (← get).dialect with
    | .plain => options "p" "" ts
    | .rich => options "paAf" "" ts
  if has os 'f' && ts = [] then return 0
  else if ts = [] || has os 'p' then showVariables "readonly" fun v => v.readonly && (os.all fun (c, _) =>
    (c ≠ 'a' && c ≠ 'A') || (marksOf v).contains c)
  else mark (fun v => { v with readonly := true }) ts

/-- Keep what a variable is, to come back when the named command is left. -/
def hide (name : Text) : Action Unit := do
  let s ← get
  if s.hidden.any fun h => h.1 = name then return
  else set { s with hidden := (name, s.vars.get? name) :: s.hidden }

/-- Keep the options, to come back when the named command is left. -/
def hideOptions : Action Nat := do
  modify fun s => { s with hiddenOptions := some (s.hiddenOptions.getD s.options) }
  return 0

/-- Declare variables of the plain dialect that come back when the named command is left. -/
def declareLocal : Routine := fun ts => do
  if (← get).depth = 0 then abort "not in a function"
  else forEach (fun t => do
    let (name, _, value) := assignmentOf .plain t
    if t = ['-'] then hideOptions
    else if !Shell.isName name then refuseName t name
    else do
      hide name
      match value with
      | some v => assign name v
      | none => changeVariable name id
      return 0) ts

/-- The marks that letters stand for, put on a variable or taken from it. -/
def marked (letters : Text) (on : Bool) (v : Variable) : Variable :=
  letters.foldl (fun v c => match c with
    | 'x' => { v with exported := on }
    | 'r' => { v with readonly := on || v.readonly }
    | 'i' => { v with integer := on }
    | 'u' => { v with casing := if on then .upper else .kept }
    | 'l' => { v with casing := if on then .lower else .kept }
    | 'c' => { v with casing := if on then .capital else .kept }
    | 'a' => match v.content with
      | .list _ => v
      | .text t => v.holding (.list [(0, t)])
      | _ => { v with content := .list [], bare := true }
    | 'A' => match v.content with
      | .table _ => v
      | .text t => v.holding (.table (.ofList [(['0'], t)]))
      | _ => { v with content := .table .empty, bare := true }
    | _ => v) v

/-- Let a name stand for a variable that a value names, or for none yet. -/
def declareReference (name : Text) (value : Option Text) : Action Nat := do
  let s ← get
  match value with
  | none => changeOwn name fun v => { v with reference := true }
  | some t => do
    if t = name then
      if s.depth = 0 then
        protest (name ++ ": nameref variable self references not allowed")
        return 1
      else protest ("warning: " ++ name ++ ": circular name reference")
    if t ≠ [] && !Shell.isName (elementOf t).1 then
      protest ('`' :: t ++ "': invalid variable name for name reference")
      return 1
    changeOwn name fun v => { v.holding (.text t) with reference := true }
  return 0

/-- Declare a variable of the rich dialect with marks that are put on it or taken from it. -/
def declareOne (letters dropped : Text) (t : Text) : Action Nat := do
  let s ← get
  let (target, extend, value) := assignmentOf .rich t
  let (name, _) := elementOf target
  if t = ['-'] && s.depth ≠ 0 then hideOptions
  else if !Shell.isName name then refuseName t name
  else do
    let isOwn := s.depth ≠ 0 && !letters.contains 'g'
    if isOwn then do
      let fresh := !(s.hidden.any fun h => h.1 = name)
      hide name
      if fresh && !letters.contains 'I' then
        let old := s.vars.get? name
        changeOwn name fun _ => { Variable.empty with
          exported := (old.map Variable.exported).getD false
          readonly := (old.map Variable.readonly).getD false }
    if letters.contains 'n' then declareReference name value
    else if dropped.contains 'n' then do
      changeOwn name fun v => { v with reference := false }
      return 0
    else do
      let s ← get
      let kind := (s.holder? name).map Variable.content
      let refuseKind (source target : String) : Action Nat := do
        protest (name ++ ": cannot convert " ++ source.toList ++ " to " ++ target ++ " array")
        return 1
      match kind, letters.contains 'a', letters.contains 'A' with
      | some (.table _), true, _ => refuseKind "associative" "indexed"
      | some (.list _), _, true => refuseKind "indexed" "associative"
      | _, _, _ => do
        let isLocked := ((s.holder? name).map Variable.readonly).getD false
        if isLocked && (value.isSome || dropped.contains 'r') then do
          protest (name ++ ": readonly variable")
          return 1
        else do
          changeVariable name (marked (letters.filter (· ≠ 'r')) true)
          changeVariable name (marked dropped false)
          let s ← get
          let isInteger := ((s.holder? name).map Variable.integer).getD false
          match value with
          | some v =>
            let old := if extend then (s.value? name).getD [] else []
            assignTo target (if extend && isInteger then old ++ "+(" ++ v ++ [')'] else old ++ v)
          | none => pure ()
          if letters.contains 'r' then changeVariable name (marked ['r'] true)
          return 0

/-- Show all variables. -/
def showAll : Action Nat := do
  let s ← get
  Unix.say (s.vars.entries.flatMap fun (name, v) => match v.content, s.dialect with
    | .unset, _ => []
    | c, .plain => name ++ shownContent .plain c ++ ['\n']
    | .text t, .rich => name ++ '=' :: Quoting.asNeeded t ++ ['\n']
    | c, .rich => name ++ shownContent .rich c ++ ['\n'])
  return 0

/-- Show named commands by their names, or tell that they are missing. -/
def showNamed (onlyNames : Bool) : Routine := forEach fun name => do
  match (← get).functions.get? name with
  | some f => do
    print (if onlyNames then name else Command.definition name f.body)
    return 0
  | none => return 1

/-- Declare variables of the rich dialect, or show them. -/
def declare : Routine := fun ts => do
  let s ← get
  if s.command = "local".toList && s.depth = 0 then do
    protest "can only be used in a function"
    return 1
  else do
    let minus := ts.takeWhile fun t => t.head? = some '+' && 1 < t.length
    let (os, rest) ← options "aAcfFgiIlnprtux" "" (ts.drop minus.length)
    let dropped := minus.flatMap (·.drop 1)
    let letters := os.map (·.1)
    if has os 'f' || has os 'F' then
      if rest = [] then showFunctions (has os 'F') (has os 'x') else showNamed (has os 'F') rest
    else if has os 'p' && rest ≠ [] then
      forEach (fun name => do
        match s.vars.get? name with
        | some v => do
          print (declaration name (current s name v))
          return 0
        | none => match s.changingArray? name with
          | some ts => do
            print (declaration name { Variable.empty with content := .list ((List.range ts.length).zip ts) })
            return 0
          | none => do
            protest (name ++ ": not found")
            return 1) rest
    else if rest = [] then
      if letters.isEmpty && minus.isEmpty then showAll
      else showVariables [] fun v => letters.all fun c => (marksOf v).contains c || c = 'p'
    else forEach (declareOne letters dropped) rest

/-- Evaluate arithmetic expressions. -/
def letAll : Routine := fun ts => do
  if ts = [] then do
    protest "expression expected"
    return 1
  else evaluate ts
where
  /-- Evaluate expressions; the last value counts. -/
  evaluate : List Text → Action Nat
    | [] => return 1
    | t :: ts => do
      let s ← get
      match Arithmetic.value .rich s.lookup t with
      | .ok (n, assigned) => do
        assignNumbers assigned.reverse
        if ts = [] then return if n = 0 then 1 else 0 else evaluate ts
      | .error e => do
        protest (e.message .rich)
        return 1

/-! ### Taking away -/

/-- Take an element away. -/
def unsetElement (name index : Text) : Action Nat := do
  let s ← get
  let target := s.target name
  let isLocked := ((s.vars.get? target).map Variable.readonly).getD false
  let drop : Action Nat := do
    modify fun s => { s with toState := s.without target }
    return 0
  if isLocked then do
    protest (name ++ ": cannot unset: readonly variable")
    return 1
  else match (s.vars.get? target).map Variable.content with
  | some (.table es) => do
    assignContent target (.table (es.filter fun k _ => k ≠ index))
    return 0
  | some (.list es) =>
    if index = ['@'] || index = ['*'] then drop
    else match Arithmetic.value .rich s.lookup index with
      | .ok (i, _) => do
        match indexIn es i with
        | some n => do
          assignContent target (.list (es.filter fun e => e.1 ≠ n))
          return 0
        | none => do
          protest ('[' :: index ++ "]: bad array subscript")
          return 1
      | .error e => giveUp (e.message .rich)
  | some (.text _) =>
    if index = ['0'] then drop
    else do
      protest (name ++ ": not an array variable")
      return 1
  | _ => return 0

/-- Take a variable or a named command away. -/
def unsetOne (os : List (Char × Text)) (t : Text) : Action Nat := do
  let s ← get
  let (name, index) := elementOf t
  let dropFunction : Action Nat := do
    modify fun s => { s with functions := s.functions.filter fun n _ => n ≠ t }
    return 0
  let dropVariable (target : Text) : Action Nat := do
    match s.vars.get? target, s.dialect with
    | some v, d =>
      if v.readonly then match d with
        | .plain => abort (t ++ ": is read only")
        | .rich => do
          protest (t ++ ": cannot unset: readonly variable")
          return 1
      else do
        set { s with toState := s.without target }
        return 0
    | none, .rich => if has os 'v' then return 0 else dropFunction
    | none, .plain => return 0
  if has os 'f' && has os 'v' then do
    match s.dialect with
    | .plain => dropFunction
    | .rich => do
      protest "cannot simultaneously unset a function and a variable"
      return 1
  else if has os 'f' then dropFunction
  else if has os 'n' then dropVariable t
  else match s.dialect, index with
    | .rich, some i => unsetElement name i
    | .rich, none =>
      if has os 'v' && !Shell.isName t then refuseName t t
      else match elementOf (s.target t) with
        | (target, none) => dropVariable target
        | (target, some i) => unsetElement target i
    | .plain, _ => if Shell.isName t then dropVariable t else abort (t ++ ": bad variable name")

/-- Take variables or named commands away. -/
def unset : Routine := fun ts => do
  let (os, ts) ← match (← get).dialect with
    | .plain => options "vf" "" ts
    | .rich => options "vfn" "" ts
  forEach (unsetOne os) ts

/-! ### Options and arguments -/

/-- The names of the options, in the order in which they are shown. -/
def optionNames (d : Dialect) : List Text :=
  (match d with
    | .plain => ["errexit", "noglob", "ignoreeof", "interactive", "monitor", "noexec", "stdin", "xtrace",
      "verbose", "vi", "emacs", "noclobber", "allexport", "notify", "nounset", "privileged", "nolog", "debug"]
    | .rich => ["allexport", "braceexpand", "emacs", "errexit", "errtrace", "functrace", "hashall", "histexpand",
      "history", "ignoreeof", "interactive-comments", "keyword", "monitor", "noclobber", "noexec", "noglob",
      "nolog", "notify", "nounset", "onecmd", "physical", "pipefail", "posix", "privileged", "verbose", "vi",
      "xtrace"]).map String.toList

/-- Show all options. -/
def showOptions (asCommands : Bool) : Action Unit := do
  let s ← get
  let line (name : Text) : Text :=
    let on := s.options.contains name
    let padded (n : Nat) : Text := name ++ List.replicate (n - name.length) ' '
    (if asCommands then "set " ++ (if on then "-o ".toList else "+o ") ++ name
      else match s.dialect with
        | .plain => padded 16 ++ (if on then "on".toList else "off")
        | .rich => padded 15 ++ '\t' :: (if on then "on".toList else "off")) ++ ['\n']
  let heading : Text := if s.dialect = .plain && !asCommands then "Current option settings\n" else []
  Unix.say (heading ++ (optionNames s.dialect).flatMap line)

/-- Turn options on or off that letters stand for; the argument after them may name one. -/
def setLetters (on : Bool) : Text → List Text → Action (List Text)
  | [], ts => return ts
  | c :: cs, ts => do
    let s ← get
    if c = 'o' then match ts with
      | [] => do
        showOptions (!on)
        setLetters on cs []
      | name :: ts =>
        if (optionNames s.dialect).contains name then do
          setOption name on
          setLetters on cs ts
        else match s.dialect with
          | .plain => abort ("Illegal option " ++ (if on then '-' else '+') :: 'o' :: ' ' :: name)
          | .rich => do
            protest (name ++ ": invalid option name")
            setStatus 2
            throw .failed
    else match (optionLetters s.dialect).lookup c with
      | some name =>
        if c = 'c' || (s.dialect = .rich && c = 's') then refuseSet on c
        else do
          setOption name on
          setLetters on cs ts
      | none => refuseSet on c
where
  /-- Refuse a letter. -/
  refuseSet (on : Bool) (c : Char) : Action (List Text) := do
    match (← get).dialect with
    | .plain => abort ("Illegal option " ++ [if on then '-' else '+', c])
    | .rich => do
      protest ((if on then '-' else '+') :: c :: ": invalid option".toList)
      showUsage
      setStatus 2
      throw .failed

/-- Change the arguments; in the plain dialect options are read from the first of them again. -/
def changeArguments (ts : List Text) : Action Unit := do
  modify fun s => { s with
    arguments := ts
    taken := if s.dialect = .plain then 0 else s.taken
    passed := if s.dialect = .plain then 0 else s.passed }

/-- Turn options on or off, and change the arguments. -/
def setFrom : Nat → List Text → Action Nat
  | 0, _ => return 0
  | _, [] => return 0
  | fuel + 1, t :: ts => match t with
    | ['-', '-'] => do
      changeArguments ts
      return 0
    | ['-'] => do
      setOption "xtrace" false
      setOption "verbose" false
      if ts ≠ [] then changeArguments ts
      return 0
    | '-' :: cs => do setFrom fuel (← setLetters true cs ts)
    | '+' :: cs => do setFrom fuel (← setLetters false cs ts)
    | t => do
      changeArguments (t :: ts)
      return 0

/-- Turn options on or off, and change the arguments, or show all variables. -/
def setting : Routine := fun ts => if ts = [] then showAll else setFrom (ts.length + 1) ts

/-- Turn options on or off, or show them. -/
def shopt : Routine := fun ts => do
  let (os, ts) ← options "pqsuo" "" ts
  let known := if has os 'o' then optionNames .rich else moreOptions
  let changes := has os 's' || has os 'u'
  let display (name : Text) : Action Nat := do
    let on := (← get).options.contains name
    let words : Text := if has os 'o' then "set " ++ [if on then '-' else '+', 'o']
      else "shopt " ++ ['-', if on then 's' else 'u']
    if !has os 'q' then
      print (if has os 'p' then words ++ ' ' :: name
        else name ++ List.replicate (15 - name.length) ' ' ++ '\t' :: (if on then "on".toList else "off"))
    return if on then 0 else 1
  if has os 's' && has os 'u' then do
    protest "cannot set and unset shell options simultaneously"
    return 1
  else if ts = [] then do
    let options := (← get).options
    let _ ← forEach display (if changes then known.filter fun n => options.contains n = has os 's' else known)
    return 0
  else forEach (fun name => do
    if !known.contains name then do
      protest (name ++ (if has os 'o' then ": invalid option name".toList else ": invalid shell option name"))
      return 1
    else if changes then do
      setOption name (has os 's')
      return 0
    else display name) ts

/-- Drop the first arguments. -/
def shift : Routine := fun ts => do
  let s ← get
  match s.dialect, ts with
  | .plain, ts => do
    let n ← match ts with
      | [] => pure 1
      | t :: _ => number t
    if s.arguments.length < n then abort "can't shift that many"
    else do
      changeArguments (s.arguments.drop n)
      return 0
  | .rich, ts => match ts with
    | [] => shifted 1
    | t :: _ :: _ => match Condition.integer? t with
      | none => noNumber t
      | some _ => do
        protest "too many arguments"
        setStatus 1
        throw .nextLine
    | [t] => match Condition.integer? t with
      | none => noNumber t
      | some n =>
        if n < 0 then do
          protest (t ++ ": shift count out of range")
          return 1
        else shifted n.toNat
where
  /-- Refuse an argument that is not a number. -/
  noNumber (t : Text) : Action Nat := do
    protest (t ++ ": numeric argument required")
    return 1
  /-- Drop so many arguments. -/
  shifted (n : Nat) : Action Nat := do
    let s ← get
    if s.arguments.length < n then return 1
    else do
      set { s with arguments := s.arguments.drop n }
      return 0

end Rollout.Shell.Builtin
