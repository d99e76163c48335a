import Rollout.Machine.Shell.Builtin.Basic
import Rollout.Machine.Unix.Executable

/-!
Commands about names: what a name stands for, and other texts for names.
-/

namespace Rollout.Shell.Builtin

open Unix

/-- The directories in which the shell looks for programs. -/
def directories (s : Interpreter) : Text := (s.value? "PATH").getD []

/-- Is it a keyword? -/
def isKeyword (d : Dialect) (name : Text) : Bool :=
  (Token.keywords d).contains name || (d = .rich && name = "]]".toList)

/-- What a name stands for. -/
inductive Meaning
  | keyword
  | alias (value : Text)
  | function
  | special
  | builtin
  | hashed (path : Text)
  | file (path : Text)

/-- What a name stands for, if anything. -/
def meaning? (s : Interpreter) (standard : Bool) (name : Text) : Option Meaning :=
  if isKeyword s.dialect name then some .keyword
  else match (s.readingMode.aliases).get? name with
    | some v => some (.alias v)
    | none =>
      if s.functions.contains name then some .function
      else if isName s.dialect name && !s.disabled.contains name then
        some (if s.dialect = .plain && specialNames.contains name then .special else .builtin)
      else match s.remembered? name with
        | some path => some (.hashed path)
        | none =>
          let (f, path) := findProgram s.root s.cwd (if standard then Unix.shellPath else directories s) name
          if f.isRunnable then some (.file path) else none

/-- Remember where a program is, and how often it has been run. -/
def rememberAs (name path : Text) (hits : Nat) : Action Unit :=
  modify fun s => { s with hashed := ⟨name, path, hits⟩ :: s.hashed.filter fun r => r.name ≠ name }

/-- Remember where a program was found. -/
def remember (name path : Text) : Action Unit := do
  if !name.contains '/' && ((← get).remembered? name).isNone then rememberAs name path 0

/-- Remember that a program was run that was found there. -/
def rememberRun (name path : Text) : Action Unit := do
  let s ← get
  if !name.contains '/' then match s.hashed.find? fun r => r.name = name with
    | some r => set { s with hashed := s.hashed.map fun (q : Remembered) =>
        if q.name = name then { r with hits := r.hits + 1 } else q }
    | none => rememberAs name path 1

/-- What is remembered in the order in which it is shown. -/
def rememberedInOrder (s : State) : List Remembered :=
  s.hashed.mergeSort fun a b => bucketOf a.name % 256 ≤ bucketOf b.name % 256

/-- Say what a name stands for. -/
def describe (standard : Bool) (name : Text) : Action Nat := do
  let s ← get
  let said (t : Text) : Action Nat := do
    print (name ++ t)
    return 0
  match meaning? s standard name, s.dialect with
  | some .keyword, _ => said " is a shell keyword"
  | some (.alias v), .plain => said (" is an alias for " ++ v)
  | some (.alias v), .rich => said (" is aliased to `" ++ v ++ ['\''])
  | some .function, .plain => said " is a shell function"
  | some .function, .rich => do
    print (name ++ " is a function")
    match s.functions.get? name with
    | some f => print (Command.definition name f.body)
    | none => pure ()
    return 0
  | some .special, _ => said " is a special shell builtin"
  | some .builtin, _ => said " is a shell builtin"
  | some (.hashed path), .plain => said (" is a tracked alias for " ++ path)
  | some (.hashed path), .rich => said (" is hashed (" ++ path ++ [')'])
  | some (.file path), d => do
    if d = .plain && !standard then remember name path
    said (" is " ++ path)
  | none, .plain => do
    print (name ++ ": not found")
    return 127
  | none, .rich => do
    protest (name ++ ": not found")
    return 1

/-- A word for what a name stands for. -/
def kindOf : Meaning → Text
  | .keyword => "keyword"
  | .alias _ => "alias"
  | .function => "function"
  | .special => "builtin"
  | .builtin => "builtin"
  | .hashed _ => "file"
  | .file _ => "file"

/-- All paths of programs of a name. -/
def allPaths (s : Interpreter) (name : Text) : List Text :=
  if name.contains '/' then (if (foundAt s.root s.cwd name).isRunnable then [name] else [])
  else ((Text.split ':' (directories s)).map (inDirectory · name)).filter fun path =>
    (foundAt s.root s.cwd path).isRunnable

/-- Say what names stand for. -/
def type : Routine := fun ts => do
  let s ← get
  match s.dialect with
  | .plain => do
    let (_, ts) ← if ts.head? = some ['-', '-'] then options "" "" ts else pure ([], ts)
    forEach (describe false) ts
  | .rich => do
    let (os, ts) ← options "afptP" "" ts
    forEach (fun name => do
      match meaning? s false name with
      | some m =>
        if has os 't' then do
          print (kindOf m)
          return 0
        else if has os 'P' then do
          let ps := allPaths s name
          print (ps.head?.getD [])
          return if ps = [] then 1 else 0
        else if has os 'p' then do
          match m with
          | .hashed path => print path
          | .file path => print path
          | _ => pure ()
          return 0
        else if has os 'a' then do
          let _ ← match m with
            | .file _ => pure 0
            | .hashed _ => pure 0
            | _ => describe false name
          let _ ← forEach (fun path => do
            print (name ++ " is " ++ path)
            return 0) (allPaths s name)
          return 0
        else describe false name
      | none =>
        if has os 't' || has os 'p' || has os 'P' then return 1 else describe false name) ts

/-- Show what a command stands for in the shortest form. -/
def showMeaning (standard : Bool) (name : Text) : Action Nat := do
  let s ← get
  match meaning? s standard name with
  | some (.alias v) => do
    let quoted := match s.dialect with
      | .plain => Quoting.plain v
      | .rich => Quoting.single v
    print ("alias " ++ name ++ '=' :: quoted)
    return 0
  | some (.hashed path) => do
    print path
    return 0
  | some (.file path) => do
    if s.dialect = .plain && !standard then remember name path
    print path
    return 0
  | some _ => do
    print name
    return 0
  | none => return match s.dialect with
    | .plain => 127
    | .rich => 1

/-- Do something for each name whose program is remembered. -/
def forRemembered (f : Remembered → Action Unit) : Routine := forEach fun name => do
  match (← get).hashed.find? fun r => r.name = name with
  | some r => do
    f r
    return 0
  | none => do
    protest (name ++ ": not found")
    return 1

/-- Look for the programs of names, and remember where they are. -/
def findAll : Routine := forEach fun name => do
  let s ← get
  if isName s.dialect name || s.functions.contains name then return 0
  else
    let (f, path) := findProgram s.root s.cwd (directories s) name
    if f.isRunnable then do
      remember name path
      return 0
    else do
      protest (name ++ ": not found")
      return 1

/-- Show what is remembered. -/
def showRemembered (asCommands : Bool) : Action Nat := do
  let s ← get
  match s.dialect, rememberedInOrder s.toState with
  | .rich, [] => do
    print "hash: hash table empty"
    return 0
  | .rich, known => do
    if asCommands then
      Unix.say (known.flatMap fun r => "builtin hash -p " ++ r.path ++ ' ' :: r.name ++ ['\n'])
    else do
      print "hits\tcommand"
      let count (n : Nat) : Text := List.replicate (4 - (Text.ofNat n).length) ' ' ++ Text.ofNat n
      Unix.say (known.flatMap fun r => count r.hits ++ '\t' :: r.path ++ ['\n'])
    return 0
  | .plain, _ => do
    Unix.say (s.hashed.reverse.flatMap fun r => r.path ++ ['\n'])
    return 0

/-- Remember where programs are, or show what is remembered. -/
def hash : Routine := fun ts => do
  let (os, ts) ← match (← get).dialect with
    | .plain => options "rv" "" ts
    | .rich => options "rldt" "p" ts
  let path := (os.find? (·.1 = 'p')).map (·.2)
  if has os 'r' then modify fun s => { s with hashed := [] }
  if ts = [] && (has os 't' || has os 'd') then do
    protest ((if has os 't' then "-t" else "-d") ++ ": option requires an argument")
    return 1
  else if ts = [] then if has os 'r' then return 0 else showRemembered (has os 'l')
  else match path with
    | some path => do
      ts.forM fun name => rememberAs name path 0
      return 0
    | none =>
      if has os 't' then forRemembered (fun r => print (if has os 'l' then
          "builtin hash -p " ++ r.path ++ ' ' :: r.name
        else if 1 < ts.length then r.name ++ '\t' :: r.path else r.path)) ts
      else if has os 'd' then forRemembered (fun r => modify fun s =>
        { s with hashed := s.hashed.filter fun q => q.name ≠ r.name }) ts
      else findAll ts

/-! ### Commands of the shell -/

/-- Let names stand for commands of the shell or not, or show those that do. -/
def enable : Routine := fun ts => do
  let (os, ts) ← options "adnps" "f" ts
  let s ← get
  if ts = [] then do
    let sorted := (names .rich).mergeSort fun a b => !decide (b < a)
    let shown := sorted.filter fun n => if has os 'a' then true
      else if has os 's' then (specialNames.contains n) && n ≠ "local".toList else s.disabled.contains n = has os 'n'
    Unix.say (shown.flatMap fun n =>
      "enable " ++ (if s.disabled.contains n then "-n ".toList else []) ++ n ++ ['\n'])
    return 0
  else forEach (fun name => do
    if isName .rich name then do
      modify fun s => { s with
        disabled := (if has os 'n' then [name] else []) ++ s.disabled.filter (· ≠ name) }
      return 0
    else do
      protest (name ++ ": not a shell builtin")
      return 1) ts

/-! ### Aliases -/

/-- Give names other texts, or show them. -/
def nameTexts : Routine := fun ts => do
  let s ← get
  let ts ← match s.dialect with
    | .plain => pure ts
    | .rich => do pure (← options "p" "" ts).2
  let shown (name v : Text) : Text := match s.dialect with
    | .plain => name ++ '=' :: Quoting.plain v
    | .rich => "alias " ++ name ++ '=' :: Quoting.single v
  if ts = [] then do
    Unix.say (s.aliases.entries.flatMap fun e => shown e.1 e.2 ++ ['\n'])
    return 0
  else forEach (fun t => do
    let s ← get
    let name := t.takeWhile (· ≠ '=')
    if 0 < name.length && name.length < t.length then do
      set { s with aliases := s.aliases.insert name (t.drop (name.length + 1)) }
      return 0
    else match s.aliases.get? t with
      | some v => do
        print (shown t v)
        return 0
      | none => do
        match s.dialect with
        | .plain => mutter ("alias: " ++ t ++ " not found")
        | .rich => protest (t ++ ": not found")
        return 1) ts

/-- Take other texts for names away. -/
def unalias : Routine := fun ts => do
  let (os, ts) ← options "a" "" ts
  if has os 'a' then do
    modify fun s => { s with aliases := .empty }
    return 0
  else forEach (fun t => do
    let s ← get
    if s.aliases.contains t then do
      set { s with aliases := s.aliases.filter fun n _ => n ≠ t }
      return 0
    else do
      match s.dialect with
      | .plain => mutter ("unalias: " ++ t ++ " not found")
      | .rich => protest (t ++ ": not found")
      return 1) ts

end Rollout.Shell.Builtin
