import Rollout.Machine.Shell.Arithmetic
import Rollout.Machine.Shell.Listing
import Rollout.Machine.Shell.Parser
import Rollout.Machine.Unix.Executable

/-!
What a shell keeps while it runs commands: variables, functions, options, and what it is to do on signals. A
shell is a process with such a state, and what it does is a computation over it.
-/

namespace Rollout.Shell

open Unix (Process Descriptor)

/-! ### Variables -/

/-- What a variable holds. -/
inductive Content
  /-- Nothing. -/
  | unset
  /-- A text. -/
  | text (t : Text)
  /-- Texts by numbers, in order. -/
  | list (elements : List (Nat × Text))
  /-- Texts by keys. -/
  | table (elements : Dict Text)

/-- How letters of values are changed before a variable gets them. -/
inductive LetterCase
  /-- They stay as they are. -/
  | kept
  /-- All are great. -/
  | upper
  /-- All are small. -/
  | lower
  /-- Only the first is great. -/
  | capital
  deriving DecidableEq

/-- The text with its letters changed. -/
def LetterCase.apply (c : LetterCase) (t : Text) : Text :=
  match c with
  | .kept => t
  | .upper => t.map Char.toUpper
  | .lower => t.map Char.toLower
  | .capital => match t with
    | [] => []
    | c :: cs => c.toUpper :: cs.map Char.toLower

/-- A variable. -/
structure Variable where
  /-- What it holds. -/
  content : Content
  /-- Do programs that are run get it? -/
  exported : Bool
  /-- Must it stay as it is? -/
  readonly : Bool
  /-- Are values evaluated before it gets them? -/
  integer : Bool
  /-- How letters of values are changed before it gets them. -/
  casing : LetterCase
  /-- Does it stand for the variable that its text names? -/
  reference : Bool
  /-- Has it been declared and not got a value yet? -/
  bare : Bool

/-- A variable that holds a text. -/
def Variable.ofText (t : Text) (exported : Bool) : Variable := ⟨.text t, exported, false, false, .kept, false, false⟩

/-- A variable that holds nothing. -/
def Variable.empty : Variable := ⟨.unset, false, false, false, .kept, false, false⟩

/-- The variable with another content. -/
def Variable.holding (v : Variable) (c : Content) : Variable := { v with content := c, bare := false }

/-- Put a text under a number. -/
def insertAt (n : Nat) (t : Text) : List (Nat × Text) → List (Nat × Text)
  | [] => [(n, t)]
  | (m, u) :: es => if n < m then (n, t) :: (m, u) :: es else if n = m then (n, t) :: es else (m, u) :: insertAt n t es

/-- The text of what a variable holds: of an array the element 0. -/
def Content.text? : Content → Option Text
  | .unset => none
  | .text t => some t
  | .list es => es.lookup 0
  | .table es => es.get? ['0']

/-- The bucket in which a table keeps a key. -/
def bucketOf (key : Text) : Nat :=
  let mix (h : UInt32) (c : Char) : UInt32 :=
    (h * 16777619) ^^^ UInt32.ofNat (if c.toNat < 128 then c.toNat else c.toNat + 0xffffff00)
  (key.foldl mix 2166136261).toNat % 1024

/-- The elements of a table in the order of their buckets. -/
def inBuckets (es : Dict Text) : List (Text × Text) := es.entries.mergeSort fun a b => bucketOf a.1 ≤ bucketOf b.1

/-- The elements with their keys. -/
def Content.elements : Content → List (Text × Text)
  | .unset => []
  | .text t => [(['0'], t)]
  | .list es => es.map fun e => (Text.ofNat e.1, e.2)
  | .table es => inBuckets es

/-- What a variable holds after its text has been changed. -/
def Content.withText (t : Text) : Content → Content
  | .list es => .list (insertAt 0 t es)
  | .table es => .table (es.insert ['0'] t)
  | _ => .text t

/-! ### States -/

/-- A command with a name of its own. -/
structure Function where
  /-- The command. -/
  body : Command
  /-- Where it comes from, as messages say. -/
  origin : Text

/-- Where the program of a name has been found. -/
structure Remembered where
  /-- The name. -/
  name : Text
  /-- The path of the program. -/
  path : Text
  /-- How often it has been run. -/
  hits : Nat

/-- A command that is run beside the shell, which does again all that it has done whenever more is written to it. -/
structure Partner where
  /-- The number of its process. -/
  number : Nat
  /-- The stream that the shell writes. -/
  input : Nat
  /-- The stream that the shell reads. -/
  output : Nat
  /-- What it does. -/
  command : Command
  /-- The process in which it starts. -/
  process : Process
  /-- What has been written to it. -/
  given : Text
  /-- How much it has written. -/
  produced : Nat
  /-- Does nobody write to it any more? -/
  finished : Bool

/-- A named command or a file that is being run. -/
structure Frame where
  /-- What is being run. -/
  name : Text
  /-- The line that asks for it. -/
  line : Nat
  /-- Where it comes from. -/
  origin : Text

/-- The name under which the commands of a file are run that nothing else has asked for. -/
def mainName : Text := "main"

/-- What a shell keeps. -/
structure State where
  /-- The dialect. -/
  dialect : Dialect
  /-- The variables. -/
  vars : Dict Variable
  /-- The commands that have names. -/
  functions : Dict Function
  /-- Texts in place of words that name commands. -/
  aliases : Dict Text
  /-- The arguments. -/
  arguments : List Text
  /-- The status of the last command. -/
  status : Nat
  /-- The status of the last commands whose output was inserted. -/
  outputStatus : Nat
  /-- The statuses of the commands of the last pipeline. -/
  statuses : List Nat
  /-- Values that come back when a named command is left, the latest first. -/
  hidden : List (Text × Option Variable)
  /-- Options that come back then. -/
  hiddenOptions : Option (List Text)
  /-- The number of named commands that are being run. -/
  depth : Nat
  /-- The number of files that are being read. -/
  reading : Nat
  /-- The number of loops around the command that is run. -/
  loops : Nat
  /-- The line that is run. -/
  line : Nat
  /-- What is being read, as messages say. -/
  origin : Text
  /-- The options that are on. -/
  options : List Text
  /-- What is run when a signal comes, or at the end. -/
  traps : List (Nat × Text)
  /-- Names of programs and where they have been found, the latest first. -/
  hashed : List Remembered
  /-- The path of the current directory, as it was reached. -/
  here : Text
  /-- The number of shells around it. -/
  nesting : Nat
  /-- What the next number at random comes from. -/
  seed : Nat
  /-- The last number at random. -/
  drawnLast : Nat
  /-- What is added to the seconds of the system's time. -/
  startSeconds : Int
  /-- The last word of the last command. -/
  lastWord : Text
  /-- The command that is run. -/
  running : Option Command
  /-- The text of commands that the shell was given as an argument. -/
  text : Option Text
  /-- The named commands and the files that are being run, the latest first. -/
  frames : List Frame
  /-- The directories that have been put away, the latest first. -/
  stack : List Text
  /-- The conditions on which something is being done, the latest first. -/
  handling : List Nat
  /-- Names of commands of the shell that are not run by it. -/
  disabled : List Text
  /-- The named commands that programs get, as far as they are shells. -/
  shared : List Text
  /-- The commands that are run beside the shell. -/
  partners : List Partner
  /-- Descriptors that stay after the commands that change them. -/
  lasting : List Nat
  /-- The number of the shell that is not inside of another one. -/
  mainNumber : Nat
  /-- The number of the last job. -/
  lastJob : Option Nat
  /-- The number of characters of an argument that have been taken as options. -/
  taken : Nat
  /-- The number of arguments before those that are to be taken as options. -/
  passed : Nat
  /-- The name of the command that is run, for messages. -/
  command : Text
  /-- How messages about syntax go on after the name. -/
  given : Text
  /-- The number of texts of commands that are being run inside of each other. -/
  level : Nat
  /-- Descriptors for the time of a command, some with a stream and the commands that read it afterwards. -/
  channels : List (Nat × Option (Nat × List Command))

/-- A command that nobody waits for, with what it starts from. -/
structure Postponed where
  /-- What it does. -/
  command : Command
  /-- The state in which it starts. -/
  state : State
  /-- The process in which it starts. -/
  process : Process
  /-- When it will have ended. -/
  due : Nat

/-- A job. -/
structure Job where
  /-- The number of its process. -/
  number : Nat
  /-- Its place among the jobs that are shown, or 0 if it is none of them. -/
  place : Nat
  /-- What it still has to do. -/
  postponed : Option Postponed
  /-- When it has ended. -/
  ended : Nat
  /-- Has somebody waited for it? -/
  awaited : Bool
  /-- How it has ended. -/
  status : Nat
  /-- The signal that ended it, if one did. -/
  signal : Option Nat
  /-- The command, as it is shown. -/
  shown : Text

/-- A shell. -/
structure Interpreter extends Process, State where
  /-- The jobs. -/
  jobs : List Job

/-- Why the next command is not run. -/
inductive Stop
  /-- Loops are left, so many of them. -/
  | leave (loops : Nat)
  /-- A loop is repeated, after leaving so many loops inside of it. -/
  | again (loops : Nat)
  /-- A named command or a file is left. -/
  | finish
  /-- Something was wrong. -/
  | failed
  /-- The rest of the line is not run. -/
  | nextLine
  /-- The shell ends. -/
  | exit
  /-- The shell is ended by a signal. -/
  | killed (signal : Nat)

/-- What a shell does. -/
abbrev Action := ExceptT Stop (StateM Interpreter)

/-- What a shell does with arguments, which ends in a status. -/
abbrev Routine := List Text → Action Nat

/-- Do what a process does. -/
def asProcess {α : Type} (a : Unix.Act α) : Action α := do
  let s ← get
  let (r, p) := a.run.run s.toProcess
  set { s with toProcess := p }
  match r with
  | .ok x => return x
  | .error (.exited n) => do
    modify fun s => { s with status := n }
    throw .exit
  | .error (.killed n) => throw (.killed n)

instance (priority := low) : MonadLift Unix.Act Action := ⟨asProcess⟩

/-- Stop a shell that has taken too long. -/
def tooLong {α : Type} : Action α := throw (.killed Unix.timeSignal)

/-! ### Options -/

/-- Is the option on? -/
def State.has (s : State) (option : String) : Bool := s.options.contains option.toList

/-- Turn an option on or off. -/
def setOption (option : Text) (on : Bool) : Action Unit :=
  modify fun s => { s with
    options := if on then (if s.options.contains option then s.options else option :: s.options)
      else s.options.filter (· ≠ option) }

/-- How texts of commands are read. -/
def State.readingMode (s : State) : Reading :=
  let aliases := match s.dialect with
    | .plain => s.aliases
    | .rich => if s.has "expand_aliases" then s.aliases else .empty
  ⟨s.dialect, s.has "extglob", aliases⟩

/-! ### Messages -/

/-- Write a message of the shell to the standard error. -/
def report (t : Text) : Action Unit := do
  Unix.flush
  let s ← get
  match s.dialect with
  | .plain =>
    let command : Text := if s.command = [] then [] else s.command ++ ": "
    Unix.complain (s.name ++ ": " ++ Text.ofNat s.line ++ ": " ++ command ++ t)
  | .rich => Unix.complain (s.origin ++ ": line " ++ Text.ofNat s.line ++ ": " ++ t)

/-- Write a message of the command that is run to the standard error. -/
def protest (t : Text) : Action Unit := do
  let s ← get
  match s.dialect with
  | .plain => report t
  | .rich => report (s.command ++ ": " ++ t)

/-- Write a line to the standard error after what has been printed. -/
def mutter (t : Text) : Action Unit := do
  Unix.flush
  Unix.complain t

/-- Keep the status of a command. -/
def setStatus (n : Nat) : Action Unit := modify fun s => { s with status := n }

/-- End the shell with a status. -/
def exitWith {α : Type} (n : Nat) : Action α := do
  setStatus n
  throw .exit

/-- Give up because of a mistake. -/
def abort {α : Type} (message : Text) : Action α := do
  report message
  setStatus 2
  throw .failed

/-- Give up the line because of a mistake. -/
def abandon {α : Type} (message : Text) : Action α := do
  report message
  setStatus 1
  throw .nextLine

/-- Give up because of a mistake, as the dialect has it. -/
def giveUp {α : Type} (message : Text) : Action α := do
  match (← get).dialect with
  | .plain => abort message
  | .rich => abandon message

/-! ### Values -/

/-- The name and the index of an element, if a text names one. -/
def elementOf (t : Text) : Text × Option Text :=
  let name := t.takeWhile (· ≠ '[')
  if name.length < t.length && t.getLast? = some ']' then (name, some ((t.drop (name.length + 1)).dropLast))
  else (t, none)

/-- The name of the variable for which a name stands, perhaps by way of several others. -/
def targetIn (vars : Dict Variable) : Nat → Text → Text
  | 0, name => name
  | fuel + 1, name => match vars.get? name with
    | some v => match v.reference, v.content with
      | true, .text (c :: cs) => if c :: cs = name then name else targetIn vars fuel (c :: cs)
      | _, _ => name
    | none => name

/-- The greatest number of names that stand for one another. -/
def maxReferences : Nat := 8

/-- The name of the variable, or of its element, for which a name stands. -/
def State.target (s : State) (name : Text) : Text := targetIn s.vars maxReferences name

/-- The variable for which a name stands. -/
def State.holder? (s : State) (name : Text) : Option Variable := s.vars.get? (s.target name)

/-- The element of what a variable holds whose key is a text. -/
def Content.at? (c : Content) (key : Text) : Option Text :=
  match c with
  | .table es => es.get? key
  | c => (c.elements.find? (·.1 = key)).map (·.2)

/-- The value of a variable. -/
def State.value? (s : State) (name : Text) : Option Text :=
  match elementOf (s.target name) with
  | (name, none) => (s.vars.get? name).bind (·.content.text?)
  | (name, some key) => (s.vars.get? name).bind (·.content.at? key)

/-- The number that an index denotes among elements, which is counted from the end below zero. -/
def indexIn (es : List (Nat × Text)) (i : Int) : Option Nat :=
  if 0 ≤ i then some i.toNat
  else
    let size : Int := ((es.getLast?).map fun e => (e.1 : Int) + 1).getD 0
    if 0 ≤ size + i then some (size + i).toNat else none

/-- The value of an element. -/
def State.element? (s : State) (name : Text) (i : Int) : Option Text := do
  let v ← s.holder? name
  match v.content with
  | .list es => (indexIn es i).bind fun n => es.lookup n
  | .table es => es.get? (Text.ofInt i)
  | .text t => if i = 0 || i = -1 then some t else none
  | .unset => none

/-- The path that is remembered for the program of a name. -/
def State.remembered? (s : State) (name : Text) : Option Text :=
  (s.hashed.find? fun r => r.name = name).map Remembered.path

/-- The values that arithmetic expressions read. -/
def State.lookup (s : State) : Arithmetic.Target → Option Text
  | (name, none) => s.value? name
  | (name, some i) => s.element? name i

/-- The value as a variable gets it: evaluated, or with letters of one case. -/
def State.cast (s : State) (v : Variable) (t : Text) : Except Text Text :=
  if v.integer then match Arithmetic.value s.dialect s.lookup t with
    | .ok (n, _) => .ok (Text.ofInt n)
    | .error e => .error (e.message s.dialect)
  else .ok (v.casing.apply t)

/-- Refuse to change a variable. -/
def refuse {α : Type} (name : Text) : Action α := do
  match (← get).dialect with
  | .plain => abort (name ++ ": is read only")
  | .rich => abandon (name ++ ": readonly variable")

/-- Change the variable of a name itself, which may be new. -/
def changeOwn (name : Text) (f : Variable → Variable) : Action Unit :=
  modify fun s => { s with vars := s.vars.insert name (f ((s.vars.get? name).getD .empty)) }

/-- Change the variable for which a name stands, which may be new. -/
def changeVariable (name : Text) (f : Variable → Variable) : Action Unit := do
  changeOwn (elementOf ((← get).target name)).1 f

/-- Give a variable another content. -/
def assignContent (name : Text) (c : Content) : Action Unit := do
  let s ← get
  let name := s.target name
  let v := (s.vars.get? name).getD .empty
  if v.readonly then refuse name
  else set { s with vars := s.vars.insert name (v.holding c) }

/-- Give an element a value. -/
def assignElement (name : Text) (key : Text ⊕ Int) (value : Text) : Action Unit := do
  let s ← get
  let name := s.target name
  let v := (s.vars.get? name).getD .empty
  if v.readonly then refuse name
  else match s.cast v value with
    | .error e => giveUp e
    | .ok t =>
      let inList (es : List (Nat × Text)) (i : Int) : Action Unit :=
        match indexIn es i with
        | some n => set { s with vars := s.vars.insert name (v.holding (.list (insertAt n t es))) }
        | none => abandon (name ++ '[' :: Text.ofInt i ++ "]: bad array subscript")
      match v.content, key with
      | .table es, .inl k => set { s with vars := s.vars.insert name (v.holding (.table (es.insert k t))) }
      | .table es, .inr i =>
        set { s with vars := s.vars.insert name (v.holding (.table (es.insert (Text.ofInt i) t))) }
      | .list es, .inr i => inList es i
      | .text u, .inr i => inList [(0, u)] i
      | .unset, .inr i => inList [] i
      | _, .inl _ => abandon (name ++ ": bad array subscript")

/-- Give an element that is known by its key or its index a value. -/
def assignAt (name key value : Text) : Action Unit := do
  let s ← get
  match (s.holder? name).map Variable.content with
  | some (.table _) => assignElement name (.inl key) value
  | _ => match Arithmetic.value s.dialect s.lookup key with
    | .ok (i, _) => assignElement name (.inr i) value
    | .error e => giveUp (e.message s.dialect)

/-- Is it the number of a version that the rich dialect can be like? -/
def isCompatibility (t : Text) : Bool :=
  t.isEmpty || (["31", "32", "40", "41", "42", "43", "44", "50", "51", "52"].map String.toList).contains (t.filter (· ≠ '.'))

/-- The shell in which a variable that has a meaning of its own has been given a value. -/
def Interpreter.noted (s : Interpreter) (name value : Text) : Interpreter :=
  match s.dialect, String.ofList name with
  | _, "OPTIND" => { s with
      taken := 0
      passed := (Text.toNat? value).getD 1 - 1 }
  | _, "PATH" => { s with hashed := [] }
  | .rich, "RANDOM" => { s with
      seed := (Text.toNat? value).getD 0 % 4294967296
      drawnLast := 0 }
  | .rich, "SECONDS" => { s with startSeconds := (Text.toNat? value).getD 0 - (s.time / 1000000 : Nat) }
  | .rich, "BASH_ARGV0" => { s with name := value }
  | _, _ => s

/-- Give a variable a value. -/
def assign (name value : Text) : Action Unit := do
  let s ← get
  let name := s.target name
  if let (name, some key) := elementOf name then
    assignAt name key value
    return
  let v := (s.vars.get? name).getD .empty
  if v.readonly then refuse name
  else match s.cast v value with
    | .error e => giveUp e
    | .ok t => do
      let exported := v.exported || s.has "allexport"
      let s := s.noted name t
      set { s with vars := s.vars.insert name { v.holding (v.content.withText t) with exported := exported } }
      if s.dialect = .rich && name = "BASH_COMPAT".toList && !isCompatibility t then
        report ("BASH_COMPAT: " ++ t ++ ": compatibility value out of range")

/-- Assign what an arithmetic expression has assigned. -/
def assignNumbers : Arithmetic.Assigned → Action Unit
  | [] => return
  | ((name, index), n) :: rest => do
    match index with
    | none => assign name (Text.ofInt n)
    | some i => assignElement name (.inr i) (Text.ofInt n)
    assignNumbers rest

/-- Take a variable away. -/
def State.without (s : State) (name : Text) : State := { s with vars := s.vars.filter fun n _ => n ≠ name }

/-- How the variables start by which programs get commands that have names, and how they end. -/
def sharedMarks : Text × Text := ("BASH_FUNC_", "%%")

/-- The variable by which programs get a command that has a name. -/
def sharedName (name : Text) : Text := sharedMarks.1 ++ name ++ sharedMarks.2

/-- The variables that programs get. -/
def State.environment (s : State) : Dict Text :=
  .ofList ((s.vars.entries.filterMap fun (name, v) =>
    if v.exported then match v.content with
      | .text t => some (name, t)
      | _ => none
    else none) ++ s.shared.filterMap fun name =>
      (s.functions.get? name).map fun f => (sharedName name, f.body.shared))

/-! ### Starting -/

/-- The variables of a shell that starts with an environment. -/
def startVariables (d : Dialect) (p : Process) : Dict Variable :=
  let given : List (Text × Variable) := (p.env.entries.filter fun e => isName e.1).map fun e =>
    (e.1, .ofText e.2 true)
  let path : Text := Unix.pathOf p.cwd
  let separators : Text × Variable := ("IFS".toList, .ofText " \t\n" false)
  let count : Text × Variable := ("OPTIND".toList, .ofText ['1'] false)
  let directories : Text × Variable := ("PATH".toList, .ofText Unix.shellPath false)
  match d with
  | .plain =>
    let standard : List (Text × Variable) := [directories, ("PS1".toList, .ofText "# " false),
      ("PS2".toList, .ofText "> " false), ("PS4".toList, .ofText "+ " false), ("PPID".toList, .ofText (Text.ofNat p.parent) false)]
    .ofList (standard ++ given ++ [separators, count, ("PWD".toList, .ofText path true)])
  | .rich =>
    let level := ((p.env.get? "SHLVL".toList).bind Text.toNat?).getD 0 + 1
    let standard : List (Text × Variable) := [directories, ("PS4".toList, .ofText "+ " false),
      ("OPTERR".toList, .ofText ['1'] false), ("SHELL".toList, .ofText "/bin/bash" false),
      ("TERM".toList, .ofText "dumb" false), ("HOSTNAME".toList, .ofText "localhost" false)]
    let version : List (Text × Variable) := [("BASH".toList, .ofText "/usr/bin/bash" false),
      ("BASH_VERSION".toList, .ofText "5.2.15(1)-release" false), ("OSTYPE".toList, .ofText "linux-gnu" false),
      ("HOSTTYPE".toList, .ofText "x86_64" false), ("MACHTYPE".toList, .ofText "x86_64-pc-linux-gnu" false)]
    let numbers : List (Text × Variable) := [("UID", 0), ("EUID", 0), ("PPID", p.parent)].map fun (name, n) =>
      (name.toList, { Variable.ofText (Text.ofNat n) false with readonly := true, integer := true })
    let parts : List Text := ["5", "2", "15", "1", "release", "x86_64-pc-linux-gnu"]
    let info : Text × Variable := ("BASH_VERSINFO".toList,
      { Variable.empty with content := .list ((List.range parts.length).zip parts), readonly := true })
    let groups : Text × Variable := ("GROUPS".toList, { Variable.empty with content := .list [(0, ['0'])] })
    let shown : List (Text × Variable) := ["BASHOPTS", "SHELLOPTS"].map fun (name : String) =>
      (name.toList, { Variable.ofText [] false with readonly := true })
    .ofList (standard ++ given ++ version ++ numbers ++ shown ++ [info, groups, separators, count, ("PWD".toList, .ofText path true),
      ("SHLVL".toList, .ofText (Text.ofNat level) true)])

/-- The commands that have names and that a shell gets in variables. -/
def givenFunctions (d : Dialect) (p : Process) : List (Text × Function) :=
  match d with
  | .plain => []
  | .rich => p.env.entries.filterMap fun (key, value) =>
    let name := (key.drop sharedMarks.1.length).take (key.length - (sharedName []).length)
    if key = sharedName name && "() \x7b".toList.isPrefixOf value then
      match (Source.ofText ⟨.rich, true, .empty⟩ (name ++ ' ' :: value) 1).next with
      | .ok ([.define _ name body], _) => some (name, ⟨body, "environment"⟩)
      | _ => none
    else none

/-- The state of a shell in a process, with arguments. -/
def State.start (d : Dialect) (p : Process) (arguments : List Text) : State where
  dialect := d
  vars := startVariables d p
  functions := .ofList (givenFunctions d p)
  aliases := .empty
  arguments := arguments
  status := 0
  outputStatus := 0
  statuses := [0]
  hidden := []
  hiddenOptions := none
  depth := 0
  reading := 0
  loops := 0
  line := 1
  origin := p.name
  options := match d with
    | .plain => []
    | .rich => ["braceexpand", "hashall", "interactive-comments", "checkwinsize", "cmdhist", "complete_fullquote",
        "extquote", "force_fignore", "globasciiranges", "globskipdots", "hostcomplete", "interactive_comments",
        "patsub_replacement", "progcomp", "promptvars", "sourcepath"].map String.toList
  traps := []
  hashed := []
  here := Unix.pathOf p.cwd
  nesting := 0
  seed := p.number * 7919
  drawnLast := 0
  startSeconds := -(p.time / 1000000 : Nat)
  lastWord := "/usr/bin/bash"
  running := none
  text := none
  frames := []
  stack := []
  handling := []
  disabled := []
  shared := (givenFunctions d p).map (·.1)
  partners := []
  lasting := []
  mainNumber := p.number
  lastJob := none
  taken := 0
  passed := 0
  command := []
  given := []
  level := 1
  channels := []

/-- A shell in a process, with arguments. -/
def Interpreter.start (d : Dialect) (p : Process) (arguments : List Text) : Interpreter where
  toProcess := p
  toState := .start d p arguments
  jobs := []

end Rollout.Shell
