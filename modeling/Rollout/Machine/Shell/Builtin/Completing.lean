import Rollout.Machine.Shell.Builtin.Declaring
import Rollout.Machine.Shell.Builtin.Naming
import Rollout.Machine.Shell.Builtin.Signals

/-!
Commands about completion: the texts that may stand for the start of a word, such as names, files and words of a
list; and about what a shell that people type into would keep, which this one does not.
-/

namespace Rollout.Shell.Builtin

/-! ### Kinds of texts -/

/-- The letters that stand for kinds of texts. -/
def kindLetters : List (Char × Text) :=
  [('a', "alias"), ('b', "builtin"), ('c', "command"), ('d', "directory"), ('e', "export"), ('f', "file"),
    ('g', "group"), ('j', "job"), ('k', "keyword"), ('s', "service"), ('u', "user"), ('v', "variable")].map
    fun ((c, name) : Char × String) => (c, name.toList)

/-- The kinds in the order in which their texts come. -/
def kinds : List Text :=
  ["alias", "arrayvar", "binding", "builtin", "disabled", "enabled", "export", "function", "helptopic", "hostname",
    "job", "keyword", "running", "setopt", "shopt", "signal", "stopped", "variable", "command", "file", "user",
    "group", "service", "directory"].map String.toList

/-- The keywords in the order in which they are told. -/
def orderedKeywords : List Text :=
  ["if", "then", "else", "elif", "fi", "case", "esac", "for", "select", "while", "until", "do", "done", "in",
    "function", "time", "\x7b", "\x7d", "!", "[[", "]]", "coproc"].map String.toList

/-- Texts in order. -/
def sortedTexts (ts : List Text) : List Text := ts.mergeSort fun a b => !decide (b < a)

/-- The paths whose last name starts with the last name of a word. -/
def pathsFor (s : Interpreter) (onlyDirectories : Bool) (word : Text) : List Text :=
  let start := (word.reverse.dropWhile (· ≠ '/')).reverse
  let last := word.drop start.length
  let place := if start = [] then some s.cwd
    else ((s.root.locate s.cwd start).toOption).filter fun p => ((s.root.at? p).map FileTree.isDir).getD false
  match place.bind s.root.at? with
  | some (.dir entries _) =>
    let fits (e : Text × FileTree) : Bool := last.isPrefixOf e.1 && (!onlyDirectories || s.isDir (start ++ e.1))
    sortedTexts ((entries.filter fits).map fun e => start ++ e.1)
  | _ => []

/-- The texts of a kind that may stand for the start of a word. -/
def textsOf (s : Interpreter) (kind word : Text) : List Text :=
  let variablesWith (p : Variable → Bool) : List Text := sortedTexts ((s.vars.entries.filter fun e => p e.2).map (·.1))
  let programs : List Text := (Text.split ':' (directories s)).flatMap fun d =>
    ((pathsFor s false (d ++ '/' :: word)).filter fun p => (Unix.foundAt s.root s.cwd p).isRunnable).map
      fun p => p.drop (d.length + 1)
  let known := sortedTexts (names .rich)
  let functions := sortedTexts (s.functions.entries.map (·.1))
  let all : List Text := match String.ofList kind with
    | "alias" => sortedTexts (s.aliases.entries.map (·.1))
    | "arrayvar" => variablesWith fun v => match v.content with
      | .list _ => true
      | .table _ => true
      | _ => false
    | "builtin" => known
    | "disabled" => known.filter s.disabled.contains
    | "enabled" => known.filter (!s.disabled.contains ·)
    | "export" => variablesWith (·.exported)
    | "function" => functions
    | "helptopic" => known
    | "job" => (s.jobs.filter (·.place ≠ 0)).map fun j => j.shown.takeWhile (· ≠ ' ')
    | "keyword" => orderedKeywords
    | "setopt" => optionNames .rich
    | "shopt" => moreOptions
    | "signal" => "EXIT".toList :: (Unix.Signal.all.map fun e => "SIG" ++ e.2)
    | "variable" => variablesWith fun _ => true
    | "command" => orderedKeywords ++ functions ++ known ++ programs
    | "file" => pathsFor s false word
    | "directory" => pathsFor s true word
    | "user" => ["root"]
    | "group" => ["root"]
    | _ => []
  all.filter (word.isPrefixOf ·)

/-! ### Commands -/

/-- Tell the texts that may stand for the start of a word. -/
def compgen : Routine := fun ts => do
  let (os, ts) ← options "abcdefgjksuv" "oAGWFCXPS" ts
  let s ← get
  let word := ts.headD []
  let value? (c : Char) : Option Text := (os.reverse.find? (·.1 = c)).map (·.2)
  let chosen := (os.filterMap fun (c, v) => if c = 'A' then some v else kindLetters.lookup c)
  match chosen.find? (!kinds.contains ·) with
  | some kind => do
    protest (kind ++ ": invalid action name")
    return 2
  | none => do
    for c in ['F', 'C'] do
      if (value? c).isSome then protest ("warning: -" ++ c :: " option may not work as you expect".toList)
    let ofKinds := (kinds.filter chosen.contains).flatMap (textsOf s · word)
    let listed := ((value? 'W').map fun t =>
      ((fields s.separators (Atom.ofValue t false)).map fun f => f.map (·.1)).filter (word.isPrefixOf ·)).getD []
    let covered (p : Text) (t : Text) : Bool := (Pattern.ofMarked .rich true (p.map (·, false))).covers t
    let kept (t : Text) : Bool := match value? 'X' with
      | some ('!' :: p) => covered p t
      | some p => !covered p t
      | none => true
    let found := (ofKinds ++ listed).filter kept
    found.forM fun t => print ((value? 'P').getD [] ++ t ++ (value? 'S').getD [])
    return if found = [] && os ≠ [] then 1 else 0

/-- Refuse to tell how words of a command are completed. -/
def complete : Routine := fun ts => do
  let (os, ts) ← options "abcdefgjksuvprDEI" "oAGWFCXPS" ts
  if has os 'p' then
    forEach (fun name => do
      protest (name ++ ": no completion specification")
      return 1) ts
  else return 0

/-- Refuse to change how a word is completed. -/
def compopt : Routine := fun ts => do
  if ts.any fun t => t.head? ≠ some '-' && t.head? ≠ some '+' then return 0
  else do
    protest "not currently executing completion function"
    return 1

/-- Warn that lines are not edited. -/
def bind : Routine := fun ts => do
  protest "warning: line editing not enabled"
  let _ ← options "lvpVPsSX" "mfqurx" ts
  return 0

/-- Tell what has been typed, which is nothing. -/
def history : Routine := fun ts => do
  let _ ← options "canrwps" "d" ts
  return 0

/-- Tell or repeat what has been typed, which is nothing. -/
def fixCommand : Routine := fun ts => do
  let (os, _) ← options "lnrs" "e" ts
  if has os 's' then do
    protest "no command found"
    return 1
  else return 0

/-- Tell how commands are used. -/
def help : Routine := fun ts => do
  let (os, ts) ← options "dms" "" ts
  forEach (fun t => do
    if isName .rich t && has os 's' then do
      let whole := usage t
      print (t ++ whole.drop (t.length + ": usage".length))
      return 0
    else do
      protest ("no help topics match `" ++ t ++ "'.  Try `help help' or `man -k " ++ t ++ "' or `info " ++ t ++ "'.")
      return 1) ts

end Rollout.Shell.Builtin
