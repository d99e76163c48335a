import Rollout.Machine.Program.Perl.Run
import Rollout.Machine.Unix.Manual

/-!
The program that carries out scripts, which are given as arguments or stand in files, perhaps once for each line of other
files.
-/

namespace Rollout.Program

open Unix Perl

/-! ### Arguments -/

/-- What the arguments of the program ask for. -/
structure ScriptRequest where
  /-- The lines of the script. -/
  lines : List Text
  /-- What is done before the script: modules that it uses. -/
  uses : List Text
  /-- Is the script carried out for each line of the input? -/
  loops : Bool
  /-- Are these lines printed then? -/
  prints : Bool
  /-- Are newlines taken away and added again? -/
  trims : Bool
  /-- What ends the lines that are printed, if it is another character. -/
  ending : Option Text
  /-- Are lines cut into fields? -/
  splits : Bool
  /-- By what? -/
  separator : Option Text
  /-- What ends the records that are read. -/
  record : Option Perl.Value
  /-- What files that are changed are kept under. -/
  inPlace : Option Text
  /-- Is the script only read? -/
  checks : Bool
  /-- Is something said about what looks wrong? -/
  warns : Bool
  /-- Are there functions that not every script knows? -/
  speaks : Bool
  /-- Directories of modules. -/
  directories : List Text
  /-- Is the version asked for? -/
  version : Bool
  /-- The other arguments. -/
  operands : List Text

/-- What a text of digits says about the end of records. -/
def recordEnd (digits : Text) : Perl.Value :=
  let n := if (digits.head?.map Char.toLower) = some 'x' then Escape.digitsValue 16 (digits.drop 1)
    else Escape.digitsValue 8 digits
  if n = 0 && 1 < digits.length then .text []
  else if 255 < n then .absent
  else .text [Char.ofNat n]

/-- The statement by which a module is used that an argument names. -/
def useLine (letter : Char) (t : Text) : Text :=
  let (verb, t) : Text × Text := match t with
    | '-' :: rest => ("no ", rest)
    | t => ("use ", t)
  let name := t.takeWhile (· ≠ '=')
  let list := t.drop (name.length + 1)
  if name.length < t.length then verb ++ name ++ " qw\x7b" ++ (list.map fun c => if c = ',' then ' ' else c) ++ "\x7d;".toList
  else verb ++ t ++ (if letter = 'm' then " ();" else ";").toList

/-- Read the letters of an argument. -/
def scriptLetters : Nat → ScriptRequest → Text → List Text → Act (ScriptRequest × List Text)
  | 0, r, _, ts => return (r, ts)
  | _, r, [], ts => return (r, ts)
  | fuel + 1, r, c :: cs, ts => do
    let refuse (t : Text) : Act (ScriptRequest × List Text) := do
      complain t
      throw (.exited 25)
    let valued (f : Text → ScriptRequest) (missing : Text) : Act (ScriptRequest × List Text) :=
      match cs, ts with
      | [], [] => refuse missing
      | [], t :: ts => return (f t, ts)
      | cs, ts => return (f cs, ts)
    match c with
    | 'e' => valued (fun t => { r with lines := r.lines ++ [t] }) "No code specified for -e."
    | 'E' => valued (fun t => { r with
        lines := r.lines ++ [t]
        speaks := true }) "No code specified for -E."
    | 'n' => scriptLetters fuel { r with loops := true } cs ts
    | 'p' => scriptLetters fuel { r with
        loops := true
        prints := true } cs ts
    | 'l' =>
      let digits := cs.takeWhile Escape.isOctal
      scriptLetters fuel { r with
        trims := true
        ending := if digits.isEmpty then r.ending else some [Char.ofNat (Escape.digitsValue 8 digits)] }
        (cs.drop digits.length) ts
    | '0' =>
      let digits := match cs with
        | 'x' :: rest => 'x' :: rest.takeWhile Escape.isHex
        | cs => cs.takeWhile Escape.isOctal
      scriptLetters fuel { r with record := some (recordEnd ('0' :: digits |> fun t => if digits.head? = some 'x' then digits else t)) }
        (cs.drop digits.length) ts
    | 'a' => scriptLetters fuel { r with
        splits := true
        loops := true } cs ts
    | 'F' => do
      let (r, ts) ← valued (fun t => { r with separator := some t }) "No code specified for -F."
      return ({ r with
        splits := true
        loops := true }, ts)
    | 'i' => return ({ r with inPlace := some cs }, ts)
    | 'w' => scriptLetters fuel { r with warns := true } cs ts
    | 'W' => scriptLetters fuel { r with warns := true } cs ts
    | 'c' => scriptLetters fuel { r with checks := true } cs ts
    | 'v' => return ({ r with version := true }, ts)
    | 's' => scriptLetters fuel r cs ts
    | 'S' => scriptLetters fuel r cs ts
    | 't' => scriptLetters fuel r cs ts
    | 'T' => scriptLetters fuel r cs ts
    | 'u' => scriptLetters fuel r cs ts
    | 'U' => scriptLetters fuel r cs ts
    | 'X' => scriptLetters fuel r cs ts
    | 'f' => scriptLetters fuel r cs ts
    | 'C' => scriptLetters fuel r (cs.dropWhile fun c => c.isDigit || "IOEeioADSLa".toList.contains c) ts
    | 'd' => return (r, ts)
    | 'D' => return (r, ts)
    | 'I' => valued (fun t => { r with directories := r.directories ++ [t] }) "No directory specified for -I"
    | 'M' =>
      if cs.isEmpty then refuse "Missing argument to -M" else return ({ r with uses := r.uses ++ [useLine 'M' cs] }, ts)
    | 'm' =>
      if cs.isEmpty then refuse "Missing argument to -m" else return ({ r with uses := r.uses ++ [useLine 'm' cs] }, ts)
    | '-' => if cs.isEmpty then return (r, ts) else scriptLetters fuel r cs ts
    | '\r' => return (r, ts)
    | '\n' => return (r, ts)
    | ' ' => return (r, ts)
    | _ => refuse ("Unrecognized switch: -" ++ c :: cs ++ "  (-h will show valid options).")

/-- Read the arguments of the program. -/
def scriptArguments : Nat → ScriptRequest → List Text → Act ScriptRequest
  | 0, r, _ => return r
  | _, r, [] => return r
  | fuel + 1, r, t :: ts => do
    match t with
    | ['-', '-'] => return { r with operands := ts }
    | '-' :: c :: cs => do
      if "--help".toList = t || "--version".toList = t then
        complain ("Unrecognized switch: " ++ t ++ "  (-h will show valid options).")
        throw (.exited 25)
      let (r, ts) ← scriptLetters (cs.length + 2) r (c :: cs) ts
      scriptArguments fuel r ts
    | _ => return { r with operands := t :: ts }

/-- A request for nothing. -/
def ScriptRequest.empty : ScriptRequest where
  lines := []
  uses := []
  loops := false
  prints := false
  trims := false
  ending := none
  splits := false
  separator := none
  record := none
  inPlace := none
  checks := false
  warns := false
  speaks := false
  directories := []
  version := false
  operands := []

/-! ### Scripts -/

/-- The letters on the first line of a script that names the program. -/
def firstLineLetters (script : Text) : Option Text :=
  let line := script.takeWhile (· ≠ '\n')
  if "#!".toList.isPrefixOf line then
    match endOf "perl" 0 line with
    | some n =>
      let rest := ((line.drop n).dropWhile (· ≠ ' ')).dropWhile (· = ' ')
      match rest with
      | '-' :: letters => some (letters.filter (· ≠ '\r'))
      | _ => none
    | none => none
  else none

/-- Statements that are carried out before all others: those about modules, and blocks for the beginning. -/
def beginnings : Nat → List Statement → List Statement
  | 0, _ => []
  | fuel + 1, ss => ss.flatMap fun s => match s with
    | .expression line (.function ['u', 's', 'e'] es) => [.expression line (.function "use" es)]
    | .expression line (.function ['B', 'E', 'G', 'I', 'N'] [.newCode b]) => [.block line none b]
    | .package name => [.package name]
    | .block _ _ b => (beginnings fuel b.statements).filter fun s => match s with
      | .block .. => false
      | _ => true
    | _ => []

/-- What is done at the end, the latest first. -/
def endings (ss : List Statement) : List Block :=
  (ss.filterMap fun s => match s with
    | .expression _ (.function ['E', 'N', 'D'] [.newCode b]) => some b
    | _ => none).reverse

/-- The other statements. -/
def mainStatements (ss : List Statement) : List Statement :=
  ss.filter fun s => match s with
    | .expression _ (.function ['u', 's', 'e'] _) => false
    | .expression _ (.function ['B', 'E', 'G', 'I', 'N'] _) => false
    | .expression _ (.function ['E', 'N', 'D'] _) => false
    | _ => true

/-- The expression by which lines are cut into fields. -/
def fieldPattern (t : Text) : Expr :=
  let inner := (t.drop 1).dropLast
  let body := match t with
    | '/' :: _ :: _ => if t.getLast? = some '/' then inner else t
    | '"' :: _ :: _ => if t.getLast? = some '"' then inner else t
    | '\'' :: _ :: _ => if t.getLast? = some '\'' then inner else t
    | t => t
  .matching none (.value (.text body)) [] true

/-- A script that is carried out once for each line of the input. -/
def loopOver (r : ScriptRequest) (ss : List Statement) : List Statement :=
  let trim : List Statement := if r.trims then [.expression 1 (.function "chomp" [.topic])] else []
  let cut : List Statement :=
    if r.splits then
      let p : Expr := match r.separator with
        | some t => fieldPattern t
        | none => .value (.text [' '])
      [.expression 1 (.assign none (.variable ⟨.array, ['F']⟩) (.function "split" [p, .topic]))]
    else []
  let print : List Statement := if r.prints then [.expression 1 (.printing .print none [])] else []
  let test : Expr := .function "defined" [.assign none .topic .readInput]
  [.loop 0 (some "LINE".toList) (some test) (.mk (trim ++ cut ++ ss)) (.mk print)]

/-- A state in which nothing has happened. -/
def Machine.start (run : Runner) (file : Text) : Machine where
  run := run
  cells := #[]
  lists := #[]
  hashes := #[]
  codes := #[]
  ports := #[]
  globals := {}
  scope := []
  fileScope := []
  saved := []
  classes := {}
  package := "main"
  line := 1
  file := file
  want := .nothing
  current := 0
  frames := []
  found := none
  patterns := {}
  positions := {}
  emptied := []
  lastRead := none
  output := 0
  lasting := {}
  spans := {}
  ends := []
  strict := false
  warns := false
  random := none
  modules := []
  constants := {}
  inPlace := none
  argument := none
  started := false

/-- Give the variables that are always there their values. -/
def prepare (r : ScriptRequest) (name : Text) (operands : List Text) (data : Option Text) : Doing Unit := do
  let p ← Doing.process
  let _ ← newCode ⟨.none, none, "main", []⟩
  let input ← globalOf .handle "STDIN"
  let output ← globalOf .handle "STDOUT"
  let errors ← globalOf .handle "STDERR"
  changePort input fun p => { p with stand := .descriptor 0 }
  changePort output fun p => { p with
    stand := .descriptor 1
    writes := true }
  changePort errors fun p => { p with
    stand := .descriptor 2
    writes := true }
  modify fun m => { m with
    output := output
    inPlace := r.inPlace
    warns := r.warns }
  setGlobal "0" (.text name)
  setGlobal "/" (r.record.getD (.text ['\n']))
  setGlobal "\"" (.text [' '])
  setGlobal ";" (.text ['\x1c'])
  setGlobal "@" (.text [])
  setGlobal "!" (.both 0 [])
  setGlobal "?" (.int 0)
  setGlobal "|" (.int 0)
  setGlobal "^O" (.text "linux")
  setGlobal "^T" (.int (p.now / Calendar.second))
  setGlobal "^W" (.int 0)
  setGlobal "^V" (.text "v5.36.0")
  setGlobal "^X" (.text "/usr/bin/perl")
  setGlobal "]" (.text "5.036000")
  setGlobal "<" (.int 0)
  setGlobal ">" (.int 0)
  setGlobal "(" (.text "0 0")
  setGlobal ")" (.text "0 0")
  if r.trims then
    setGlobal "\\" (match r.ending with
      | some t => .text t
      | none => r.record.getD (.text ['\n']))
  fill (← globalOf .array "ARGV") (operands.map Value.text)
  let directories := Text.split ' ' moduleDirectories.toList
  let own := match p.env.get? "PERL5LIB" with
    | some t => (Text.split ':' t).filter (· ≠ [])
    | none => []
  fill (← globalOf .array "INC") ((r.directories ++ own ++ directories).map Value.text)
  let env ← globalOf .hash "ENV"
  for (k, v) in p.env.entries do
    setField env k (.text v)
  match data with
  | some t => do
    let i ← globalOf .handle "DATA"
    Perl.settle i (.fed 0) false t true
  | none => return

/-- What is said of a leap that leads nowhere, and the status with which the script ends. -/
def endOfLeap (l : Leap) : Doing Nat := do
  let failure : Doing Nat := do
    let reason := (← globalValue "!").whole
    let status := (← globalValue "?").whole
    return if reason % 256 ≠ 0 then (reason % 256).toNat
      else if (status / 256) % 256 ≠ 0 then ((status / 256) % 256).toNat else 255
  let stray (t : Text) : Doing Nat := do
    warnHere t
    failure
  match l with
  | .died v => do
    let t ← textOf v
    (write 2 t : Act Unit)
    failure
  | .exited n => return n
  | .returned _ => stray "Can't return outside a subroutine"
  | .next none => stray "Can't \"next\" outside a loop block"
  | .last none => stray "Can't \"last\" outside a loop block"
  | .redo none => stray "Can't \"redo\" outside a loop block"
  | .next (some t) => stray ("Label not found for \"next " ++ t ++ ['"'])
  | .last (some t) => stray ("Label not found for \"last " ++ t ++ ['"'])
  | .redo (some t) => stray ("Label not found for \"redo " ++ t ++ ['"'])

/-- Do something of which only the status is wanted. -/
def statusOf (x : Doing Nat) : Doing Nat := Doing.catching x endOfLeap

/-- Carry out a script that was read. -/
def carryOut (r : ScriptRequest) (name : Text) (operands : List Text) (b : Block) (data : Option Text) : Doing Nat := do
  prepare r name operands data
  for (name, body) in definitions 50 b.statements do
    define name body none
  for b in (endings b.statements).reverse do
    let i ← newCode ⟨b, none, "END", "main"⟩
    modify fun m => { m with ends := i :: m.ends }
  let status ← statusOf do
    runTop maxSteps (beginnings 20 b.statements)
    modify fun m => { m with package := "main" }
    if r.checks then
      (complain (name ++ " syntax OK") : Act Unit)
      throw (.exited 0)
    let ss := mainStatements b.statements
    runTop maxSteps (if r.loops then loopOver r ss else ss)
    return 0
  setGlobal "?" (.ofNat status)
  let atEnd : Doing Nat := do
    for i in (← get).ends do
      let _ ← callCode maxSteps i [] .nothing
    return (← globalValue "?").whole.toNat % 256
  let status ← if r.checks then pure status else statusOf atEnd
  closeWriters
  return status

/-- The script that is asked for, its name, and the arguments that are left. -/
def scriptOf (r : ScriptRequest) : Act (Text × Text × List Text) := do
  if r.lines ≠ [] then return ("-e".toList, r.lines.flatMap (· ++ ['\n']), r.operands)
  match r.operands with
  | [] => return (['-'], ← readAll, [])
  | ['-'] :: ts => return (['-'], ← readAll, ts)
  | path :: ts => do
    match ← readPath path with
    | .ok t => return (path, t, ts)
    | .error e => do
      complain ("Can't open perl script \"" ++ path ++ "\": " ++ e)
      throw (.exited (errorNumber e))

/-- Carry out a script. -/
def perl (run : Runner) : Routine := fun ts => do
  let r ← scriptArguments (ts.length + 1) .empty ts
  if r.version then
    sayLine "\nThis is perl 5, version 36, subversion 0 (v5.36.0) built for x86_64-linux-gnu-thread-multi".toList
    return 0
  let (name, script, operands) ← scriptOf r
  let r ← match firstLineLetters script with
    | some letters => do pure (← scriptLetters (letters.length + 1) r letters []).1
    | none => pure r
  let before : Text := (r.uses.map (· ++ [' '])).flatten
  match (Source.ofText name r.speaks (before ++ script)).read with
  | .error e => do
    complain e.message
    if r.checks then complain (name ++ " had compilation errors.")
    else if e.aborts then complain ("Execution of " ++ name ++ " aborted due to compilation errors.")
    return 255
  | .ok (b, source) => do
    match carryOut r name operands b source.data (Machine.start run name) (← get) with
    | .done status _ p => do
      set p
      finish status
    | .left _ _ p => do
      set p
      finish 255
    | .over e p => do
      set p
      throw e
where
  /-- Write what is left, and say why if that is not possible. -/
  finish (status : Nat) : Act Nat := do
    flush
    match (← get).fault with
    | some e => do
      modify fun p => { p with fault := none }
      complain ("Unable to flush stdout: " ++ e)
      return errorNumber e
    | none => return status

end Rollout.Program
