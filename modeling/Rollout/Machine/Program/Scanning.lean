import Rollout.Machine.Program.Scan.Run

/-!
The program that scans the records of files with a script.
-/

namespace Rollout.Program

open Unix Scan

/-- How the program is used. -/
def awkUsage : Text :=
  Text.join ['\n'] ((["Usage: mawk [Options] [Program] [file ...]",
    "",
    "Program:",
    "    The -f option value is the name of a file containing program text.",
    "    If no -f option is given, a \"--\" ends option processing; the following",
    "    parameters are the program text.",
    "",
    "Options:",
    "    -f program-file  Program  text is read from file instead of from the",
    "                     command-line.  Multiple -f options are accepted.",
    "    -F value         sets the field separator, FS, to value.",
    "    -v var=value     assigns value to program variable var.",
    "    --               unambiguous end of options.",
    "",
    "    Implementation-specific options are prefixed with \"-W\".  They can be",
    "    abbreviated:",
    "",
    "    -W version       show version information and exit.",
    "    -W dump          show assembler-like listing of program and exit.",
    "    -W help          show this message and exit.",
    "    -W interactive   set unbuffered output, line-buffered input.",
    "    -W exec file     use file as program as well as last option.",
    "    -W posix_space   do not consider \"\\n\" a space.",
    "    -W random=number set initial random seed.",
    "    -W sprintf=number adjust size of sprintf buffer.",
    "    -W usage         show this message and exit."] : List String).map String.toList)

/-- What the program says about its version. -/
def awkVersion : Text := "mawk 1.3.4 20200120"

/-- What the arguments of the program ask for. -/
structure ScanRequest where
  /-- The files that hold the script. -/
  files : List Text
  /-- What separates fields. -/
  separator : Option Text
  /-- The variables that are set, with their values. -/
  settings : List (Text × Text)
  /-- The other arguments. -/
  operands : List Text

/-- Read the arguments of the program. -/
def scanArguments : Nat → ScanRequest → List Text → Act ScanRequest
  | 0, r, _ => return r
  | _, r, [] => return r
  | fuel + 1, r, t :: ts => do
    let needed (name : Char) (value : Text) (use : Text → List Text → Act ScanRequest) : Act ScanRequest :=
      match value, ts with
      | [], v :: ts => use v ts
      | [], [] => giveUp 2 ("option -" ++ name :: " lacks argument".toList)
      | v, ts => use v ts
    match t with
    | ['-', '-'] => return { r with operands := ts }
    | '-' :: 'f' :: v => needed 'f' v fun v ts => scanArguments fuel { r with files := r.files ++ [v] } ts
    | '-' :: 'F' :: v => needed 'F' v fun v ts => scanArguments fuel { r with separator := some v } ts
    | '-' :: 'v' :: v => needed 'v' v fun v ts => match setting? v with
      | some s => scanArguments fuel { r with settings := r.settings ++ [s] } ts
      | none => giveUp 2 ("improper assignment: -v " ++ v)
    | '-' :: 'W' :: v => needed 'W' v fun v ts => do
      let word := String.ofList ((v.take 1).map Char.toLower)
      if word = "v" then
        sayLine awkVersion
        throw (.exited 0)
      else if word = "h" || word = "u" then
        complain awkUsage
        throw (.exited 0)
      else if word = "e" then match ts with
        | path :: ts => return { r with
            files := r.files ++ [path]
            operands := ts }
        | [] => giveUp 2 "option -W lacks argument"
      else if word = "i" || word = "p" || word = "s" || word = "r" || word = "d" then scanArguments fuel r ts
      else do
        grumble ("vacuous option: -W " ++ v)
        scanArguments fuel r ts
    | '-' :: '-' :: word =>
      if word = "version".toList then do
        sayLine awkVersion
        throw (.exited 0)
      else if word = "help".toList || word = "usage".toList then do
        complain awkUsage
        throw (.exited 0)
      else giveUp 2 ("not an option: " ++ t)
    | '-' :: _ :: _ => giveUp 2 ("not an option: " ++ t)
    | _ => return { r with operands := t :: ts }

/-- The pieces of the script. -/
def scanPieces (r : ScanRequest) : Act (List (Option Text × Text) × List Text) := do
  match r.files, r.operands with
  | [], [] => do
    complain awkUsage
    throw (.exited 0)
  | [], t :: ts => return ([(none, t)], ts)
  | files, operands => do
    let pieces ← files.mapM fun path => do
      match ← contentOf path with
      | .ok t => return (some path, t)
      | .error e => giveUp 2 ("cannot open \"" ++ path ++ "\" (" ++ e ++ [')'])
    return (pieces, operands)

/-- The texts that variables hold at first. -/
def firstTexts : List (String × Text) :=
  [("FS", " "), ("OFS", " "), ("ORS", "\n"), ("RS", "\n"), ("SUBSEP", "\x1c"), ("FILENAME", []),
    ("CONVFMT", "%.6g"), ("OFMT", "%.6g")]

/-- The variables of a script before it is carried out, where the arrays 0 and 1 hold the environment and the
arguments. -/
def firstSlots (script : Script) (settings : List (Text × Text)) (count : Nat) : Array Slot :=
  let named : List Slot := script.names.map fun name => match firstTexts.find? fun t => t.1.toList = name with
    | some (_, t) => .value (.text t)
    | none => .value .unset
  let put (i : String) (s : Slot) (slots : Array Slot) : Array Slot := slots.set! (special i) s
  let number (i : String) (x : Float) : Array Slot → Array Slot := put i (.value (.number x))
  let known := named.toArray |> number "NF" 0 |> number "NR" 0 |> number "FNR" 0 |> number "RSTART" 0
    |> number "RLENGTH" (-1) |> put "ARGC" (.value (.ofNat count)) |> put "ENVIRON" (.table 0) |> put "ARGV" (.table 1)
  settings.foldl (fun slots s => match script.names.idxOf? s.1 with
    | some i => slots.set! i (.value (.input (unescaped (s.2.length + 1) s.2)))
    | none => slots) known

/-- The state in which a script is carried out in a process. -/
def firstMachine (run : Runner) (p : Process) (script : Script) (settings : List (Text × Text))
    (operands : List Text) : Machine :=
  let arguments := p.name :: operands
  let environment := p.env.entries.foldl (fun (t : Table) e => t.put (.key e.1) (.input e.2)) .empty
  let numbered := arguments.zipIdx.foldl (fun (t : Table) (a : Text × Nat) => t.put (.number a.2) (.input a.1)) .empty
  { run := run
    functions := script.functions
    names := script.names
    shared := firstSlots script settings arguments.length
    own := #[]
    tables := #[environment, numbered]
    record := []
    fields := #[]
    known := true
    stale := false
    main := none
    argument := 1
    opened := false
    readers := []
    writers := []
    spans := []
    random := seeded p.number
    seed := .ofNat p.number
    status := 0 }

/-- Scan the records of files. -/
def awk (run : Runner) : Routine := fun ts => do
  modify fun p => { p with name := Manual.ownName p.name }
  let r ← scanArguments (ts.length + 1) ⟨[], none, [], []⟩ ts
  let (pieces, operands) ← scanPieces r
  match readScript pieces with
  | .error messages => do
    messages.forM fun message => grumble message
    return 2
  | .ok script => do
    let settings := (r.separator.map fun t => ("FS".toList, t)).toList ++ r.settings
    let machine := firstMachine run (← get) script settings operands
    let (result, _) ← ((runScript script).run).run machine
    flush
    match (← get).fault with
    | some e => do
      modify fun p => { p with fault := none }
      cannotWrite e
    | none => return match result with
      | .ok status => status
      | .error _ => 2

end Rollout.Program
