import Rollout.Machine.Program.Permission
import Rollout.Machine.Unix.Executable

/-!
Programs that tell something about the system: its user, its name, and where its programs are.
-/

namespace Rollout.Program

open Unix

/-! ### Users -/

/-- A user of the system as programs name it. -/
structure Account where
  /-- The number. -/
  user : Nat
  /-- The number of the group. -/
  group : Nat

/-- The user that a process belongs to. -/
def rootAccount : Account := ⟨0, 0⟩

/-- The user that a name or a number stands for. -/
def account? (t : Text) : Option Account := do
  let n ← numberIn userNumbers t
  let (_, user, group, _) ← Workspace.users.find? fun u => u.2.1 = n
  return ⟨user, group⟩

/-- What is said of a user that there is not. -/
def noSuchUser (t : Text) : Text :=
  inQuotes t ++ ": no such user" ++ if t.isEmpty then ": No such file or directory".toList else []

/-- What is told about users. -/
inductive AccountFact
  | all
  | user
  | group
  | groups
  deriving DecidableEq

namespace Account

/-- A number with its name. -/
def shown (known : List (Text × Nat)) (n : Nat) : Text := Text.ofNat n ++ '(' :: nameIn known n ++ [')']

/-- What is told about the user; numbers may be told by their names. -/
def tell (a : Account) (named : Bool) : AccountFact → Text
  | .all => "uid=" ++ shown userNumbers a.user ++ " gid=" ++ shown groupNumbers a.group
      ++ " groups=" ++ shown groupNumbers a.group
  | .user => if named then userName a.user else Text.ofNat a.user
  | _ => if named then groupName a.group else Text.ofNat a.group

end Account

/-- Tell about users. -/
def identify : Routine := fun ts => do
  let a ← arguments [.plain 'u' "user", .plain 'g' "group", .plain 'G' "groups", .plain 'n' "name", .plain 'r' "real",
    .plain 'z' "zero", .plain 'Z' "context", .plain 'a' ""] true 1 ts
  if a.has "Z" then giveUp 1 "--context (-Z) works only on an SELinux-enabled kernel"
  let facts : List (String × AccountFact) := [("u", .user), ("g", .group), ("G", .groups)]
  let asked := facts.filter fun (key, _) => a.has key
  if 1 < asked.length then giveUp 1 "cannot print \"only\" of more than one choice"
  let fact := (asked.map (·.2)).headD .all
  if fact = .all && (a.has "n" || a.has "r") then
    giveUp 1 "cannot print only names or real IDs in default format"
  if fact = .all && a.has "z" then giveUp 1 "option --zero not permitted in default format"
  let ending : Text :=
    if !a.has "z" then ['\n']
    else if fact = .groups && 1 < a.operands.length then ['\x00', '\x00']
    else ['\x00']
  let display (u : Account) : Act Nat := do
    say (u.tell (a.has "n") fact ++ ending)
    return 0
  if a.operands.isEmpty then display rootAccount
  else forEach (fun name => match account? name with
    | some u => display u
    | none => do
      grumble (noSuchUser name)
      return 1) a.operands

/-- Tell the groups of users. -/
def groupsOfUsers : Routine := fun ts => do
  let a ← arguments [] true 1 ts
  if a.operands.isEmpty then do
    sayLine (rootAccount.tell true .groups)
    return 0
  else forEach (fun name => match account? name with
    | some u => do
      sayLine (name ++ " : " ++ u.tell true .groups)
      return 0
    | none => do
      grumble (noSuchUser name)
      return 1) a.operands

/-- Print a line; there are no operands but so many. -/
def telling (line : Option Text) (operands : Nat) : Routine := fun ts => do
  let a ← arguments [] true 1 ts
  match a.operands.drop operands with
  | t :: _ => misused 1 ("extra operand " ++ inQuotes t)
  | [] => do
    line.forM sayLine
    return 0

/-- Tell as whom the user has come in: nobody has. -/
def logname : Routine := fun ts => do
  let _ ← telling none 0 ts
  giveUp 1 "no login name"

/-- Tell how many programs may work at the same time. -/
def nproc : Routine := fun ts => do
  let a ← arguments [.wordOnly "all", .valuedWord "ignore"] true 1 ts
  match a.operands with
  | t :: _ => misused 1 ("extra operand " ++ inQuotes t)
  | [] => do
    let less ← match a.value? "ignore" with
      | none => pure 0
      | some t => match Text.toNat? t with
        | some n => pure n
        | none => giveUp 1 ("invalid number: " ++ inQuotes t)
    let p ← get
    let threads (name : String) : Option Nat := do
      let t ← p.env.get? name.toList
      let n ← Text.toNat? (t.takeWhile (· ≠ ','))
      if n = 0 then none else some n
    let wanted := (if a.has "all" then none else threads "OMP_NUM_THREADS").getD 1
    let bounded := if a.has "all" then wanted else min wanted ((threads "OMP_THREAD_LIMIT").getD wanted)
    sayLine (Text.ofNat (max 1 (bounded - less)))
    return 0

/-! ### The system -/

/-- The parts of the name of the system, each with its letter and its word. -/
def systemNames : List (Char × String × Text) :=
  [('s', "kernel-name", "Linux"), ('n', "nodename", "localhost"), ('r', "kernel-release", "6.1.0"),
    ('v', "kernel-version", "#1 SMP"), ('m', "machine", "x86_64"), ('p', "processor", "unknown"),
    ('i', "hardware-platform", "unknown"), ('o', "operating-system", "GNU/Linux")]

/-- Print names of the system. -/
def uname : Routine := fun ts => do
  let flags := systemNames.map fun (c, word, _) => Flag.plain c word
  let a ← arguments (.plain 'a' "all" :: flags) true 1 ts
  match a.operands with
  | t :: _ => misused 1 ("extra operand " ++ inQuotes t)
  | [] => do
    let chosen := systemNames.filter fun (c, _, t) =>
      if a.has "a" then t ≠ "unknown".toList else a.options.any fun o => o.1 = [c]
    let chosen := if a.options = [] then systemNames.take 1 else chosen
    sayLine (Text.join [' '] (chosen.map fun (_, _, t) => t))
    return 0

/-- Tell which terminal there is: none. -/
def tty : Routine := fun ts => do
  let a ← arguments [.plain 's' "silent", .wordOnly "quiet"] true 2 ts
  match a.operands with
  | t :: _ => misused 2 ("extra operand " ++ inQuotes t)
  | [] => pure ()
  if !a.has "s" && !a.has "quiet" then sayLine "not a tty"
  return 1

/-- The letters of options before the operands, and the operands; also the first letter that is none of those known. -/
def lettersBefore (known : Text) : List Text → Text × List Text × Option Char
  | [] => ([], [], none)
  | ('-' :: c :: cs) :: ts =>
    if c = '-' && cs.isEmpty then ([], ts, none)
    else match (c :: cs).find? fun c => !known.contains c with
      | some wrong => ([], ts, some wrong)
      | none =>
        let (letters, rest, wrong) := lettersBefore known ts
        (c :: cs ++ letters, rest, wrong)
  | ts => ([], ts, none)

/-- Tell where programs are. -/
def which : Routine := fun ts => do
  match lettersBefore "as".toList ts with
  | (_, _, some c) => do
    sayLine "Usage: /usr/bin/which [-as] args"
    flush
    complain ("Illegal option -" ++ [c])
    return 2
  | (letters, names, none) => do
    let p ← get
    if names = [] then return 1
    forEach (fun name => do
      let directories := (Text.split ':' ((p.env.get? "PATH").getD shellPath)).map fun d => if d = [] then ['.'] else d
      let paths := if name.contains '/' then [name] else directories.map fun d => d ++ '/' :: name
      let found := paths.filter fun path => (foundAt p.root p.cwd path).isRunnable
      if !letters.contains 's' then (if letters.contains 'a' then found else found.take 1).forM sayLine
      return if found = [] then 1 else 0) names

end Rollout.Program
