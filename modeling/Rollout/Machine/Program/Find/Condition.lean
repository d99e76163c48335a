import Rollout.Machine.Calendar.Parser
import Rollout.Machine.Program.Making
import Rollout.Machine.Program.Searching

/-!
Conditions for files that are looked for in directories: tests of what a file is, and actions, which are conditions,
too. A condition is read from arguments.
-/

namespace Rollout.Program.Find

open Unix

/-! ### Conditions -/

/-- A number that something has to be, or to be less or more than. -/
structure Quantity where
  /-- How the thing stands to the number. -/
  order : Ordering
  /-- The number. -/
  number : Nat

/-- Is a number as it has to be? -/
def Quantity.holds (q : Quantity) (n : Nat) : Bool := compare n q.number == q.order

/-- When a command is run. -/
inductive Running
  /-- For each file. -/
  | each
  /-- For each file, if the answer to a question is yes. -/
  | asking
  /-- For many files at once, with a number that stands for the command. -/
  | together (number : Nat)

/-- A test of a file, or something that is done with it. -/
inductive Criterion
  | name (p : Shell.Pattern) (fold : Bool)
  | path (p : Shell.Pattern) (fold : Bool)
  | regex (c : Regex.Compiled)
  | kind (letters : Text) (target : Bool)
  | size (q : Quantity) (unit : Nat)
  | empty
  | mode (sort : Option Char) (bits : Nat)
  /-- How long ago something was changed or read, in units of so many seconds before a moment. -/
  | age (reading : Bool) (q : Quantity) (unit : Int) (origin : Int)
  /-- Was it changed or read after a moment? -/
  | newer (reading : Bool) (moment : Int)
  | links (q : Quantity)
  | node (q : Quantity)
  | owner (group : Bool) (q : Quantity)
  | unowned (group : Bool)
  | target (p : Shell.Pattern) (fold : Bool)
  | access (bit : Nat)
  | constant (b : Bool)
  | delete
  | exec (words : List Text) (inDir : Bool) (running : Running)
  /-- Write the path to a file, or to the standard output. -/
  | print (ending : Char) (file : Option Text)
  | printf (format : Text) (file : Option Text)
  /-- Write what is known. -/
  | list (file : Option Text)
  | prune
  | quit

/-- A condition. -/
inductive Condition
  | single (c : Criterion)
  | not (a : Condition)
  | and (a b : Condition)
  | or (a b : Condition)
  /-- Both are looked at, and the second counts. -/
  | after (a b : Condition)

/-- A part of an expression. -/
inductive Token
  | criterion (c : Criterion)
  | opening
  | closing
  | bang
  | and
  | or
  | comma

/-- How directories are searched. -/
structure Bounds where
  /-- How deep at least. -/
  least : Nat
  /-- How deep at most. -/
  most : Option Nat
  /-- Does what is in a directory come before the directory? -/
  contentsFirst : Bool
  /-- How expressions are written. -/
  regexType : Text
  /-- Are days counted from midnight on? -/
  wholeDays : Bool
  /-- Is something said about tests that make no sense? -/
  warns : Bool
  /-- What is said about them, the latest first. -/
  warnings : List Text

/-! ### Reading tests -/

/-- An expression that could not be read, with what is said about it. -/
abbrev Reading := ReaderT Process (StateT (Bounds × Nat) (Except Text))

/-- The ways to write expressions. -/
def regexTypes : List Text :=
  ["findutils-default", "ed", "emacs", "gnu-awk", "grep", "posix-awk", "awk", "posix-basic", "posix-egrep", "egrep",
    "posix-extended", "posix-minimal-basic", "sed"].map String.toList

/-- A number after a sign that says how something has to stand to it, and what follows. -/
def quantity? (t : Text) : Option (Quantity × Text) :=
  let (order, digits) := match t with
    | '+' :: t => (Ordering.gt, t)
    | '-' :: t => (Ordering.lt, t)
    | t => (Ordering.eq, t)
  let number := digits.takeWhile Char.isDigit
  (Text.toNat? number).map fun n => (⟨order, n⟩, digits.drop number.length)

/-- A basic expression in which plus signs and question marks repeat, and braces mean themselves. -/
def fromPlain : Text → Text
  | '\\' :: '\x7b' :: cs => '\x7b' :: fromPlain cs
  | '\\' :: '\x7d' :: cs => '\x7d' :: fromPlain cs
  | '\\' :: '+' :: cs => '+' :: fromPlain cs
  | '\\' :: '?' :: cs => '?' :: fromPlain cs
  | '\\' :: c :: cs => '\\' :: c :: fromPlain cs
  | '+' :: cs => '\\' :: '+' :: fromPlain cs
  | '?' :: cs => '\\' :: '?' :: fromPlain cs
  | c :: cs => c :: fromPlain cs
  | [] => []

/-- The expression that has to match a path. -/
def pathRegex (kind : Text) (fold : Bool) (t : Text) : Except Text Regex.Compiled :=
  let extended := ["posix-extended", "posix-egrep", "egrep", "posix-awk", "awk", "gnu-awk"].contains
    (String.ofList kind)
  let compiled := if extended then Regex.compile Regex.extended fold false t
    else if kind = "findutils-default".toList || kind = "emacs".toList then
      Regex.compile Regex.basic fold false (fromPlain t)
    else Regex.compile Regex.basic fold false t
  compiled.mapError fun e => "failed to compile regular expression '" ++ t ++ "': " ++ e.message

/-- The letters of kinds of files between commas. -/
def kindsOf (t : Text) : Except Text Text :=
  match t with
  | [] => .error "Arguments to -type should contain at least one letter"
  | c :: rest =>
    if !"bcdpflsD".toList.contains c then .error ("Unknown argument to -type: " ++ [c])
    else match rest with
      | [] => .ok [c]
      | ',' :: [] => .error "Last file type in list argument to -type is missing, i.e., list is ending on: ','"
      | ',' :: d :: more => (kindsOf (d :: more)).map (c :: ·)
      | _ => .error "Must separate multiple arguments to -type using: ','"
  termination_by t.length

/-- How many bytes a letter for sizes stands for. -/
def sizeUnit? (t : Text) : Option Nat :=
  match t with
  | [] => some 512
  | ['b'] => some 512
  | ['c'] => some 1
  | ['w'] => some 2
  | ['k'] => some 1024
  | ['M'] => some 1048576
  | ['G'] => some 1073741824
  | _ => none

/-- The words of a command, how it is run, and what follows. -/
def commandWords : List Text → List Text → Option (List Text × Bool × List Text)
  | _, [] => none
  | words, t :: rest =>
    if t = [';'] then some (words.reverse, false, rest)
    else if t = ['+'] && words.head? = some "\x7b\x7d".toList then some (words.reverse, true, rest)
    else commandWords (t :: words) rest

/-- Does a format end with a percent sign that stands for nothing? -/
def endsInside : Text → Bool
  | ['%'] => true
  | '%' :: _ :: t => endsInside t
  | _ :: t => endsInside t
  | [] => false

/-- A test or an action with its name, and what follows; a name that is not known gives nothing. -/
def criterion? (name : Text) (rest : List Text) : Reading (Option (List Token × List Text)) := do
  let found (c : Criterion) (rest : List Text) : Reading (Option (List Token × List Text)) :=
    return some ([.criterion c], rest)
  let withValue (f : Text → Reading Criterion) : Reading (Option (List Token × List Text)) := do
    match rest with
    | [] => throw ("missing argument to `" ++ name ++ ['\''])
    | v :: rest => found (← f v) rest
  let depth (f : Nat → Bounds → Bounds) : Reading (Option (List Token × List Text)) := do
    match rest with
    | [] => throw ("missing argument to `" ++ name ++ ['\''])
    | v :: rest => match Text.toNat? v with
      | some n => do
        modify fun (r, k) => (f n r, k)
        return some ([], rest)
      | none =>
        throw ("Expected a positive decimal integer argument to " ++ name ++ ", but got " ++ inQuotes v)
  let wrong {α : Type} (v : Text) : Reading α :=
    throw ("invalid argument `" ++ v ++ "' to `" ++ name ++ ['\''])
  let counted (f : Quantity → Reading Criterion) : Reading (Option (List Token × List Text)) :=
    withValue fun v => match quantity? v with
      | some (q, []) => f q
      | _ => wrong v
  let aged (reading : Bool) (unit : Int) : Reading (Option (List Token × List Text)) :=
    counted fun q => do
      let now := (← read).now
      let day : Int := 86400 * Calendar.second
      let r := (← get).1
      return .age reading q unit (if r.wholeDays then (now / day + 1) * day else now)
  let owned (group : Bool) (what : String) : Reading (Option (List Token × List Text)) :=
    withValue fun v =>
      match (if group then groupNumbers else userNumbers).lookup v, quantity? v with
      | some n, _ => return .owner group ⟨.eq, n⟩
      | none, some (q, []) => return .owner group q
      | none, _ => throw (inQuotes v ++ " is not the name of " ++ what)
  let fileAt (path : Text) : Reading FileTree := do
    match (← read).look path with
    | .ok t => return t
    | .error e => throw (inQuotes path ++ ": " ++ e)
  let compared (kinds : Text) : Reading (Option (List Token × List Text)) :=
    match kinds with
    | [kind, 't'] => withValue fun v => do
      let p ← read
      match Calendar.parse (zoneOf p) p.now v with
      | some moment => return .newer (kind = 'a') moment
      | none => throw ("I cannot figure out how to interpret " ++ inQuotes v ++ " as a date or time")
    | [kind, other] => withValue fun v => do
      let about := (← fileAt v).about
      return .newer (kind = 'a') (if other = 'a' then about.used else about.changed)
    | _ => return none
  let warn (t : Text) : Reading Unit := modify fun (r, k) =>
    (if r.warns then { r with warnings := ("warning: " ++ t) :: r.warnings } else r, k)
  let named (fold : Bool) : Reading (Option (List Token × List Text)) := withValue fun v => do
    if v.contains '/' && v ≠ ['/'] then
      warn (inQuotes name ++ " matches against basenames only, but the given pattern contains a directory separator ('/'), "
        ++ "thus the expression will evaluate to false all the time.  Did you mean '"
        ++ (if fold then "-iwholename" else "-wholename") ++ "'?")
    return .name (namePattern (if fold then v.map Char.toLower else v)) fold
  let change (f : Bounds → Bounds) (rest : List Text) : Reading (Option (List Token × List Text)) := do
    modify fun (r, k) => (f r, k)
    return some ([], rest)
  let command (inDir asks : Bool) : Reading (Option (List Token × List Text)) := do
    match commandWords [] rest with
    | some ([], _, _) => wrong [';']
    | some (words, true, rest) =>
      if (words.filter (· = "\x7b\x7d".toList)).length ≠ 1 then
        throw ("Only one instance of \x7b\x7d is supported with " ++ name ++ " ... +")
      else do
        let (r, k) ← get
        set (r, k + 1)
        found (.exec words.dropLast inDir (.together k)) rest
    | some (words, false, rest) => found (.exec words inDir (if asks then .asking else .each)) rest
    | none => throw ("missing argument to `" ++ name ++ ['\''])
  match String.ofList name with
  | "-name" => named false
  | "-iname" => named true
  | "-path" => withValue fun v => return .path (namePattern v) false
  | "-wholename" => withValue fun v => return .path (namePattern v) false
  | "-ipath" => withValue fun v => return .path (namePattern (v.map Char.toLower)) true
  | "-iwholename" => withValue fun v => return .path (namePattern (v.map Char.toLower)) true
  | "-regex" => withValue fun v => do
    let (r, _) ← get
    match pathRegex r.regexType false v with
    | .ok c => return .regex c
    | .error e => throw e
  | "-iregex" => withValue fun v => do
    let (r, _) ← get
    match pathRegex r.regexType true v with
    | .ok c => return .regex c
    | .error e => throw e
  | "-regextype" => match rest with
    | [] => throw "missing argument to `-regextype'".toList
    | v :: rest => do
      if !regexTypes.contains v then
        throw ("Unknown regular expression type " ++ inQuotes v ++ "; valid types are "
          ++ Text.commaList (regexTypes.map inQuotes) ++ ['.'])
      change (fun r => { r with regexType := v }) rest
  | "-type" => withValue fun v => match kindsOf v with
    | .ok letters => return .kind letters false
    | .error e => throw e
  | "-xtype" => withValue fun v => match kindsOf v with
    | .ok letters => return .kind letters true
    | .error e => throw e
  | "-size" => withValue fun v => match quantity? v with
    | some (q, unit) => match sizeUnit? unit with
      | some n => return .size q n
      | none => throw ("invalid -size type `" ++ unit.take 1 ++ ['\''])
    | none => throw ("invalid -size type `" ++ (v.reverse.take 1) ++ ['\''])
  | "-empty" => found .empty rest
  | "-perm" => withValue fun v => do
    let (sort, t) := match v with
      | '-' :: t => (some '-', t)
      | '/' :: t => (some '/', t)
      | t => (none, t)
    match changeMode 0 false t 0 with
    | some bits => return .mode sort bits
    | none => throw ("invalid mode " ++ inQuotes v)
  | "-mtime" => aged false 86400
  | "-atime" => aged true 86400
  | "-ctime" => aged false 86400
  | "-mmin" => aged false 60
  | "-amin" => aged true 60
  | "-cmin" => aged false 60
  | "-newer" => compared ['m', 'm']
  | "-anewer" => compared ['a', 'm']
  | "-cnewer" => compared ['c', 'm']
  | "-used" => withValue fun v => match quantity? v with
    | some (q, []) => return .constant (q.holds 0)
    | _ => throw ("Invalid argument " ++ v ++ " to -used")
  | "-samefile" => withValue fun v => return .node ⟨.eq, (← fileAt v).about.node⟩
  | "-inum" => counted fun q => return .node q
  | "-lname" => withValue fun v => return .target (namePattern v) false
  | "-ilname" => withValue fun v => return .target (namePattern (v.map Char.toLower)) true
  | "-links" => counted fun q => return .links q
  | "-user" => owned false "a known user"
  | "-uid" => counted fun q => return .owner false q
  | "-group" => owned true "an existing group"
  | "-gid" => counted fun q => return .owner true q
  | "-nouser" => found (.unowned false) rest
  | "-nogroup" => found (.unowned true) rest
  | "-fstype" => withValue fun _ => return .constant false
  | "-context" => throw "invalid predicate -context: SELinux is not enabled.".toList
  | "-readable" => found (.access 0) rest
  | "-writable" => found (.access 0) rest
  | "-executable" => found (.access 0o111) rest
  | "-true" => found (.constant true) rest
  | "-false" => found (.constant false) rest
  | "-maxdepth" => depth fun n r => { r with most := some n }
  | "-mindepth" => depth fun n r => { r with least := n }
  | "-depth" => change (fun r => { r with contentsFirst := true }) rest
  | "-d" => change (fun r => { r with contentsFirst := true }) rest
  | "-daystart" => change (fun r => { r with wholeDays := true }) rest
  | "-warn" => change (fun r => { r with warns := true }) rest
  | "-nowarn" => change (fun r => { r with warns := false }) rest
  | "-mount" => return some ([], rest)
  | "-xdev" => return some ([], rest)
  | "-noleaf" => return some ([], rest)
  | "-ignore_readdir_race" => return some ([], rest)
  | "-noignore_readdir_race" => return some ([], rest)
  | "-print" => found (.print '\n' none) rest
  | "-print0" => found (.print '\x00' none) rest
  | "-ls" => found (.list none) rest
  | "-printf" => withValue fun v => do
    if endsInside v then throw "error: % at end of format string".toList
    return .printf v none
  | "-fprint" => withValue fun v => return .print '\n' (some v)
  | "-fprint0" => withValue fun v => return .print '\x00' (some v)
  | "-fls" => withValue fun v => return .list (some v)
  | "-fprintf" => match rest with
    | file :: format :: rest => do
      if endsInside format then throw "error: % at end of format string".toList
      found (.printf format (some file)) rest
    | _ => throw "missing argument to `-fprintf'".toList
  | "-delete" => do
    modify fun (r, k) => ({ r with contentsFirst := true }, k)
    found .delete rest
  | "-prune" => found .prune rest
  | "-quit" => found .quit rest
  | "-exec" => command false false
  | "-execdir" => command true false
  | "-ok" => command false true
  | "-okdir" => command true true
  | "-not" => return some ([.bang], rest)
  | "-a" => return some ([.and], rest)
  | "-and" => return some ([.and], rest)
  | "-o" => return some ([.or], rest)
  | "-or" => return some ([.or], rest)
  | _ =>
    let kinds := name.drop "-newer".length
    if "-newer".toList.isPrefixOf name then
      if kinds.length = 2 && kinds.all ("aBcmt".toList.contains ·) && kinds.head? ≠ some 't' then compared kinds
      else throw ("invalid predicate `" ++ name ++ ['\''])
    else return none

/-- The parts of an expression; gives the argument that cannot belong to it, and the one before it. -/
def tokens (last : Text) : Nat → List Text → Reading (Except (Text × Text) (List Token))
  | 0, _ => return .ok []
  | _, [] => return .ok []
  | fuel + 1, t :: rest => do
    let more (found : List Token) (rest : List Text) : Reading (Except (Text × Text) (List Token)) := do
      return (← tokens t fuel rest).map (found ++ ·)
    match t with
    | ['('] => more [.opening] rest
    | [')'] => more [.closing] rest
    | ['!'] => more [.bang] rest
    | [','] => more [.comma] rest
    | '-' :: _ :: _ => match ← criterion? t rest with
      | some (found, rest) => more found rest
      | none => throw ("unknown predicate `" ++ t ++ ['\''])
    | t => return .error (t, last)

/-! ### Reading expressions -/

/-- How an operator is spelled. -/
def Token.spelling : Token → Text
  | .and => "-a"
  | .or => "-o"
  | .comma => [',']
  | .bang => ['!']
  | .opening => ['(']
  | .closing => [')']
  | .criterion _ => []

/-- What is said if nothing follows an operator. -/
def nothingAfter (t : Token) : List Token → Text
  | .closing :: _ => "expected an expression between '" ++ t.spelling ++ "' and ')'"
  | _ => "expected an expression after '" ++ t.spelling ++ ['\'']

/-- Does something follow that can start a condition? -/
def startsCondition : List Token → Bool
  | .criterion _ :: _ => true
  | .opening :: _ => true
  | .bang :: _ => true
  | _ => false

mutual

/-- Conditions between commas. -/
def readAfter : Nat → List Token → Except Text (Condition × List Token)
  | 0, _ => .error []
  | fuel + 1, ts => do
    let (a, rest) ← readOr fuel ts
    match rest with
    | .comma :: rest => do
      if !startsCondition rest then throw (nothingAfter .comma rest)
      let (b, rest) ← readAfter fuel rest
      return (.after a b, rest)
    | rest => return (a, rest)

/-- Conditions of which one has to hold. -/
def readOr : Nat → List Token → Except Text (Condition × List Token)
  | 0, _ => .error []
  | fuel + 1, ts => do
    let (a, rest) ← readAnd fuel ts
    match rest with
    | .or :: rest => do
      if !startsCondition rest then throw (nothingAfter .or rest)
      let (b, rest) ← readOr fuel rest
      return (.or a b, rest)
    | rest => return (a, rest)

/-- Conditions that have to hold all. -/
def readAnd : Nat → List Token → Except Text (Condition × List Token)
  | 0, _ => .error []
  | fuel + 1, ts => do
    let (a, rest) ← readSingle fuel ts
    match rest with
    | .and :: rest => do
      if !startsCondition rest then throw (nothingAfter .and rest)
      let (b, rest) ← readAnd fuel rest
      return (.and a b, rest)
    | rest =>
      if startsCondition rest then do
        let (b, rest) ← readAnd fuel rest
        return (.and a b, rest)
      else return (a, rest)

/-- A single condition. -/
def readSingle : Nat → List Token → Except Text (Condition × List Token)
  | 0, _ => .error []
  | fuel + 1, ts => match ts with
    | .criterion c :: rest => .ok (.single c, rest)
    | .bang :: rest => do
      if !startsCondition rest then throw (nothingAfter .bang rest)
      let (a, rest) ← readSingle fuel rest
      return (.not a, rest)
    | .opening :: .closing :: _ => throw "invalid expression; empty parentheses are not allowed.".toList
    | .opening :: rest => do
      if rest.isEmpty then
        throw "invalid expression; I was expecting to find a ')' somewhere but did not see one.".toList
      let (a, rest) ← readAfter fuel rest
      match rest with
      | .closing :: rest => return (a, rest)
      | _ => throw "invalid expression; I was expecting to find a ')' somewhere but did not see one.".toList
    | .closing :: _ => throw "you have too many ')'".toList
    | t :: _ =>
      throw ("invalid expression; you have used a binary operator '" ++ t.spelling ++ "' with nothing before it.")
    | [] => .ok (.single (.constant true), [])

end

/-- Is something done in the condition, so that files need not be printed? -/
def Condition.acts : Condition → Bool
  | .single c => match c with
    | .delete => true
    | .exec .. => true
    | .print .. => true
    | .printf .. => true
    | .list _ => true
    | _ => false
  | .not a => a.acts
  | .and a b => a.acts || b.acts
  | .or a b => a.acts || b.acts
  | .after a b => a.acts || b.acts

/-- The files to which a condition writes. -/
def Condition.files : Condition → List Text
  | .single c => match c with
    | .print _ file => file.toList
    | .printf _ file => file.toList
    | .list file => file.toList
    | _ => []
  | .not a => a.files
  | .and a b => a.files ++ b.files
  | .or a b => a.files ++ b.files
  | .after a b => a.files ++ b.files

/-- The condition that arguments make, and how directories are searched; or what is said about them. -/
def readCondition (p : Process) (ts : List Text) : Except (List Text) (Condition × Bounds) :=
  match ((tokens [] (ts.length + 1) ts).run p).run (⟨0, none, false, "findutils-default", false, false, []⟩, 0) with
  | .error e => .error [e]
  | .ok (.error (t, last), _) =>
    .error ["paths must precede expression: `" ++ t ++ ['\''],
      "possible unquoted pattern after predicate `" ++ last ++ "'?"]
  | .ok (.ok found, reach, _) =>
    match readAfter (4 * found.length + 8) found with
    | .error e => .error [e]
    | .ok (_, .closing :: _) => .error ["you have too many ')'"]
    | .ok (c, _) =>
      .ok (if c.acts then c else .and c (.single (.print '\n' none)), reach)

end Rollout.Program.Find
