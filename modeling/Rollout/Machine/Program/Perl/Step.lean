import Rollout.Machine.Program.Perl.Library
import Rollout.Machine.Program.Perl.Matching
import Rollout.Machine.Program.Perl.Parser

/-!
The steps of which carrying out a script is made: rounds of loops, putting values in order, variables, classes and their
methods, and the files that functions are about.
-/

namespace Rollout.Program.Perl

open Unix

/-! ### Kinds of expressions -/

/-- Does an expression stand for several values that can be assigned together? -/
def isPlural : Expr → Bool
  | .variable v => v.sigil = .array || v.sigil = .hash
  | .deref s _ => s = .array || s = .hash
  | .declare _ vs isList => isList || vs.any fun v => v.sigil = .array || v.sigil = .hash
  | .localized e => isPlural e
  | .list _ => true
  | .slice .. => true
  | .fieldSlice .. => true
  | _ => false

/-- Does an expression stand for a place by itself? -/
def isPlace : Expr → Bool
  | .variable v => v.sigil = .scalar
  | .deref s _ => s = .scalar
  | .element .. => true
  | .field .. => true
  | .declare _ _ isList => !isList
  | .localized e => isPlace e
  | .assign _ a _ => !isPlural a
  | .choice _ a b => isPlace a && isPlace b
  | .step _ before _ => before
  | _ => false

/-- The functions that statements define, also those inside of other statements. -/
def definitions : Nat → List Statement → List (Text × Block)
  | 0, _ => []
  | fuel + 1, ss => ss.flatMap fun s => match s with
    | .function name body => (name, body) :: definitions fuel body.statements
    | .branch _ tests other => (tests.flatMap fun t => definitions fuel t.2.statements) ++ definitions fuel other.statements
    | .loop _ _ _ body next => definitions fuel body.statements ++ definitions fuel next.statements
    | .each _ _ _ _ body => definitions fuel body.statements
    | .block _ _ body => definitions fuel body.statements
    | _ => []

/-- Define a function. -/
def define (name : Text) (body : Block) (scope : Option Scope) : Doing Unit := do
  let i ← globalOf .code (qualified "main" name)
  let package := (name.reverse.dropWhile (· ≠ ':')).reverse
  let package := if package.isEmpty then "main".toList else package.take (package.length - 2)
  modify fun m => { m with codes := m.codes.set! i ⟨body, scope, name, package⟩ }

/-- The function with a name, if it is defined. -/
def codeNamed? (name : Text) : Doing (Option Nat) := do
  let full := qualified (← get).package name
  match ← global? .code full with
  | some i => do
    let c ← Doing.looking fun m => m.codes[i]?
    return if (c.map fun c => !c.package.isEmpty).getD false then some i else none
  | none => return none

/-- The last part of a name. -/
def lastPart (name : Text) : Text := (name.reverse.takeWhile (· ≠ ':')).reverse

/-! ### Loops -/

/-- Is a leap for the loop with this label? -/
def isFor (label wanted : Option Text) : Bool := wanted.isNone || wanted = label

/-- Do one round of a loop; tells whether the loop goes on. -/
def roundOf (label : Option Text) (x : Doing Unit) : Nat → Doing Bool
  | 0 => overdue
  | fuel + 1 => Doing.catching (do
      x
      return true) fun l => match l with
    | .next wanted => if isFor label wanted then pure true else throw l
    | .last wanted => if isFor label wanted then pure false else throw l
    | .redo wanted => if isFor label wanted then roundOf label x fuel else throw l
    | l => throw l

/-- How often something is done again, and how deep calls go. -/
def maxSteps : Nat := 50000000

/-- Two sorted lists as one. -/
def mergedBy (before : Value → Value → Doing Bool) : Nat → List Value → List Value → List Value → Doing (List Value)
  | 0, done, as, bs => return done.reverse ++ as ++ bs
  | _, done, [], bs => return done.reverse ++ bs
  | _, done, as, [] => return done.reverse ++ as
  | fuel + 1, done, a :: as, b :: bs => do
    if ← before b a then mergedBy before fuel (b :: done) (a :: as) bs else mergedBy before fuel (a :: done) as (b :: bs)

/-- A list in order; what is equal keeps its order. -/
def sortedBy (before : Value → Value → Doing Bool) : Nat → List Value → Doing (List Value)
  | 0, vs => return vs
  | fuel + 1, vs => do
    if vs.length < 2 then return vs
    let half := vs.length / 2
    let as ← sortedBy before fuel (vs.take half)
    let bs ← sortedBy before fuel (vs.drop half)
    mergedBy before vs.length [] as bs

/-- Do a round for each place until one tells that it was the last. -/
def eachPlace (round : Nat → Doing Bool) : List Nat → Doing Unit
  | [] => return
  | cell :: rest => do if ← round cell then eachPlace round rest

/-- Do a round for each integer from one to another. -/
def countedUp : Nat → (Nat → Doing Bool) → Int → Int → Doing Unit
  | 0, _, _, _ => overdue
  | fuel + 1, round, n, last => do
    if last < n then return
    if ← round (← newCell (.int n)) then countedUp fuel round (n + 1) last

/-- Do something while a place has no other name. -/
def topicSet {α : Type} (cell : Nat) (x : Doing α) : Doing α := inBlock do
  rebind .scalar ['_'] cell
  x

/-- Do something of which the script goes on when it ends with a message. -/
def guarded (x : Doing (List Value)) : Doing (List Value) := do
  let rest : Doing (List Value) := Doing.catching (do
      setGlobal "@" (.text [])
      let vs ← x
      setGlobal "@" (.text [])
      return vs) fun l => match l with
    | .died v => do
      setGlobal "@" v
      return []
    | .returned vs => do
      setGlobal "@" (.text [])
      return vs
    | l => throw l
  rest

/-- End by a signal. -/
def killedBy {α : Type} (signal : Nat) : Doing α := .ofAct (throw (.killed signal))

/-! ### Values -/

/-- The place of an element, for which the array may be made longer. -/
def elementCell (list : Nat) (i : Int) : Doing Nat := do
  match indexIn (← cellsOf list).size i with
  | some n => do
    lengthen list (n + 1)
    return (← cellsOf list).getD n 0
  | none => dieHere ("Modification of non-creatable array value attempted, subscript " ++ Text.ofInt i)

/-- The label that a leap names. -/
def labelOf (es : List Expr) : Option Text :=
  match es with
  | .value v :: _ => some v.toText
  | _ => none

/-- The name of a function with its package. -/
def qualifiedShown (name : Text) : Text := if name.contains ':' then name else "main::" ++ name

/-- Matches each of which starts where the one before it ends. -/
def adjacent : Nat → List Regex.Match → List Regex.Match
  | _, [] => []
  | start, m :: ms => if m.start = start then m :: adjacent m.finish ms else []

/-- The path of a module. -/
def modulePath : Text → Text
  | ':' :: ':' :: rest => '/' :: modulePath rest
  | c :: rest => c :: modulePath rest
  | [] => []

/-- Texts whose classes are told. -/
def named (v : Value) : Doing Value := do
  match v with
  | .reference .. => return .text (← textOf v)
  | v => return v

/-- The value of an operation on two values. -/
def operate (op : Binary) (a b : Value) : Doing Value := do
  let textual : Bool := match op with
    | .concat => true
    | .repeated => true
    | .textEqual => true
    | .textUnequal => true
    | .textOrder => true
    | .textLess => true
    | .textGreater => true
    | .textLessEq => true
    | .textGreaterEq => true
    | _ => false
  if textual then
    let x ← named a
    let y ← named b
    orDie (op.apply x y)
  else orDie (op.apply a b)

/-- The number below zero for one above, and a text with its sign turned around. -/
def negated (v : Value) : Value :=
  match v with
  | .text ('-' :: c :: t) => if c.isAlpha || c = '_' then .text ('+' :: c :: t) else negate v
  | .text ('+' :: c :: t) => if c.isAlpha || c = '_' then .text ('-' :: c :: t) else negate v
  | .text (c :: t) => if c.isAlpha || c = '_' then .text ('-' :: c :: t) else negate v
  | v => negate v
where
  negate (v : Value) : Value := match v.toNumber with
    | .int n => (Number.ofInt (-n)).toValue
    | .real x => .real (-x)

/-- The values of variables that are made when they are asked for. -/
def scalarVariable (v : Variable) : Doing Value := do
  match matchVariable? v.name with
  | some f => return f (← get).found
  | none => match v.name with
    | ['.'] => .looking fun m => match m.lastRead.bind fun i => m.ports[i]? with
      | some port => .ofNat port.lines
      | none => .absent
    | ['$'] => return .ofNat (← Doing.process).number
    | _ => do valueAt (← idOf v)

/-- Put what is known of the last match where arrays and hashes tell about it. -/
def refreshMatch (v : Variable) : Doing Unit := do
  let found := (← get).found
  if v.sigil = .hash && v.name = ['+'] then
    let h ← globalOf .hash ['+']
    changeHash h fun _ => ((), .empty)
    match found with
    | some f => do
      for (name, n) in f.names.reverse do
        match f.group n with
        | .absent => pure ()
        | v => setField h name v
    | none => pure ()
  else if v.sigil = .array && (v.name = ['-'] || v.name = ['+']) then
    let a ← globalOf .array v.name
    match found with
    | some f => do
      let place (n : Nat) : Value :=
        if n = 0 then .ofNat (if v.name = ['-'] then f.whole.start else f.whole.finish)
        else match f.whole.found.lookup n with
          | some (start, t) => .ofNat (if v.name = ['-'] then start else start + t.length)
          | none => .absent
      fill a ((List.range (f.groups + 1)).map place)
    | none => fill a []

/-- New variables of a block; gives what they stand for. -/
def declared (d : Declaring) (vs : List Variable) : Doing (List (Variable × Nat)) :=
  vs.mapM fun v => do
    match d with
    | .own => do
      let i ← newOf v.sigil v.name
      if v.name ≠ [] then bindName v (.own i)
      return (v, i)
    | .shared => do
      let full := qualified (← get).package v.name
      bindName v (.shared (full))
      return (v, ← globalOf v.sigil full)
    | .lasting => do
      let m ← get
      let key := Text.ofNat m.current ++ v.sigil.sign :: v.name
      match m.lasting[key]? with
      | some i => do
        bindName v (.own i)
        return (v, i)
      | none => do
        let i ← newOf v.sigil v.name
        modify fun m => { m with lasting := m.lasting.insert key i }
        bindName v (.own i)
        return (v, i)

/-- Has a lasting variable a value already? -/
def isLasting (v : Variable) : Doing Bool := .looking fun m =>
  m.lasting.contains (Text.ofNat m.current ++ v.sigil.sign :: v.name)

/-- A name that stands for something new until the end of the block. -/
def localName (v : Variable) : Doing Nat := do
  let full := qualified (← get).package v.name
  let i ← newOf v.sigil v.name
  -- some variables keep what they hold
  if v.sigil = .scalar && (v.name = ['.'] || v.name = ['|']) then setCell i (← valueAt (← globalOf v.sigil full))
  rebind v.sigil full i
  return i

/-- The message of a function that ends with one. -/
def messageOf (vs : List Value) (usual : String) : Doing Value := do
  match vs with
  | [.reference r i] => return .reference r i
  | vs => do
    let t := (← vs.mapM textOf).flatten
    let t := if t.isEmpty then usual.toList else t
    if t.getLast? = some '\n' then return .text t else return .text (t ++ (← placeHere))

/-- The class that a value names, or that it belongs to. -/
def classNamed (v : Value) : Doing (Option Text) := do
  match v with
  | .reference .handle _ => return some "IO::File".toList
  | .reference .. => classOf? v
  | .pattern .. => return some "Regexp".toList
  | .absent => return none
  | v => return some v.toText

/-- The classes that come before a class, the nearest first. -/
def ancestorsOf : Nat → Text → Doing (List Text)
  | 0, c => return [c]
  | fuel + 1, c => do
    match ← global? .array (qualified "main" (c ++ "::ISA")) with
    | none => return [c]
    | some i => do
      let parents ← (← elementsOf i).mapM textOf
      let more ← parents.mapM (ancestorsOf fuel)
      return c :: more.flatten

/-- The function that is a method of a class. -/
def methodOf? (class_ name : Text) : Doing (Option Nat) := do
  let classes ← ancestorsOf 50 class_
  classes.findSomeM? fun c => codeNamed? (if c = "main".toList then "main::" ++ name else c ++ "::" ++ name)

/-- The directories in which modules are looked for. -/
def moduleDirectories : String :=
  "/etc/perl /usr/local/lib/x86_64-linux-gnu/perl/5.36.0 /usr/local/share/perl/5.36.0 "
    ++ "/usr/lib/x86_64-linux-gnu/perl5/5.36 /usr/share/perl5 /usr/lib/x86_64-linux-gnu/perl-base "
    ++ "/usr/lib/x86_64-linux-gnu/perl/5.36 /usr/share/perl/5.36 /usr/local/lib/site_perl"

/-- The values of the pieces of a file that are read. -/
def chomped (separator t : Text) : Text :=
  if separator.isEmpty then (t.reverse.dropWhile (· = '\n')).reverse
  else if separator.isSuffixOf t then t.take (t.length - separator.length) else t

/-- The file that is meant by an argument, or the one that was read last. -/
def portFor (vs : List Value) : Doing (Option Nat) := do
  match vs with
  | [] => return (← get).lastRead
  | v :: _ => portOf? v

/-- What is known of a file or of what a path leads to. -/
def treeFor (isLink : Bool) (v : Value) : Doing (Except Text FileTree) := do
  let p ← Doing.process
  let path ← textOf v
  match v with
  | .reference .handle i => match (← portAt i).stand with
    | .descriptor n => match p.descriptors.lookup n with
      | some (.file h) => match p.handles[h]? with
        | some h => return match p.toSystem.opened? h with
          | some t => .ok t
          | none => .error badDescriptor
        | none => return .error badDescriptor
      | some .directory => return .error badDescriptor
      | some (.device d) => return .ok (.ofDevice d)
      | some _ => return .ok (.ofDevice .pipe)
      | none => return .error badDescriptor
    | _ => return .error badDescriptor
  | _ => return lookAt p isLink path

/-- Read a number of characters from a file into a place. -/
def readInto (i cell count offset : Nat) : Doing Value := do
  let rec more : Nat → Doing Unit
    | 0 => return
    | fuel + 1 => do
      if (← portAt i).buffer.length < count then
        if ← readMore i then more fuel
  more 100000
  let p ← portAt i
  let t := p.buffer.take count
  changePort i fun p => { p with buffer := p.buffer.drop count }
  let old := (← valueAt cell).toText
  let start := old.take offset
  setCell cell (.text (start ++ List.replicate (offset - start.length) '\x00' ++ t))
  return .ofNat t.length

/-- A text as a word of a shell. -/
def shellQuoted (t : Text) : Text := '\'' :: (t.flatMap fun c => if c = '\'' then "'\\''".toList else [c]) ++ ['\'']

/-- Run a command, or a program with arguments; gives its status as it is kept. -/
def ran (ts : List Text) : Doing Int := do
  match ts with
  | [line] =>
    if needsShell line then return (← runShell line [] : Nat)
    else match (Text.split ' ' line).filter (· ≠ []) with
      | name :: arguments => runProgram name arguments
      | [] => return -1
  | name :: arguments => runProgram name arguments
  | [] => return -1

/-- The file that is open behind a descriptor, if it is one, with its number. -/
def handleOf? (i : Nat) : Doing (Option (Nat × Handle)) := do
  let p ← Doing.process
  match (← portAt i).stand with
  | .descriptor n => match p.descriptors.lookup n with
    | some (.file h) => return (p.handles[h]?).map fun x => (h, x)
    | _ => return none
  | _ => return none

/-- The place in a file that is read or written next. -/
def toldPlace (i : Nat) : Doing Int := do
  match ← handleOf? i with
  | some (_, h) => do
    let p ← portAt i
    return (h.offset : Int) - (p.buffer.length : Nat) + (p.held.flatten.length : Nat)
  | none => return -1

/-- Go to a place in a file. -/
def sought (i : Nat) (n whence : Int) : Doing Unit := do
  match ← handleOf? i with
  | some (number, h) => do
    let here ← toldPlace i
    let p ← Doing.process
    let size : Int := match p.toSystem.opened? h with
      | some t => sizeOfTree t
      | none => 0
    let start : Int := if whence = 1 then here else if whence = 2 then size else 0
    let offset := (start + n).toNat
    (modify fun p => { p with handles := p.handles.modify number fun h => { h with
      offset := offset
      rest := none } } : Act Unit)
    changePort i fun p => { p with
      buffer := []
      ended := false }
  | none => match (← portAt i).stand with
    | .memory cell => do
      let t ← textOf (← valueAt cell)
      changePort i fun p => { p with buffer := t.drop n.toNat }
    | _ => return

/-- What a method of an open file does. -/
def handleMethod (i : Nat) (method : String) (vs : List Value) (want : Want) : Doing (List Value) := do
  let one (v : Value) : Doing (List Value) := return [v]
  let texts ← vs.mapM textOf
  match method with
  | "print" => one (.truth (← writePort i texts.flatten))
  | "say" => one (.truth (← writePort i (texts.flatten ++ ['\n'])))
  | "printf" => one (.truth (← writePort i (formatWith (texts.headD []) (vs.drop 1))))
  | "close" => one (.truth (← closePort i))
  | "getline" => do
    match ← nextRecord i with
    | some t => one (.text t)
    | none => one .absent
  | "getlines" => do return (← allRecords i maxReadings).map Value.text
  | "flush" => do
    flushPort i
    one (.truth true)
  | "eof" => one (.truth (← atEnd i))
  | "opened" => one (.truth ((← portAt i).stand ≠ .closed))
  | "fileno" => one (match (← portAt i).descriptor? with
    | some n => .ofNat n
    | none => .absent)
  | "autoflush" => do
    if (← get).output = i then
      flushPort i
      setGlobal "|" (.int 1)
    one (.truth true)
  | _ => if want = .many then return [.truth true] else one (.truth true)

/-- The names that a module brings into a script, and what else it changes. -/
def useModule (name : Text) (vs : List Value) : Doing Unit := do
  match String.ofList name with
  | "strict" => modify fun m => { m with strict := true }
  | "warnings" => modify fun m => { m with warns := true }
  | "constant" => match vs with
    | [.reference .hash h] => do
      for (k, v) in ← pairsOf h do
        modify fun m => { m with constants := m.constants.insert k [v] }
    | v :: vs => do
      let k ← textOf v
      modify fun m => { m with constants := m.constants.insert k vs }
    | [] => return
  | "List::Util" => setError "No such file or directory"
  | "Scalar::Util" => setError "No such file or directory"
  | "Cwd" => setError "No such file or directory"
  | _ => return

end Rollout.Program.Perl
