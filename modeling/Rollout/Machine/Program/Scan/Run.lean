import Rollout.Machine.Calendar.Format
import Rollout.Machine.Program.Making
import Rollout.Machine.Program.Scan.Machine
import Rollout.Machine.Program.Scan.Parser

/-!
How scripts that scan records are carried out: the values of expressions, what statements do, and how the rules are
applied to one record after another.
-/

namespace Rollout.Program.Scan

open Unix

/-- How the scan goes on after a statement. -/
inductive Flow
  /-- With the next statement. -/
  | on
  /-- Behind the loop. -/
  | left
  /-- With the loop. -/
  | again
  /-- Behind the call of the function, which has a value. -/
  | returned (v : Value)

/-- The value of an operation. -/
def Operation.apply (op : Operation) (x y : Float) : Float :=
  match op with
  | .add => x + y
  | .sub => x - y
  | .mul => x * y
  | .div => x / y
  | .mod => (Rounded.remainder (.ofFloat x) (.ofFloat y)).toFloat
  | .pow => x.pow y

/-- Is a comparison true of values in this order? -/
def Comparison.holds (c : Comparison) (o : Option Ordering) : Bool :=
  match c, o with
  | .less, some .lt => true
  | .lessOrEqual, some .lt => true
  | .lessOrEqual, some .eq => true
  | .equal, some .eq => true
  | .notEqual, some .lt => true
  | .notEqual, some .gt => true
  | .notEqual, none => true
  | .greater, some .gt => true
  | .greaterOrEqual, some .gt => true
  | .greaterOrEqual, some .eq => true
  | _, _ => false

/-- The number without its fraction. -/
def truncated (x : Float) : Float := if x < 0 then x.ceil else x.floor

/-- A part of a text, from a character on that is counted from 1, of so many characters; both numbers are rounded. -/
def part (t : Text) (start : Float) (count : Option Float) : Text :=
  let rounded (x : Float) : Int := clamped ((x + 0.5).floor)
  let first := max 1 (rounded start)
  let last : Int := match count with
    | some n => min ((t.length : Int) + 1) (rounded (start + n))
    | none => (t.length : Int) + 1
  if last ≤ first then [] else (t.drop (first - 1).toNat).take (last - first).toNat

/-- The place where one text stands in another one, counted from 1; 0 if it does not. -/
def placeOf (what : Text) : Nat → Text → Nat
  | n, [] => if what = [] then n else 0
  | n, c :: cs => if what.isPrefixOf (c :: cs) then n else placeOf what (n + 1) cs

/-- The moment that a text of six numbers describes, in seconds; -1 if it describes none. -/
def momentOf (zone : Calendar.Zone) (t : Text) : Int :=
  match (words (t.length + 1) t).map fun w => (Text.toNat? w).getD 0 with
  | year :: month :: day :: hour :: minute :: seconds :: _ =>
    let months : Int := (year : Int) * 12 + (month : Int) - 1
    let date : Calendar.Date := ⟨months / 12, (months % 12).toNat + 1, 1⟩
    (date.number + (day : Int) - 1) * 86400 + (3600 * hour + 60 * minute + seconds : Nat) - zone.ahead
  | _ => -1

/-- Values as one text, with what separates them. -/
def joinedKeys (separator : Text) (convert : Text) (vs : List Value) : Value :=
  match vs with
  | [v] => v
  | vs => .text (Text.join separator (vs.map (·.toText convert)))

/-- The texts of values that are printed, where numbers have a format of their own. -/
def printedTexts (vs : List Value) : ScanM (List Text) := do
  let format := (← get).textOf "OFMT"
  return vs.map (·.toText format)

/-- The greatest number of steps that are taken inside of each other or in a loop. -/
def maxDepth : Nat := 5000000

/-- A place whose keys have been found. -/
inductive Target
  /-- A variable. -/
  | variable (n : Name)
  /-- An element of an array. -/
  | element (table : Nat) (index : Index)
  /-- A field. -/
  | field (n : Int)

/-- What a place holds. -/
def Target.read : Target → ScanM Value
  | .variable n => variableValue n
  | .element table index => withTable table (·.fetch index)
  | .field n => fieldValue n

/-- Put a value into a place. -/
def Target.write (v : Value) : Target → ScanM Unit
  | .variable n => setVariable n v
  | .element table index => withTable table fun t => ((), t.put index v)
  | .field n => setField n v

mutual

/-- The value of an expression. -/
def value : Nat → Expr → ScanM Value
  | 0, _ => liftM (tooLong : Act Value)
  | fuel + 1, e => do
    match e with
    | .number x => return .number x
    | .text t => return .text t
    | .regex c => return .truth (c.search (← needRecord) 0).isSome
    | .place p => do (← target fuel p).read
    | .bare n => variableValue n
    | .assign p op e => do
      let place ← target fuel p
      -- an element is there before its value is found
      if let .element table index := place then
        let _ ← withTable table (·.fetch index)
      let v ← value fuel e
      let new ← match op with
        | none => pure v
        | some op => do pure (.number (op.apply (← place.read).toNumber v.toNumber))
      place.write new
      return new
    | .step p up before => do
      let place ← target fuel p
      let old := (← place.read).toNumber
      let new := if up then old + 1 else old - 1
      place.write (.number new)
      return .number (if before then new else old)
    | .choice test yes no => do
      if (← value fuel test).isTrue then value fuel yes else value fuel no
    | .both a b => do
      if (← value fuel a).isTrue then return .truth (← value fuel b).isTrue else return .truth false
    | .either a b => do
      if (← value fuel a).isTrue then return .truth true else return .truth (← value fuel b).isTrue
    | .not e => return .truth !(← value fuel e).isTrue
    | .isIn keys array => do
      let index ← indexOf fuel keys
      let i ← tableOf array
      return .truth (← withTable i (·.contains index))
    | .matches wanted a b => do
      let t ← textOf (← value fuel a)
      let c ← expressionOf fuel b
      return .truth ((c.search t 0).isSome == wanted)
    | .compare c a b => do
      let x ← value fuel a
      let y ← value fuel b
      return .truth (c.holds (compareValues (← get).convert x y))
    | .concat a b => do
      let s ← textOf (← value fuel a)
      let t ← textOf (← value fuel b)
      return .text (s ++ t)
    | .operation op a b => do
      let x ← value fuel a
      let y ← value fuel b
      return .number (op.apply x.toNumber y.toNumber)
    | .negative e => return .number (-(← value fuel e).toNumber)
    | .positive e => return .number (← value fuel e).toNumber
    | .call f es => call fuel f es
    | .builtin b es => builtin fuel b es
    | .getline source target => getline fuel source target

/-- The values of expressions. -/
def values : Nat → List Expr → ScanM (List Value)
  | 0, _ => liftM (tooLong : Act (List Value))
  | _, [] => return []
  | fuel + 1, e :: es => do
    let v ← value fuel e
    return v :: (← values fuel es)

/-- What an element is looked for by. -/
def indexOf : Nat → List Expr → ScanM Index
  | 0, _ => liftM (tooLong : Act Index)
  | fuel + 1, keys => do
    let vs ← values fuel keys
    let m ← get
    return .ofValue m.convert (joinedKeys (m.textOf "SUBSEP") m.convert vs)

/-- The regular expression that an expression is, or that its value describes. -/
def expressionOf : Nat → Expr → ScanM Regex.Compiled
  | 0, _ => liftM (tooLong : Act Regex.Compiled)
  | fuel + 1, e => do
    match e with
    | .regex c => return c
    | e => do
      let t ← textOf (← value fuel e)
      orFail (readExpression t)

/-- The place with its keys. -/
def target : Nat → Place → ScanM Target
  | 0, _ => liftM (tooLong : Act Target)
  | fuel + 1, p => do
    match p with
    | .variable n => return .variable n
    | .element array keys => do
      let index ← indexOf fuel keys
      return .element (← tableOf array) index
    | .field e => return .field (clamped (← value fuel e).toNumber)

/-- The value of a function of the script. -/
def call : Nat → Nat → List Expr → ScanM Value
  | 0, _, _ => liftM (tooLong : Act Value)
  | fuel + 1, f, es => do
    match (← get).functions[f]? with
    | none => return .unset
    | some function => do
      let given ← slots fuel es
      let frame := given ++ List.replicate (function.parameters - given.length) (Slot.value .unset)
      let own := (← get).own
      modify fun m => { m with own := frame.toArray }
      let flow ← execute fuel (function.body.getD .skip)
      modify fun m => { m with own := own }
      return match flow with
        | .returned v => v
        | _ => .unset

/-- What the parameters of a function hold. -/
def slots : Nat → List Expr → ScanM (List Slot)
  | 0, _ => liftM (tooLong : Act (List Slot))
  | _, [] => return []
  | fuel + 1, e :: es => do
    let s ← match e with
      | .bare (.shared i) =>
        if i < specialNames.length then do
          match ← slotOf (.shared i) with
          | .table t => pure (Slot.table t)
          | _ => do pure (.value (← variableValue (.shared i)))
        else sharedSlot (.shared i)
      | .bare n => sharedSlot n
      | e => do pure (.value (← value fuel e))
    return s :: (← slots fuel es)

/-- Read a record; the value says whether there was one. -/
def getline : Nat → Source → Option Place → ScanM Value
  | 0, _, _ => liftM (tooLong : Act Value)
  | fuel + 1, source, place => do
    let put (record : Text) : ScanM Unit := match place with
      | some p => do (← target fuel p).write (.input record)
      | none => setRecord record
    match source with
    | .input => do
      match ← nextRecord 100000 with
      | some record => do
        put record
        return .number 1
      | none => return .number 0
    | .file name => do
      let name ← textOf (← value fuel name)
      match ← readFrom false name with
      | none => return .number (-1)
      | some none => return .number 0
      | some (some record) => do
        put record
        return .number 1
    | .command line => do
      let line ← textOf (← value fuel line)
      match ← readFrom true line with
      | some (some record) => do
        put record
        countUp "NR"
        return .number 1
      | _ => return .number 0

/-- The value of a function that every script knows. -/
def builtin : Nat → Builtin → List Expr → ScanM Value
  | 0, _, _ => liftM (tooLong : Act Value)
  | fuel + 1, b, es => do
    let number (f : Float → Float) : ScanM Value := do
      match ← values fuel es with
      | v :: _ => return .number (f v.toNumber)
      | [] => return .unset
    let text (f : Text → Text) : ScanM Value := do
      match ← values fuel es with
      | v :: _ => return .text (f (← textOf v))
      | [] => return .unset
    let replaced (all : Bool) : ScanM Value := do
      match es with
      | e :: new :: rest => do
        let c ← expressionOf fuel e
        let new ← textOf (← value fuel new)
        let place : Place := match rest with
          | [.place p] => p
          | _ => .field (.number 0)
        let place ← target fuel place
        let old ← textOf (← match rest with
          | [.place _] => place.read
          | [e] => value fuel e
          | _ => place.read)
        let (n, t) := if all then replaceAll c new old
          else match replaceFirst c new old with
            | some t => (1, t)
            | none => (0, old)
        if n ≠ 0 then place.write (.text t)
        return .ofNat n
      | _ => return .unset
    match b with
    | .length => do
      match es with
      | [] => return .ofNat (← needRecord).length
      | [.bare n] => match ← slotOf n with
        | .table i => return .ofNat (← withTable i fun t => (t.size, t))
        | .either i => return .ofNat (← withTable i fun t => (t.size, t))
        | _ => return .ofNat (← textOf (← variableValue n)).length
      | e :: _ => return .ofNat (← textOf (← value fuel e)).length
    | .substr => do
      match ← values fuel es with
      | [v, start] => return .text (part (← textOf v) start.toNumber none)
      | [v, start, count] => return .text (part (← textOf v) start.toNumber (some count.toNumber))
      | _ => return .unset
    | .index => do
      match ← values fuel es with
      | [s, t] => return .ofNat (placeOf (← textOf t) 1 (← textOf s))
      | _ => return .unset
    | .split => do
      match es with
      | e :: .bare n :: rest => do
        let t ← textOf (← value fuel e)
        let separator : Separator ← match rest with
          | [.regex c] => pure (.expression c)
          | [e] => do orFail (Separator.ofText? (← textOf (← value fuel e)))
          | _ => do orFail (Separator.ofText? ((← get).textOf "FS"))
        let parts := separator.cut t
        let i ← tableOf n
        withTable i fun _ => ((), Table.ofRow (parts.map Value.input))
        return .ofNat parts.length
      | _ => return .unset
    | .sub => replaced false
    | .gsub => replaced true
    | .position => do
      match es with
      | [e, r] => do
        let t ← textOf (← value fuel e)
        let c ← expressionOf fuel r
        let (start, length) : Value × Value := match c.search t 0 with
          | some m => (.ofNat (m.start + 1), .ofNat m.text.length)
          | none => (.number 0, .number (-1))
        setShared (special "RSTART") start
        setShared (special "RLENGTH") length
        return start
      | _ => return .unset
    | .sprintf => do
      match ← values fuel es with
      | f :: vs => do
        let m ← get
        match format "sprintf" m.convert (← textOf f) vs with
        | (t, none) => return .text t
        | (_, some e) => fail e
      | [] => return .unset
    | .sin => number Float.sin
    | .cos => number Float.cos
    | .atan2 => do
      match ← values fuel es with
      | [y, x] => return .number (Float.atan2 y.toNumber x.toNumber)
      | _ => return .unset
    | .exp => number Float.exp
    | .log => number Float.log
    | .sqrt => number Float.sqrt
    | .int => number truncated
    | .rand => return .number (doubleOf (← draw) / 2147483647)
    | .srand => do
      let vs ← values fuel es
      let p ← getThe Process
      let new := vs.headD (.number (doubleOf (p.now / Calendar.second)))
      let old := (← get).seed
      modify fun m => { m with
        seed := new
        random := seeded ((clamped new.toNumber) % 4294967296).toNat }
      return old
    | .lower => text fun t => t.map Char.toLower
    | .upper => text fun t => t.map Char.toUpper
    | .system => do
      match ← values fuel es with
      | v :: _ => do
        flushAll
        let line ← textOf v
        return .ofNat (← liftM (runLine (← get).run "sh" line []))
      | [] => return .unset
    | .close => do
      match ← values fuel es with
      | v :: _ => return .number (doubleOf (← closeNamed (← textOf v)))
      | [] => return .unset
    | .fflush => do
      let _ ← values fuel es
      flushAll
      return .number 0
    | .strftime => do
      let vs ← values fuel es
      let p ← getThe Process
      let f ← match vs with
        | v :: _ => textOf v
        | [] => pure "%c"
      let seconds : Int := match vs with
        | _ :: v :: _ => clamped v.toNumber
        | _ => p.now / Calendar.second
      let zone := if ((vs.drop 2).head?).any (·.isTrue) then .universal else zoneOf p
      return .text (Calendar.format (.ofMoment zone (seconds * Calendar.second)) f)
    | .mktime => do
      match ← values fuel es with
      | v :: _ => return .number (doubleOf (momentOf (zoneOf (← getThe Process)) (← textOf v)))
      | [] => return .unset
    | .systime => do return .number (doubleOf ((← getThe Process).now / Calendar.second))

/-- Where something is printed. -/
def targetOf : Nat → Option (Sink × Expr) → ScanM (Option (Sink × Text))
  | 0, _ => liftM (tooLong : Act (Option (Sink × Text)))
  | fuel + 1, sink => do
    match sink with
    | none => return none
    | some (sink, e) => return some (sink, ← textOf (← value fuel e))

/-- Carry out a statement. -/
def execute : Nat → Stmt → ScanM Flow
  | 0, _ => liftM (tooLong : Act Flow)
  | fuel + 1, s => do
    match s with
    | .skip => return .on
    | .eval e => do
      let _ ← value fuel e
      return .on
    | .print es target => do
      let t ← if es.isEmpty then needRecord else do
        let vs ← values fuel es
        let ts ← printedTexts vs
        pure (Text.join ((← get).textOf "OFS") ts)
      let ending := (← get).textOf "ORS"
      output (← targetOf fuel target) (t ++ ending)
      return .on
    | .printf es target => do
      match ← values fuel es with
      | f :: vs => do
        let m ← get
        let (t, fault) := format "printf" m.convert (← textOf f) vs
        output (← targetOf fuel target) t
        if let some e := fault then fail e
        return .on
      | [] => return .on
    | .delete array keys => do
      match keys with
      | none => do
        let i ← tableOf array
        withTable i fun _ => ((), .empty)
      | some keys => do
        let index ← indexOf fuel keys
        let i ← tableOf array
        withTable i fun t => ((), t.erase index)
      return .on
    | .block ss => executeAll fuel ss
    | .cond test yes no => do
      if (← value fuel test).isTrue then execute fuel yes else execute fuel no
    | .loop test step body => loop fuel test step body
    | .loopAfter test body => do
      match ← execute fuel body with
      | .left => return .on
      | .returned v => return .returned v
      | _ => loop fuel (some test) .skip body
    | .each key array body => do
      let i ← tableOf array
      let keys ← withTable i Table.keys
      let whiny := ((← getThe Process).env.get? "WHINY_USERS").isSome
      eachKey fuel key (if whiny then keys.mergeSort (fun a b => decide (a ≤ b)) else keys) body
    | .leave => return .left
    | .again => return .again
    | .nextRecord => throw .record
    | .nextFile => throw .file
    | .quit status => do
      match status with
      | some e => do
        let v ← value fuel e
        modify fun m => { m with status := ((clamped v.toNumber) % 256).toNat }
      | none => pure ()
      throw .quit
    | .giveBack e => do
      match e with
      | some e => return .returned (← value fuel e)
      | none => return .returned .unset

/-- Carry out statements one after the other. -/
def executeAll : Nat → List Stmt → ScanM Flow
  | 0, _ => liftM (tooLong : Act Flow)
  | _, [] => return .on
  | fuel + 1, s :: ss => do
    match ← execute fuel s with
    | .on => executeAll fuel ss
    | flow => return flow

/-- Carry out a loop whose test comes first. -/
def loop : Nat → Option Expr → Stmt → Stmt → ScanM Flow
  | 0, _, _, _ => liftM (tooLong : Act Flow)
  | fuel + 1, test, step, body => do
    liftM (work 1)
    let goesOn ← match test with
      | some e => do pure (← value fuel e).isTrue
      | none => pure true
    if !goesOn then return .on
    match ← execute fuel body with
    | .left => return .on
    | .returned v => return .returned v
    | _ => do
      let _ ← execute fuel step
      loop fuel test step body

/-- Carry out a statement for each key. -/
def eachKey : Nat → Name → List Text → Stmt → ScanM Flow
  | 0, _, _, _ => liftM (tooLong : Act Flow)
  | _, _, [], _ => return .on
  | fuel + 1, key, k :: ks, body => do
    setVariable key (.input k)
    match ← execute fuel body with
    | .left => return .on
    | .returned v => return .returned v
    | _ => eachKey fuel key ks body

end

/-! ### Scans -/

/-- Does a rule with a number select the record? -/
def selects (n : Nat) (s : Selector) : ScanM Bool := do
  match s with
  | .all => return true
  | .only e => return (← value maxDepth e).isTrue
  | .span first last => do
    let inside := (← get).spans.contains n
    if !inside && !(← value maxDepth first).isTrue then return false
    let ends := (← value maxDepth last).isTrue
    modify fun m => { m with spans := if ends then m.spans.filter (· ≠ n) else n :: m.spans.filter (· ≠ n) }
    return true

/-- Apply rules to the record. -/
def applyRules : Nat → List Rule → ScanM Unit
  | _, [] => return
  | n, rule :: rules => do
    if ← selects n rule.selector then
      let _ ← execute maxDepth rule.body
    applyRules (n + 1) rules

/-- Scan records one after another. -/
def scanRecords (script : Script) : Nat → ScanM Unit
  | 0 => return
  | fuel + 1 => do
    match ← nextRecord 100000 with
    | none => return
    | some record => do
      setRecord record
      try applyRules 0 script.rules catch
        | .record => pure ()
        | .file => modify fun m => { m with main := none }
        | h => throw h
      scanRecords script fuel

/-- How many records are scanned at most. -/
def maxRecords : Nat := 10000000

/-- Carry out a script; gives the status. -/
def runScript (script : Script) : ScanM Nat := do
  let stage (a : ScanM Unit) : ScanM Bool := do
    try
      a
      return true
    catch
      | .quit => return false
      | .failed => throw .failed
      | _ => return true
  let all (ss : List Stmt) : ScanM Unit := do
    let _ ← executeAll maxDepth ss
  let finished : ScanM Unit := do
    let goesOn ← stage (all script.beginning)
    if goesOn && (!script.rules.isEmpty || !script.ending.isEmpty) then
      let _ ← stage (scanRecords script maxRecords)
    let _ ← stage (all script.ending)
  try
    finished
    closeAll
    return (← get).status
  catch _ => do
    closeAll
    return 2

end Rollout.Program.Scan
