import Rollout.Machine.Calendar.Format
import Rollout.Machine.Program.Describing
import Rollout.Machine.Program.Perl.Format
import Rollout.Machine.Program.Perl.Packing
import Rollout.Machine.Program.Perl.Port

/-!
Functions that every script knows, as far as they only need the values of their arguments: those about texts and
numbers, times, and files by their names.
-/

namespace Rollout.Program.Perl

open Unix

/-! ### Texts -/

/-- The place where a text stands in another one, from a place on. -/
def indexFrom (what : Text) : Nat → Text → Option Nat
  | n, t =>
    if what.isPrefixOf t then some n
    else match t with
      | [] => none
      | _ :: rest => indexFrom what (n + 1) rest

/-- The last place where a text stands in another one, up to a place; -1 if there is none. -/
def lastIndexOf (what t : Text) (most : Option Int) : Int :=
  let most : Int := most.getD (t.length : Nat)
  if most < 0 && !what.isEmpty then -1
  else match (List.range (min most.toNat t.length + 1)).reverse.find? fun i => what.isPrefixOf (t.drop i) with
    | some n => (n : Nat)
    | none => -1

/-- A text in which all signs that are no letters stand behind backslashes. -/
def quotedSigns (t : Text) : Text := t.flatMap fun c => if isWordChar c then [c] else ['\\', c]
where
  isWordChar (c : Char) : Bool := c.isAlphanum || c = '_'

/-- Where a part of a text starts and how long it is, if the part is not outside. -/
def partOf (size : Nat) (offset : Int) (count : Option Int) : Option (Nat × Nat) :=
  let start := if offset < 0 then offset + (size : Int) else offset
  let finish : Int := match count with
    | none => size
    | some n => if n < 0 then (size : Int) + n else start + n
  if (size : Int) < start || (start < 0 && finish < 0) then none
  else
    let first := (max 0 start).toNat
    some (first, (min (size : Int) finish - (first : Int)).toNat)

/-- The number that a text in octal digits, or in others behind a mark, stands for. -/
def octalValue (t : Text) : Nat :=
  let t := (t.dropWhile isBlank).filter (· ≠ '_')
  let value (base : Nat) (ds : Text) : Nat :=
    (ds.takeWhile fun c => Rounded.isHex c && Rounded.hexValue c < base).foldl (fun n c => base * n + Rounded.hexValue c) 0
  match t with
  | '0' :: 'x' :: ds => value 16 ds
  | '0' :: 'X' :: ds => value 16 ds
  | 'x' :: ds => value 16 ds
  | '0' :: 'b' :: ds => value 2 ds
  | '0' :: 'B' :: ds => value 2 ds
  | 'b' :: ds => value 2 ds
  | '0' :: 'o' :: ds => value 8 ds
  | ds => value 8 ds

/-- The number that a text in hexadecimal digits stands for. -/
def hexadecimalValue (t : Text) : Nat :=
  let t := t.filter (· ≠ '_')
  let ds := if t.head? = some '0' && ((t.drop 1).head?.map Char.toLower) = some 'x' then t.drop 2
    else if (t.head?.map Char.toLower) = some 'x' then t.drop 1 else t
  (ds.takeWhile Rounded.isHex).foldl (fun n c => 16 * n + Rounded.hexValue c) 0

/-- The integer of a number without its fraction, as far as integers go. -/
def integerPart : Number → Value
  | .int n => .int n
  | .real x =>
    if x.isNaN || x.isInf then .real x
    else
      let cut := if x < 0 then x.ceil else x.floor
      (Number.ofReal cut).toValue

/-! ### Numbers in no order -/

/-- The next state of the numbers in no order. -/
def nextRandom (state : Nat) : Nat := (state * 0x5DEECE66D + 0xB) % 281474976710656

/-- The next number in no order, from 0 up to 1. -/
def drawReal : Doing Float := do
  let state ← match (← get).random with
    | some s => pure s
    | none => do
      let (bytes, _) := System.randomBytes 4 (← Doing.process).toSystem
      (change fun s => (System.randomBytes 4 s).2 : Act Unit)
      pure ((bytes.foldl (fun n c => 256 * n + c.toNat) 0) * 65536 + 0x330E)
  let next := nextRandom state
  modify fun m => { m with random := some next }
  return doubleOf (next : Nat) / 281474976710656

/-! ### Times -/

/-- The parts of a time: seconds, minutes, hours, the day, the month, the year, and the day of the week and of the year. -/
def timeParts (r : Calendar.Reading) : List Value :=
  [.ofNat r.seconds, .ofNat r.minute, .ofNat r.hour, .ofNat r.date.day, .int ((r.date.month : Int) - 1), .int (r.date.year - 1900),
    .ofNat r.date.weekday, .ofNat (r.date.ofYear - 1), .int 0]

/-- A time as a text or in its parts. -/
def timeValues (want : Want) (zone : Calendar.Zone) (vs : List Value) : Doing (List Value) := do
  let p ← Doing.process
  let seconds : Int := match vs with
    | v :: _ => v.whole
    | [] => p.now / Calendar.second
  let r := Calendar.Reading.ofMoment zone (seconds * Calendar.second)
  return if want = .many then timeParts r else [.text (Calendar.format r "%a %b %e %H:%M:%S %Y")]

/-- The reading of a clock with these parts, of which those that are too great count for the next ones. -/
def readingOf (zone : Calendar.Zone) (vs : List Value) : Calendar.Reading :=
  let part (i : Nat) : Int := (vs.getD i .absent).whole
  let months := (part 5 + 1900) * 12 + part 4
  let first : Calendar.Date := ⟨months / 12, (months % 12).toNat + 1, 1⟩
  let seconds := (first.number + part 3 - 1) * 86400 + part 2 * 3600 + part 1 * 60 + part 0
  .ofMoment zone ((seconds - zone.ahead) * Calendar.second)

/-! ### Files -/

/-- What an action on a file gives: whether it was possible. -/
def succeeded (a : Act (Except Text Unit)) : Doing Bool := do
  match ← (a : Act _) with
  | .ok () => return true
  | .error e => do
    setError e
    return false

/-- Make a directory. -/
def makeDirectoryAt (path : Text) (mode : Nat) : Act (Except Text Unit) := do
  let p ← get
  match p.slot path with
  | .error e => return .error e
  | .ok place => do
    if (p.root.at? place).isSome then return .error "File exists"
    change (·.create (.dir []) (p.modeFor mode) place)
    return .ok ()

/-- Remove an empty directory. -/
def removeDirectoryAt (path : Text) : Act (Except Text Unit) := do
  match (← get).entry path with
  | .error e => return .error e
  | .ok (place, .dir [] _) => do
    eraseFile place
    return .ok ()
  | .ok (_, .dir ..) => return .error "Directory not empty"
  | .ok _ => return .error "Not a directory"

/-- Remove a file. -/
def removeFileAt (path : Text) : Act (Except Text Unit) := do
  match (← get).entry path with
  | .error e => return .error e
  | .ok (_, .dir ..) => return .error "Is a directory"
  | .ok (place, _) => do
    eraseFile place
    return .ok ()

/-- Give a file another name. -/
def renameAt (old new : Text) : Act (Except Text Unit) := do
  let p ← get
  match p.entry old, p.slot new with
  | .error e, _ => return .error e
  | _, .error e => return .error e
  | .ok (start, t), .ok goal =>
    if start = goal then return .ok ()
    else if t.isDir && start.isPrefixOf goal then return .error "Invalid argument"
    else match p.root.at? goal with
      | some (.dir es _) =>
        if !t.isDir then return .error "Is a directory"
        else if es ≠ [] then return .error "Directory not empty"
        else do
          eraseFile goal
          change (·.move start goal)
          return .ok ()
      | some _ =>
        if t.isDir then return .error "Not a directory"
        else do
          eraseFile goal
          change (·.move start goal)
          return .ok ()
      | none => do
        change (·.move start goal)
        return .ok ()

/-- Change something about what a path leads to. -/
def alterAt (f : FileTree → FileTree) (path : Text) : Act (Except Text Unit) := do
  let p ← get
  match p.root.locate p.cwd path with
  | .error e => return .error (describeFault e)
  | .ok place => do
    change (·.alter f place)
    return .ok ()

/-- Make a link to a path, or another name for a file. -/
def linkAt (symbolic : Bool) (target path : Text) : Act (Except Text Unit) := do
  let p ← get
  match p.slot path with
  | .error e => return .error e
  | .ok place =>
    if (p.root.at? place).isSome then return .error "File exists"
    else if symbolic then do
      change (·.create (.link target) FileTree.linkMode place)
      return .ok ()
    else match p.entry target with
      | .error e => return .error e
      | .ok (_, .dir ..) => return .error "Operation not permitted"
      | .ok (old, _) => do
        change (·.share old place)
        return .ok ()

/-- Go to a directory. -/
def enter (path : Text) : Act (Except Text Unit) := do
  let p ← get
  match p.root.locate p.cwd path with
  | .error e => return .error (describeFault e)
  | .ok place => match p.root.at? place with
    | some (.dir ..) => do
      set { p with cwd := place }
      return .ok ()
    | _ => return .error "Not a directory"

/-- What a path leads to, where the last name may be a link by itself. -/
def lookAt (p : Process) (isLink : Bool) (path : Text) : Except Text FileTree :=
  if isLink then (p.entry path).map (·.2) else p.look path

/-- What is known of a file, in numbers. -/
def fileNumbers (p : Process) (t : FileTree) : List Value :=
  let about := t.about
  let seconds (m : Int) : Value := .int (m / Calendar.second)
  [.int 1, .ofNat about.node, .ofNat (rawMode t), .ofNat (nameCount p.root t), .ofNat about.owner, .ofNat about.group, .int 0,
    .ofNat (sizeOfTree t), seconds about.used, seconds about.changed, seconds about.changed, .int 4096, .ofNat (blocksOf t * 2)]

/-- The answer to a question about a file. -/
def fileAnswer (p : Process) (letter : Char) (t : FileTree) : Value :=
  let about := t.about
  let days (m : Int) : Value :=
    .real (doubleOf (p.epoch / Calendar.second - m / Calendar.second) / 86400)
  let data : Text := match t with
    | .file data _ => Octets.ofBytes (data.take 512)
    | _ => []
  let odd := (data.filter fun c => (c < ' ' && !"\n\t\r\x0c\x08\x1b".toList.contains c) || '\x7f' ≤ c).length
  let isTextual := data.isEmpty || (!data.contains '\x00' && 3 * odd ≤ data.length)
  match letter with
  | 'e' => .truth true
  | 'f' => .truth (match t with
    | .file .. => true
    | _ => false)
  | 'd' => .truth t.isDir
  | 'l' => .truth (match t with
    | .link .. => true
    | _ => false)
  | 'p' => .truth (match t with
    | .device .pipe _ => true
    | _ => false)
  | 'S' => .truth false
  | 'b' => .truth false
  | 'c' => .truth (match t with
    | .device d _ => d ≠ .pipe
    | _ => false)
  | 's' => if sizeOfTree t = 0 then .truth false else .ofNat (sizeOfTree t)
  | 'z' => .truth (sizeOfTree t = 0)
  | 'x' => .truth (t.isDir || modeOf t &&& FileTree.runMode ≠ 0)
  | 'X' => .truth (t.isDir || modeOf t &&& FileTree.runMode ≠ 0)
  | 'u' => .truth (modeOf t &&& 0o4000 ≠ 0)
  | 'g' => .truth (modeOf t &&& 0o2000 ≠ 0)
  | 'k' => .truth (modeOf t &&& 0o1000 ≠ 0)
  | 'o' => .truth (about.owner = 0)
  | 'O' => .truth (about.owner = 0)
  | 'M' => days about.changed
  | 'A' => days about.used
  | 'C' => days about.changed
  | 'T' => .truth (!t.isDir && isTextual)
  | 'B' => .truth (!t.isDir && (data.isEmpty || !isTextual))
  | _ => .truth true

/-! ### Functions on values -/

/-- Functions whose only argument may be left out. -/
def topicFunctions : List String :=
  ["lc", "uc", "lcfirst", "ucfirst", "length", "chr", "ord", "int", "abs", "sqrt", "sin", "cos", "exp", "log", "hex", "oct",
    "quotemeta", "ref", "stat", "lstat", "readlink", "rmdir", "unlink", "fc", "mkdir", "chomp", "chop", "defined", "study",
    "pos", "alarm", "require", "evalbytes"]

/-- Functions whose arguments are all the values of a list. -/
def manyFunctions : List String :=
  ["join", "sprintf", "reverse", "unlink", "die", "warn", "system", "exec", "kill", "chmod", "chown", "utime", "pack"]

/-- The value of a function that needs nothing but the values of its arguments. -/
def plainFunction (name : Text) (want : Want) (vs : List Value) : Doing (List Value) := do
  let v := vs.headD .absent
  let w := vs.getD 1 .absent
  let one (v : Value) : Doing (List Value) := return [v]
  let textual (f : Text → Text) : Doing (List Value) := do return [.text (f (← textOf v))]
  let numeric (f : Float → Float) : Doing (List Value) := return [(Number.real (f v.toReal)).toValue]
  let answer (a : Act (Except Text Unit)) : Doing (List Value) := do return [.truth (← succeeded a)]
  let texts := vs.map Value.toText
  match String.ofList name with
  | "lc" => textual fun t => t.map Char.toLower
  | "fc" => textual fun t => t.map Char.toLower
  | "uc" => textual fun t => t.map Char.toUpper
  | "lcfirst" => textual fun t => match t with
    | c :: cs => c.toLower :: cs
    | [] => []
  | "ucfirst" => textual fun t => match t with
    | c :: cs => c.toUpper :: cs
    | [] => []
  | "length" => if v.isDefined then one (.ofNat (← textOf v).length) else one .absent
  | "chr" =>
    let n := v.whole.toNat
    one (.text (if n < 256 then [Char.ofNat n] else Octets.ofText [Char.ofNat n]))
  | "ord" => one (.ofNat ((← textOf v).head?.map Char.toNat |>.getD 0))
  | "int" => one (integerPart v.toNumber)
  | "abs" => one (match v.toNumber with
    | .int n => (Number.ofInt n.natAbs).toValue
    | .real x => .real x.abs)
  | "sqrt" =>
    if v.toReal < 0 then dieHere ("Can't take sqrt of " ++ v.toNumber.toText) else numeric Float.sqrt
  | "sin" => numeric Float.sin
  | "cos" => numeric Float.cos
  | "exp" => numeric Float.exp
  | "log" =>
    if v.toReal ≤ 0 then dieHere ("Can't take log of " ++ v.toNumber.toText) else numeric Float.log
  | "atan2" => one (.real (Float.atan2 v.toReal w.toReal))
  | "hex" => one (.ofNat (hexadecimalValue v.toText))
  | "oct" => one (.ofNat (octalValue v.toText))
  | "quotemeta" => textual quotedSigns
  | "rand" => do
    let x ← drawReal
    let most := v.toReal
    one (.real (x * (if most == 0 then 1 else most)))
  | "srand" => do
    let n := if vs.isEmpty then 42 else v.whole.toNat
    modify fun m => { m with random := some ((n % 4294967296) * 65536 + 0x330E) }
    one (.ofNat n)
  | "index" =>
    let t ← textOf v
    let start := min t.length (max 0 (vs.getD 2 .absent).whole).toNat
    one (match indexFrom (← textOf w) start (t.drop start) with
      | some n => .ofNat n
      | none => .int (-1))
  | "rindex" =>
    let t ← textOf v
    one (.int (lastIndexOf (← textOf w) t ((vs.drop 2).head?.map Value.whole)))
  | "substr" =>
    let t ← textOf v
    one (match partOf t.length w.whole ((vs[2]?).bind fun n => if n.isDefined then some n.whole else none) with
      | some (start, n) => .text ((t.drop start).take n)
      | none => .absent)
  | "join" => one (.text (Text.join (← textOf v) (← (vs.drop 1).mapM textOf)))
  | "sprintf" => do
    let shown ← (vs.drop 1).mapM fun (v : Value) => match v with
      | .reference .. => Value.text <$> textOf v
      | v => pure v
    one (.text (formatWith (← textOf v) shown))
  | "reverse" =>
    if want = .many then return vs.reverse
    else one (.text ((← vs.mapM textOf).flatten.reverse))
  | "time" => one (.int ((← Doing.process).now / Calendar.second))
  | "times" => return [.int 0, .int 0, .int 0, .int 0]
  | "localtime" => timeValues want (zoneOf (← Doing.process)) vs
  | "gmtime" => timeValues want .universal vs
  | "sleep" => do
    flushPorts
    (Unix.pass (v.whole.toNat * 1000000) : Act Unit)
    one (.int v.whole)
  | "mkdir" => answer (makeDirectoryAt v.toText (if w.isDefined then w.whole.toNat else 0o777))
  | "rmdir" => answer (removeDirectoryAt v.toText)
  | "unlink" => do
    let done ← texts.mapM fun t => succeeded (removeFileAt t)
    one (.ofNat (done.filter id).length)
  | "rename" => answer (renameAt v.toText w.toText)
  | "symlink" => answer (linkAt true v.toText w.toText)
  | "link" => answer (linkAt false v.toText w.toText)
  | "chdir" => answer (enter v.toText)
  | "chmod" => do
    let mode := v.whole.toNat &&& 0o7777
    let done ← (texts.drop 1).mapM fun t => succeeded (alterAt (fun f => f.withAbout { f.about with mode := mode }) t)
    one (.ofNat (done.filter id).length)
  | "chown" => do
    let change (f : FileTree) : FileTree := f.withAbout { f.about with
      owner := if v.whole < 0 then f.about.owner else v.whole.toNat
      group := if w.whole < 0 then f.about.group else w.whole.toNat }
    let done ← (texts.drop 2).mapM fun t => succeeded (alterAt change t)
    one (.ofNat (done.filter id).length)
  | "utime" => do
    let now := (← Doing.process).now
    let moment (v : Value) : Int := if v.isDefined then v.whole * Calendar.second else now
    let change (f : FileTree) : FileTree := f.withAbout { f.about with
      used := moment v
      changed := moment w }
    let done ← (texts.drop 2).mapM fun t => succeeded (alterAt change t)
    one (.ofNat (done.filter id).length)
  | "readlink" => do
    match (← Doing.process).entry v.toText with
    | .ok (_, .link target _) => one (.text target)
    | .ok _ => do
      setError "Invalid argument"
      one .absent
    | .error e => do
      setError e
      one .absent
  | "umask" => do
    let p ← Doing.process
    if v.isDefined then (modify fun p => { p with mask := v.whole.toNat &&& 0o777 } : Act Unit)
    one (.ofNat p.mask)
  | "getppid" => one (.ofNat (← Doing.process).parent)
  | "getpwuid" =>
    if v.whole = 0 then
      if want = .many then
        return [.text "root", .text ['x'], .int 0, .int 0, .text [], .text [], .text "root", .text "/root", .text "/bin/bash"]
      else one (.text "root")
    else one .absent
  | "getpwnam" =>
    if v.toText = "root".toList then
      if want = .many then
        return [.text "root", .text ['x'], .int 0, .int 0, .text [], .text [], .text "root", .text "/root", .text "/bin/bash"]
      else one (.int 0)
    else return []
  | "getgrgid" => one (if v.whole = 0 then .text "root" else .absent)
  | "pack" => one (.text (packWith (← textOf v) (vs.drop 1)))
  | "unpack" => do
    let found := unpackWith (← textOf v) (← textOf w)
    return if want = .many then found else found.take 1
  | "study" => one (.truth true)
  | "alarm" => one (.int 0)
  | "lock" => one v
  | "wait" => one (.int (-1))
  | "waitpid" => one (.int (-1))
  | "utf8" => one v
  | _ => dieHere ("Unsupported function " ++ name)

end Rollout.Program.Perl
