import Rollout.Machine.Calendar.Format
import Rollout.Machine.Program.Finding
import Rollout.Machine.Program.Input
import Rollout.Machine.Program.Listing

/-!
How much room files take, with all that is in directories. What has several names is counted once.
-/

namespace Rollout.Program

open Unix

/-! ### Amounts -/

/-- What is counted. -/
inductive Counted
  /-- Blocks of the disk, in bytes. -/
  | blocks
  /-- Bytes of files. -/
  | bytes
  /-- Files. -/
  | files

/-- An amount, and when the latest of what it is made of was changed. -/
structure Sum where
  /-- The amount. -/
  size : Nat
  /-- The latest change. -/
  changed : Int

/-- Both amounts together. -/
def Sum.add (a b : Sum) : Sum := ⟨a.size + b.size, max a.changed b.changed⟩

/-- What is told about which files. -/
structure Survey where
  /-- What is counted. -/
  counted : Counted
  /-- How amounts are shown. -/
  scale : Scale
  /-- Are files told, too? -/
  all : Bool
  /-- How deep what is told may be. -/
  depth : Nat
  /-- Do amounts of directories leave out those inside of them? -/
  separate : Bool
  /-- Does each name count? -/
  eachName : Bool
  /-- Is everything remembered, or only what may have several names? -/
  remembers : Bool
  /-- The least amount that is told; below zero, the greatest. -/
  threshold : Int
  /-- Names that do not count. -/
  excluded : List Text
  /-- Are links inside of directories followed? -/
  follows : Bool
  /-- How changes are told, if they are. -/
  time : Option (Int → Text)
  /-- What stands behind each line. -/
  ending : Char

namespace Survey

/-- What something takes by itself. -/
def own (s : Survey) (t : FileTree) : Sum :=
  let size := match s.counted with
    | .blocks => 1024 * blocksOf t
    | .bytes => sizeOfTree t
    | .files => 1
  ⟨size, t.about.changed⟩

/-- Does a pattern cover the path, or what follows one of its slashes? -/
def isExcluded (s : Survey) (path : Text) : Bool :=
  let rec ends : Text → List Text
    | [] => []
    | '/' :: cs => cs :: ends cs
    | _ :: cs => ends cs
  (path :: ends path).any (Listing.isCovered s.excluded)

/-- A line about an amount. -/
def line (s : Survey) (name : Text) (a : Sum) : Text :=
  let size := match s.counted with
    | .files => if let .readable .. := s.scale then s.scale.text a.size else Text.ofNat a.size
    | _ => s.scale.text a.size
  let time : Text := match s.time with
    | some f => f a.changed ++ ['\t']
    | none => []
  size ++ '\t' :: time ++ name ++ [s.ending]

/-- Is the amount told? -/
def isTold (s : Survey) (a : Sum) : Bool :=
  if s.threshold < 0 then (a.size : Int) ≤ -s.threshold else s.threshold ≤ (a.size : Int)

/-- What something takes together with all inside of it, with the files that have been counted and what is told, the
latest first. Of a directory, the first amount leaves out directories inside of it if those are told apart. -/
def measure (s : Survey) (p : Process) : Nat → Nat → Text → List Text → FileTree → StateM (List Nat × List Text) (Sum × Sum)
  | 0, _, _, _, t => return (s.own t, s.own t)
  | fuel + 1, level, path, place, t => do
    let node := t.about.node
    let nothing : Sum := ⟨0, t.about.changed⟩
    let mayRepeat := !s.eachName && (s.remembers || (t.about.shared && !t.isDir))
    if s.isExcluded path || (mayRepeat && (← get).1.contains node) then return (nothing, nothing)
    if mayRepeat then modify fun k => (node :: k.1, k.2)
    let mut shown := s.own t
    let mut whole := s.own t
    match t with
    | .dir entries _ =>
      for (name, _) in entries do
        match seen p s.follows (place ++ [name]) with
        | some (next, u) => do
          let (a, b) ← measure s p fuel (level + 1) (pathInside path name) next u
          if !(s.separate && u.isDir) then shown := shown.add a
          whole := whole.add b
        | none => pure ()
    | _ => pure ()
    if ((t.isDir || s.all) && level ≤ s.depth) || level = 0 then
      if s.isTold shown then modify fun k => (k.1, s.line path shown :: k.2)
    return (shown, whole)

end Survey

/-! ### The program -/

/-- The options of `du`. -/
def duFlags : List Flag :=
  [.plain '0' "null", .plain 'a' "all", .wordOnly "apparent-size", .valued 'B' "block-size", .plain 'b' "bytes",
    .plain 'c' "total", .plain 'D' "dereference-args", .plain 'H' "", .valued 'd' "max-depth", .valuedWord "files0-from",
    .plain 'h' "human-readable", .wordOnly "inodes", .plain 'k' "", .plain 'L' "dereference", .plain 'l' "count-links",
    .plain 'm' "", .plain 'P' "no-dereference", .plain 'S' "separate-dirs", .wordOnly "si", .plain 's' "summarize",
    .valued 't' "threshold", ⟨none, some "time".toList, .optional⟩, .valuedWord "time-style",
    .valued 'X' "exclude-from", .valuedWord "exclude", .plain 'x' "one-file-system"]

/-- How amounts are shown, as options or the environment ask for it. -/
def amountScale (a : Arguments) (p : Process) : Act Scale := do
  match (a.last? ["b", "h", "k", "m", "B", "si"]).map String.ofList with
  | some "b" => return .units 1 []
  | some "h" => return .readable 1024
  | some "k" => return .units 1024 []
  | some "m" => return .units 1048576 []
  | some "si" => return .readable 1000
  | some _ =>
    let t := (a.value? "B").getD []
    match Scale.read? t with
    | some scale => return scale
    | none =>
      let digits := t.takeWhile Char.isDigit
      giveUp 1 ((if digits.isEmpty then "invalid -B argument " else "invalid suffix in -B argument ").toList ++ inQuotes t)
  | none =>
    let set? := ["DU_BLOCK_SIZE", "BLOCK_SIZE", "BLOCKSIZE"].findSome? fun (name : String) => p.env.get? name.toList
    match set?.bind Scale.read? with
    | some scale => return scale
    | none => return .units (if (p.env.get? "POSIXLY_CORRECT").isSome then 512 else 1024) []

/-- The least or the greatest amount that an option asks for. -/
def thresholdFrom (t : Text) : Act Int := do
  let negative := t.head? = some '-'
  let bare := if negative || t.head? = some '+' then t.drop 1 else t
  match sizeOf? bare with
  | some n =>
    if n = 0 && negative then giveUp 1 ("invalid --threshold argument " ++ inQuotes t)
    else return if negative then -(n : Int) else n
  | none =>
    let digits := bare.takeWhile Char.isDigit
    giveUp 1 ((if digits.isEmpty then "invalid -t argument " else "invalid suffix in -t argument ").toList ++ inQuotes t)

/-- How deep what is told may be, as options ask for it. -/
def depthFrom (a : Arguments) : Act Nat := do
  let given ← match a.value? "d" with
    | none => pure none
    | some t => match Text.toNat? t with
      | some n => pure (some n)
      | none => misused 1 ("invalid maximum depth " ++ inQuotes t)
  if !a.has "s" then return given.getD Listing.maxDepth
  if a.has "a" then misused 1 "cannot both summarize and show all entries"
  match given with
  | none => return 0
  | some 0 => do
    grumble "warning: summarizing is the same as using --max-depth=0"
    return 0
  | some n => misused 1 ("warning: summarizing conflicts with --max-depth=" ++ Text.ofNat n)

/-- Tell how much room files take. -/
def du : Routine := fun ts => do
  let a ← arguments duFlags true 1 ts
  let p ← get
  let scale ← amountScale a p
  let threshold ← ((a.value? "t").map thresholdFrom).getD (pure 0)
  let depth ← depthFrom a
  let listed ← (a.values "X").mapM fun path => do
    match ← contentOf path with
    | .ok t => return (linesOf t).filter (!·.isEmpty)
    | .error e => giveUp 1 (nameOf path ++ ": " ++ e)
  let named ← match a.value? "files0-from" with
    | some list => namedFiles 1 list a.operands
    | none => pure ((if a.operands.isEmpty then [['.']] else a.operands).map fun t => (0, t))
  let ending := if a.has "0" then '\x00' else '\n'
  let follows := a.last? ["D", "H", "L", "P"]
  let tell (moment : Int) : Text := Calendar.format (.ofMoment (zoneOf p) moment) "%Y-%m-%d %H:%M"
  let s : Survey := {
    counted := if a.has "inodes" then .files else if a.has "b" || a.has "apparent-size" then .bytes else .blocks
    scale := scale
    all := a.has "a"
    depth := depth
    separate := a.has "S"
    eachName := a.has "l"
    remembers := 1 < named.length || follows = some ['L']
    threshold := threshold
    excluded := a.values "exclude" ++ listed.flatten
    follows := follows = some ['L']
    time := if a.has "time" then some tell else none
    ending := ending }
  let mut status := 0
  let mut known : List Nat := []
  let mut total : Sum := ⟨0, 0⟩
  for (n, path) in named do
    if path.isEmpty then
      grumble (if n = 0 then "invalid zero-length file name" else
        nameOf ((a.value? "files0-from").getD []) ++ ':' :: Text.ofNat n ++ ": invalid zero-length file name")
      status := 1
    else
      let followed := follows.isSome && follows ≠ some ['P']
      let found : Except Text (List Text × FileTree) := do
        let (place, t) ← p.entry path
        if followed then
          let _ ← p.look path
          return (seen p true place).getD (place, t)
        else return (place, t)
      match found with
      | .error e => do
        grumble ("cannot access " ++ inShellQuotes path ++ ": " ++ e)
        status := 1
      | .ok (place, t) => do
        let ((_, whole), (counted, told)) := (s.measure p Listing.maxDepth 0 path place t).run (known, [])
        known := counted
        total := total.add whole
        told.reverse.forM say
  if a.has "c" then say (s.line "total" total)
  return status

end Rollout.Program
