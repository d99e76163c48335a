import Rollout.Machine.Program.Describing
import Rollout.Machine.Program.Find.Condition
import Rollout.Machine.Unix.Executable

/-!
Finding files in directories: each is held against a condition, which may also do something with it.
-/

namespace Rollout.Program

open Unix Find

/-! ### What is found -/

/-- Something that is held against a condition. -/
structure Sighting where
  /-- Its path. -/
  path : Text
  /-- The path that is searched. -/
  start : Text
  /-- How many directories lead from there to it. -/
  depth : Nat
  /-- Where it is. -/
  place : List Text
  /-- What it is. -/
  tree : FileTree

namespace Sighting

/-- Its name. -/
def name (i : Sighting) : Text :=
  let t := (i.path.reverse.dropWhile (· = '/')).reverse
  if t = [] then ['/'] else lastName i.path

/-- The path of the directory that it is in. -/
def parent (i : Sighting) : Text :=
  let t := (i.path.reverse.dropWhile (· = '/')).reverse
  if t.contains '/' then t.take (t.length - (lastName t).length - 1) else ['.']

/-- The path from where the search starts. -/
def inside (i : Sighting) : Text := (i.path.drop i.start.length).dropWhile (· = '/')

end Sighting

/-- The letter for the kind of something. -/
def findLetter : FileTree → Char
  | .file .. => 'f'
  | t => kindLetter t

/-- What is known during a search. -/
structure Hunt where
  /-- The files to which is written. -/
  files : List (Text × Descriptor)
  /-- What has been gathered for commands that are run for many files, the last first. -/
  gathered : List (Nat × List Text)
  /-- Was there a mistake? -/
  failed : Bool
  /-- Is what is in the directory not searched? -/
  pruned : Bool
  /-- Is the search over? -/
  finished : Bool

/-- A part of a search. -/
abbrev Hunting := StateT Hunt Act

/-- Tell of a mistake. -/
def mistaken (t : Text) : Hunting Unit := do
  grumble t
  modify fun h => { h with failed := true }

/-- Write to a file, or to the standard output. -/
def putInto (file : Option Text) (t : Text) : Hunting Unit := do
  let files := (← get).files
  match file.bind fun path => files.lookup path with
  | some d => do
    flush
    let _ ← writeTo t d
  | none => say t

/-! ### What is printed -/

/-- A time as a format of `find` shows it, by a letter. -/
def findTime (zone : Calendar.Zone) (moment : Int) (letter : Char) : Text :=
  let reading := Calendar.Reading.ofMoment zone moment
  let nanos := Text.ofNat (moment % Calendar.second).toNat
  let fraction : Text := '.' :: List.replicate (9 - nanos.length) '0' ++ nanos ++ ['0']
  match letter with
  | '@' => Text.ofInt (moment / Calendar.second) ++ fraction
  | '+' => Calendar.format reading "%Y-%m-%d+%H:%M:%S" ++ fraction
  | 'S' => Calendar.format reading "%S" ++ fraction
  | 'T' => Calendar.format reading "%H:%M:%S" ++ fraction
  | 'X' => Calendar.format reading "%H:%M:%S" ++ fraction
  | ' ' => Calendar.format reading "%a %b %e %H:%M:%S" ++ fraction ++ Calendar.format reading " %Y"
  | c => if "aAbBcdDhHIjklmMprswUVWyYZG".toList.contains c then Calendar.format reading ['%', c] else ['%', c]

/-- What a letter of a format stands for. -/
def findFact? (p : Process) (i : Sighting) : Char → Option Text
  | 'p' => some i.path
  | 'f' => some i.name
  | 'h' => some i.parent
  | 'P' => some i.inside
  | 'H' => some i.start
  | 's' => some (Text.ofNat (sizeOfTree i.tree))
  | 'd' => some (Text.ofNat i.depth)
  | 'm' => some (octalText (modeOf i.tree))
  | 'M' => some (kindLetter i.tree :: modeText (modeOf i.tree))
  | 'y' => some [findLetter i.tree]
  | 'Y' => match i.tree with
    | .link .. => match p.look i.path with
      | .ok t => some [findLetter t]
      | .error _ => some ['N']
    | t => some [findLetter t]
  | 'l' => match i.tree with
    | .link target _ => some target
    | _ => some []
  | 'n' => some (Text.ofNat (nameCount p.root i.tree))
  | 'u' => some (userName i.tree.about.owner)
  | 'g' => some (groupName i.tree.about.group)
  | 'U' => some (Text.ofNat i.tree.about.owner)
  | 'G' => some (Text.ofNat i.tree.about.group)
  | 'i' => some (Text.ofNat i.tree.about.node)
  | 'D' => some ['1']
  | 'F' => some "overlay"
  | 'S' => some ['1']
  | 'a' => some (findTime (zoneOf p) i.tree.about.used ' ')
  | 't' => some (findTime (zoneOf p) i.tree.about.changed ' ')
  | 'c' => some (findTime (zoneOf p) i.tree.about.changed ' ')
  | 'k' => some (Text.ofNat (blocksOf i.tree))
  | 'b' => some (Text.ofNat (2 * blocksOf i.tree))
  | _ => none

/-- What a format says about a file, and what is said about the format. -/
def findFormat (p : Process) (i : Sighting) : Nat → Text → Text × List Text
  | 0, _ => ([], [])
  | _, [] => ([], [])
  | fuel + 1, '%' :: cs =>
    let flags := cs.takeWhile "-+ 0#".toList.contains
    let digits := (cs.drop flags.length).takeWhile Char.isDigit
    match cs.drop (flags.length + digits.length) with
    | [] => (['%'], [])
    | '%' :: rest =>
      let (t, warnings) := findFormat p i fuel rest
      ('%' :: t, warnings)
    | c :: rest =>
      let timed : Option Text := match c, rest with
        | 'A', d :: _ => some (findTime (zoneOf p) i.tree.about.used d)
        | 'T', d :: _ => some (findTime (zoneOf p) i.tree.about.changed d)
        | 'C', d :: _ => some (findTime (zoneOf p) i.tree.about.changed d)
        | _, _ => none
      let (t, warnings) := findFormat p i fuel (if timed.isSome then rest.drop 1 else rest)
      match timed.or (findFact? p i c) with
      | some fact =>
        let width := (Text.toNat? digits).getD 0
        ((if flags.contains '-' then padRight width fact
          else if flags.contains '0' then List.replicate (width - fact.length) '0' ++ fact
          else padLeft width fact) ++ t, warnings)
      | none =>
        ('%' :: c :: t, ("warning: unrecognized format directive `%" ++ c :: ['\'']) :: warnings)
  | fuel + 1, '\\' :: c :: cs =>
    let octal := (c :: cs).takeWhile fun d => '0' ≤ d && d ≤ '7'
    let digits := octal.take 3
    if digits ≠ [] then
      let (t, warnings) := findFormat p i fuel ((c :: cs).drop digits.length)
      (Char.ofNat (digits.foldl (fun n d => 8 * n + (d.toNat - '0'.toNat)) 0 % 256) :: t, warnings)
    else
      let (t, warnings) := findFormat p i fuel cs
      match c with
      | 'n' => ('\n' :: t, warnings)
      | 't' => ('\t' :: t, warnings)
      | 'a' => ('\x07' :: t, warnings)
      | 'b' => ('\x08' :: t, warnings)
      | 'f' => ('\x0c' :: t, warnings)
      | 'r' => ('\r' :: t, warnings)
      | 'v' => ('\x0b' :: t, warnings)
      | '\\' => ('\\' :: t, warnings)
      | 'c' => ([], [])
      | c => ('\\' :: c :: t, ("warning: unrecognized escape `\\" ++ c :: ['\'']) :: warnings)
  | fuel + 1, c :: cs =>
    let (t, warnings) := findFormat p i fuel cs
    (c :: t, warnings)

/-! ### Conditions -/

/-- The text with a path in place of each pair of braces. -/
def withPath (path : Text) : Text → Text
  | '\x7b' :: '\x7d' :: cs => path ++ withPath path cs
  | c :: cs => c :: withPath path cs
  | [] => []

/-- Run a command, perhaps in the directory of a file; tells whether it succeeds. -/
def runCommand (run : Runner) (dir : Option (List Text)) : List Text → Hunting Bool
  | [] => return true
  | name :: arguments => do
    let p ← getThe Process
    match dir with
    | some place => modifyThe Process fun p => { p with cwd := place }
    | none => pure ()
    let ended ← start run name arguments
    modifyThe Process fun q => { q with cwd := p.cwd }
    match ended with
    | .ended status => return status = 0
    | .killed _ => return false
    | .refused _ reason => do
      grumble (inQuotes name ++ ": " ++ reason)
      return false

/-- Delete a file or an empty directory. -/
def deleteFound (i : Sighting) : Hunting Bool := do
  let p ← getThe Process
  let cannot (reason : String) : Hunting Bool := do
    mistaken ("cannot delete " ++ inQuotes i.path ++ ": " ++ reason)
    return false
  if i.path = ['.'] then return true
  else match p.root.at? i.place with
    | some (.dir (_ :: _) _) => cannot "Directory not empty"
    | some _ => do
      eraseFile i.place
      return true
    | none => cannot "No such file or directory"

/-- What is known of a file, on a line. -/
def longSighting (p : Process) (i : Sighting) : Text :=
  let about := i.tree.about
  let isRecent := p.now - recently < about.changed && about.changed ≤ p.now
  let time := Calendar.format (.ofMoment (zoneOf p) about.changed) (if isRecent then "%b %e %H:%M" else "%b %e  %Y")
  let escaped (t : Text) : Text := t.flatMap fun c =>
    if c = ' ' || c = '\\' || c = '"' then ['\\', c]
    else if Quotation.isPrinted c then [c] else '\\' :: Quotation.escape c
  Text.join [' '] [padLeft 9 (Text.ofNat about.node), padLeft 6 (Text.ofNat (blocksOf i.tree)),
      kindLetter i.tree :: modeText (modeOf i.tree), padLeft 3 (Text.ofNat (nameCount p.root i.tree)),
      padRight 8 (userName about.owner), padRight 8 (groupName about.group), padLeft 8 (Text.ofNat (sizeOfTree i.tree)),
      time, escaped i.path]
    ++ (match i.tree with
      | .link target _ => " -> " ++ escaped target
      | _ => []) ++ ['\n']

/-- Does a file pass a test? Does what is to be done with it. -/
def passes (run : Runner) (i : Sighting) (c : Criterion) : Hunting Bool := do
  let p ← getThe Process
  let folded (fold : Bool) (t : Text) : Text := if fold then t.map Char.toLower else t
  match c with
  | .name pattern fold => return pattern.covers (folded fold i.name)
  | .path pattern fold => return pattern.covers (folded fold i.path)
  | .regex c =>
    return (Regex.matchesAt c.mode c.regex (Regex.spotAt i.path 0)).any fun m => m.text.length = i.path.length
  | .kind letters target =>
    let t := match i.tree, target with
      | .link .., true => (p.look i.path).toOption.getD i.tree
      | t, _ => t
    return letters.contains (findLetter t)
  | .size q unit => return q.holds ((sizeOfTree i.tree + unit - 1) / unit)
  | .empty => return match p.root.at? i.place with
    | some (.dir es _) => es.isEmpty
    | some (.file data _) => data.isEmpty
    | _ => false
  | .mode sort bits =>
    let mode := modeOf i.tree
    return match sort with
      | none => mode = bits
      | some '-' => mode &&& bits = bits
      | some _ => bits = 0 || mode &&& bits ≠ 0
  | .age reading q unit origin =>
    let moment := if reading then i.tree.about.used else i.tree.about.changed
    let age := (origin - moment) / (unit * Calendar.second)
    let isWhole := (origin - moment) % (unit * Calendar.second) = 0
    -- minutes that have begun count, and days that are over
    let units := if unit = 60 && !(isWhole && q.order == .gt) && q.order != .lt then age + 1 else age
    return q.holds units.toNat && (0 ≤ units || q.order == .lt)
  | .newer reading moment => return moment < (if reading then i.tree.about.used else i.tree.about.changed)
  | .node q => return q.holds i.tree.about.node
  | .owner group q => return q.holds (if group then i.tree.about.group else i.tree.about.owner)
  | .unowned group =>
    let about := i.tree.about
    return if group then !groupNumbers.any (·.2 = about.group) else !userNumbers.any (·.2 = about.owner)
  | .target pattern fold => return match i.tree with
    | .link target _ => pattern.covers (folded fold target)
    | _ => false
  | .links q => return q.holds (nameCount p.root i.tree)
  | .access bit =>
    let mode := match i.tree with
      | .link .. => ((p.look i.path).toOption.map modeOf).getD 0
      | t => modeOf t
    return bit = 0 || mode &&& bit ≠ 0
  | .constant b => return b
  | .delete => deleteFound i
  | .exec words inDir running => do
    let shown := if inDir then "./" ++ i.name else i.path
    let dir := if inDir then some i.place.dropLast else none
    match running with
    | .each => runCommand run dir (words.map (withPath shown))
    | .asking => do
      flush
      write 2 ("< " ++ (words.headD []) ++ " ... " ++ i.path ++ " > ? ")
      let (answer, _) ← readUntil 0 '\n'
      if answer.head? = some 'y' || answer.head? = some 'Y' then
        runCommand run dir (words.map (withPath shown))
      else return false
    | .together n => do
      modify fun h =>
        let old := (h.gathered.lookup n).getD []
        { h with gathered := (n, shown :: old) :: h.gathered.filter fun g => g.1 ≠ n }
      return true
  | .print ending file => do
    putInto file (i.path ++ [ending])
    return true
  | .printf format file => do
    let (t, warnings) := findFormat p i (format.length + 1) format
    warnings.forM fun w => grumble w
    putInto file t
    return true
  | .list file => do
    putInto file (longSighting p i)
    return true
  | .prune => do
    modify fun h => { h with pruned := true }
    return true
  | .quit => do
    modify fun h => { h with finished := true }
    return true

/-- Does a file meet a condition? -/
def Find.Condition.holds (run : Runner) (i : Sighting) : Condition → Hunting Bool
  | .single c => do
    if (← get).finished then return false
    passes run i c
  | .not a => do return !(← a.holds run i)
  | .and a b => do
    if ← a.holds run i then b.holds run i else return false
  | .or a b => do
    if ← a.holds run i then return true else b.holds run i
  | .after a b => do
    let _ ← a.holds run i
    b.holds run i

/-- The commands that are run for many files. -/
def Find.Condition.batches : Condition → List (Nat × List Text)
  | .single (.exec words _ (.together n)) => [(n, words)]
  | .single _ => []
  | .not a => a.batches
  | .and a b => a.batches ++ b.batches
  | .or a b => a.batches ++ b.batches
  | .after a b => a.batches ++ b.batches

/-! ### Directories -/

/-- Which links are followed. -/
inductive Following
  | none | starts | all
  deriving DecidableEq

/-- What there is at a place, and where it is if links are followed. -/
def seen (p : Process) (follows : Bool) (place : List Text) : Option (List Text × FileTree) :=
  match p.root.at? place with
  | some (.link target about) =>
    if !follows then some (place, .link target about)
    else match p.root.locate place.dropLast target with
      | .ok next => (p.root.at? next).map fun t => (next, t)
      | .error _ => some (place, .link target about)
  | some t => some (place, t)
  | none => none

/-- How deep directories are searched. -/
def maxFindDepth : Nat := 200

/-- Hold something, and what is in it, against a condition. -/
def visit (run : Runner) (c : Condition) (r : Bounds) (f : Following) : Nat → Sighting → Hunting Unit
  | 0, _ => return
  | fuel + 1, i => do
    modify fun h => { h with pruned := false }
    let check : Hunting Unit := do
      if r.least ≤ i.depth then
        let _ ← c.holds run i
    if !r.contentsFirst then check
    let h ← get
    if h.finished then return
    let deeper := i.tree.isDir && r.most.all (fun n => i.depth < n) && (!h.pruned || r.contentsFirst)
    if deeper then
      match (← getThe Process).root.at? i.place with
      | some (.dir entries _) =>
        for (name, _) in entries do
          if !(← get).finished then
            match seen (← getThe Process) (f = .all) (i.place ++ [name]) with
            | some (place, t) => visit run c r f fuel ⟨pathInside i.path name, i.start, i.depth + 1, place, t⟩
            | none => pure ()
      | _ => mistaken (inQuotes i.path ++ ": No such file or directory")
    if r.contentsFirst && !(← get).finished then check

/-- Search from paths on. -/
def visitAll (run : Runner) (c : Condition) (r : Bounds) (f : Following) (paths : List Text) : Hunting Unit :=
  for path in paths do
    if !(← get).finished then
      match (← getThe Process).entry path with
      | .error e => mistaken (inQuotes path ++ ": " ++ e)
      | .ok (place, _) => match seen (← getThe Process) (f ≠ .none) place with
        | some (place, t) => visit run c r f maxFindDepth ⟨path, path, 0, place, t⟩
        | none => pure ()

/-- The options in front of paths, and what follows them; a mistake in them is told. -/
def followingOf : Following → List Text → Act (Following × List Text)
  | _, ['-', 'H'] :: rest => followingOf .starts rest
  | _, ['-', 'L'] :: rest => followingOf .all rest
  | _, ['-', 'P'] :: rest => followingOf .none rest
  | f, ['-', '-'] :: rest => return (f, rest)
  | f, ('-' :: 'O' :: level) :: rest => do
    if level = [] || !level.all Char.isDigit then giveUp 1 "Please specify a decimal number immediately after -O"
    followingOf f rest
  | _, [['-', 'D']] => do
    grumble "Missing argument after the -D option."
    seeHelp 1
  | f, ['-', 'D'] :: flags :: rest => do
    (Text.split ',' flags).forM fun flag => do
      let known := ["exec", "opt", "rates", "search", "stat", "time", "tree", "all", "help"]
      if !known.contains (String.ofList flag) then grumble ("Ignoring unrecognised debug flag " ++ inQuotes flag)
    followingOf f rest
  | f, rest => return (f, rest)

/-- Does an argument start an expression? Some do so only after another one. -/
def startsExpression (leading : Bool) (t : Text) : Bool :=
  match t with
  | '-' :: _ :: _ => true
  | ['('] => true
  | [')'] => !leading
  | ['!'] => true
  | [','] => !leading
  | _ => false

/-- The paths that a file names, if an expression says so, and the rest of the expression. -/
def listedPaths (paths : List Text) : List Text → Act (Option (List Text) × List Text)
  | [] => return (none, [])
  | t :: ts => do
    if t ≠ "-files0-from".toList then
      let (found, rest) ← listedPaths paths ts
      return (found, t :: rest)
    else match ts with
      | [] => giveUp 1 "missing argument to `-files0-from'"
      | file :: rest => do
        match paths with
        | [] => pure ()
        | path :: _ => do
          grumble ("extra operand " ++ inQuotes path)
          giveUp 1 "file operands cannot be combined with -files0-from"
        match ← contentOf file with
        | .error e => giveUp 1 ("cannot open " ++ inQuotes file ++ " for reading: " ++ e)
        | .ok t => return (some ((piecesEndingWith '\x00' t).map (withoutEnd '\x00')), rest)

/-- Open the files to which a search writes. -/
def openAll : List Text → Act (List (Text × Descriptor))
  | [] => return []
  | path :: paths => do
    if path = "/dev/stdout".toList then openAll paths
    else match ← openForWriting false path with
      | .ok d => return (path, d) :: (← openAll paths)
      | .error e => giveUp 1 (inQuotes path ++ ": " ++ e)

/-- Find files in directories. -/
def find (run : Runner) : Routine := fun ts => do
  let (f, ts) ← followingOf .none ts
  let asked := ts.filterMap fun t => (Manual.words.map String.toList).find? fun w => t = '-' :: w || t = '-' :: '-' :: w
  asked.head?.forM Manual.tell
  let paths := ts.takeWhile fun t => !startsExpression true t
  let (listed, expression) ← listedPaths paths (ts.drop paths.length)
  let follows := expression.contains "-follow".toList
  match readCondition (← get) (expression.filter (· ≠ "-follow".toList)) with
  | .error [e] => giveUp 1 e
  | .error es => do
    let unquoted := expression.any fun t => !startsExpression false t
    let p ← get
    es.take 1 |>.forM fun e => grumble e
    let wrong := ((es.headD []).dropLast).drop ("paths must precede expression: `".length)
    if unquoted && (p.entry wrong).toOption.isSome then es.drop 1 |>.forM fun e => grumble e
    return 1
  | .ok (c, r) => do
    r.warnings.reverse.forM fun w => grumble w
    let files ← openAll (c.files.eraseDups)
    let paths := listed.getD (if paths = [] then [['.']] else paths)
    let (_, h) ← (visitAll run c r (if follows then .all else f) paths).run ⟨files, [], false, false, false⟩
    let results ← c.batches.mapM fun (n, words) => match h.gathered.lookup n with
      | none => pure true
      | some found => do
        let (r, _) ← (runCommand run none (words ++ found.reverse)).run h
        pure r
    return if h.failed || results.any (!·) then 1 else 0

end Rollout.Program
