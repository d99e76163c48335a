import Rollout.Machine.Calendar.Parser
import Rollout.Machine.Program.Input
import Rollout.Machine.Program.Permission

/-!
Programs that make files, directories, links and pipes, or change when files were changed and how long they are.
-/

namespace Rollout.Program

open Unix

/-! ### Choices -/

/-- Does the operator say yes to a question? -/
def agrees (question : Text) : Act Bool := do
  flush
  write 2 ((← get).name ++ ": " ++ question ++ "? ")
  let (line, _) ← readUntil 0 '\n'
  return line.head? = some 'y' || line.head? = some 'Y'

/-! ### Times -/

/-- Change when files were read and changed; files that are missing are made. -/
def touch : Routine := fun ts => do
  let a ← arguments [.plain 'a' "", .plain 'c' "no-create", .valued 'd' "date", .plain 'f' "",
    .plain 'h' "no-dereference", .plain 'm' "", .valued 'r' "reference", .valued 't' "", .valuedWord "time"] true 1 ts
  let p ← get
  let kinds : List (List String) := [["atime", "access", "use"], ["mtime", "modify"]]
  let kind ← match a.value? "time" with
    | none => pure none
    | some t => some <$> chooseGroup 1 "--time" kinds t
  let onlyUse := (a.has "a" || kind = some 0) && !a.has "m" && kind ≠ some 1
  let onlyChange := (a.has "m" || kind = some 1) && !a.has "a" && kind ≠ some 0
  if a.has "t" && (a.has "d" || a.has "r") then misused 1 "cannot specify times from more than one source"
  let reference ← match a.value? "r" with
    | none => pure (p.now, p.now)
    | some path => match if a.has "h" then (p.entry path).map (·.2) else p.look path with
      | .ok t => pure (t.about.used, t.about.changed)
      | .error e => giveUp 1 ("failed to get attributes of " ++ inShellQuotes path ++ ": " ++ e)
  let zone := zoneOf p
  let (used, changed) ← match a.value? "d", a.value? "t" with
    | some t, _ => match Calendar.parse zone reference.1 t, Calendar.parse zone reference.2 t with
      | some m, some n => pure (m, n)
      | _, _ => giveUp 1 ("invalid date format " ++ inQuotes t)
    | none, some t => match Calendar.ofDigits? zone p.now t with
      | some m => pure (m, m)
      | none => giveUp 1 ("invalid date format " ++ inQuotes t)
    | none, none => pure reference
  if a.operands = [] then misused 1 "missing file operand"
  let stamp (place : List Text) : Act Unit := change (·.alter (fun t => t.withAbout { t.about with
    used := if onlyChange then t.about.used else used
    changed := if onlyUse then t.about.changed else changed }) place)
  forEach (fun path => do
    let p ← get
    let refuse (e : Text) : Act Nat := do
      grumble ((if path.getLast? = some '/' || a.has "h" then "setting times of " else "cannot touch ")
        ++ inShellQuotes path ++ ": " ++ e)
      return 1
    if path = ['-'] then return 0
    match if a.has "h" then (p.entry path).map (·.1) else (p.root.locate p.cwd path).mapError describeFault with
    | .ok place => do
      stamp place
      return 0
    | .error e =>
      if e = describeFault .missing && a.has "c" then return 0
      else if a.has "h" then refuse e
      else match p.root.placeFor p.cwd path with
        | .ok place => do
          change (·.create (.file []) (p.modeFor 0o666) place)
          stamp place
          return 0
        | .error e => refuse (describeFault e)) a.operands

/-! ### Directories -/

/-- Make a directory. -/
def makeDirectory (verb : Option Text) (mode : Option Nat) (path : Text) : Act Nat := do
  let p ← get
  let refuse (e : Text) : Act Nat := do
    grumble ("cannot create directory " ++ inShellQuotes path ++ ": " ++ e)
    return 1
  match p.slot path with
  | .error e => refuse e
  | .ok place =>
    if (p.root.at? place).isSome then refuse "File exists"
    else do
      change (·.create (.dir []) (mode.getD (p.modeFor 0o777)) place)
      match verb with
      | some t => sayLine (p.name ++ ": " ++ t ++ ' ' :: inShellQuotes path)
      | none => pure ()
      return 0

/-- The paths to something, from its first directory on. -/
def pathsTo (path : Text) : List Text :=
  let names := Text.split '/' (withoutSlashes path)
  if path = [] then [[]] else ((List.range names.length).map fun i => Text.join ['/'] (names.take (i + 1))).filter (· ≠ [])

/-- Make the directories that paths lead to one after another, of which the last may have permissions of its own. -/
def makeDirectories (verb : Option Text) (mode : Option Nat) : List Text → Act Nat
  | [] => return 0
  | path :: rest => do
    match (← get).find? path with
    | some t =>
      if t.isDir then makeDirectories verb mode rest
      else do
        grumble ("cannot create directory " ++ inShellQuotes path ++ ": "
          ++ (if rest = [] then "File exists" else "Not a directory"))
        return 1
    | none => do
      let status ← makeDirectory verb (if rest = [] then mode else none) path
      if status = 0 then makeDirectories verb mode rest else return status

/-- The permissions that an option asks for. -/
def wantedMode (a : Arguments) (isDir : Bool) (usual : Nat) (complaint : Text → Text) : Act (Option Nat) := do
  match a.value? "m" with
  | none => return none
  | some m => match changeMode (← get).mask isDir m usual with
    | some n => return some n
    | none => giveUp 1 (complaint m)

/-- The options about labels for security, which nothing has. -/
def labelFlags : List Flag := [.plain 'Z' "", ⟨none, some "context".toList, .optional⟩]

/-- Make directories. -/
def mkdir : Routine := fun ts => do
  let a ← arguments (labelFlags ++ ([.valued 'm' "mode", .plain 'p' "parents", .plain 'v' "verbose"] : List Flag)) true 1 ts
  if a.operands = [] then misused 1 "missing operand"
  let mode ← wantedMode a true 0o777 fun m => "invalid mode " ++ inQuotes m
  let verb : Option Text := if a.has "v" then some "created directory" else none
  forEach (fun path =>
    if a.has "p" then makeDirectories verb mode (pathsTo path) else makeDirectory verb mode path) a.operands

/-! ### Pipes -/

/-- Make a pipe with a name. -/
def makePipe (complaint : Text → Text) (mode : Option Nat) (path : Text) : Act Nat := do
  let p ← get
  let refuse (e : Text) : Act Nat := do
    grumble (complaint path ++ ": " ++ e)
    return 1
  match p.slot path with
  | .error e => refuse e
  | .ok place =>
    if (p.root.at? place).isSome then refuse "File exists"
    else do
      change (·.create (.device .pipe) (mode.getD (p.modeFor 0o666)) place)
      return 0

/-- Make pipes with names. -/
def mkfifo : Routine := fun ts => do
  let a ← arguments (.valued 'm' "mode" :: labelFlags) true 1 ts
  if a.operands = [] then misused 1 "missing operand"
  let mode ← wantedMode a false 0o666 fun _ => "invalid mode"
  if mode.any (0o777 < ·) then giveUp 1 "mode must specify only file permission bits"
  forEach (makePipe (fun path => "cannot create fifo " ++ inShellQuotes path) mode) a.operands

/-- Make a pipe with a name; other special files cannot be made. -/
def mknod : Routine := fun ts => do
  let a ← arguments (.valued 'm' "mode" :: labelFlags) true 1 ts
  let mode ← wantedMode a false 0o666 fun _ => "invalid mode"
  match a.operands with
  | [] => misused 1 "missing operand"
  | [path] => misused 1 ("missing operand after " ++ inQuotes path)
  | [path, ['p']] => makePipe nameOf mode path
  | path :: kind :: rest =>
    if kind = ['p'] then misused 1 ("extra operand " ++ inQuotes (rest.head?.getD []))
    else match rest with
      | [] => do
        grumble ("missing operand after " ++ inQuotes kind)
        complain "Special files require major and minor device numbers."
        seeHelp 1
      | [major] => misused 1 ("missing operand after " ++ inQuotes major)
      | [_, _] =>
        if ["b", "c", "u"].any (·.toList = kind.take 1) then giveUp 1 (nameOf path ++ ": Operation not permitted")
        else misused 1 ("invalid device type " ++ inQuotes kind)
      | _ :: _ :: extra :: _ => misused 1 ("extra operand " ++ inQuotes extra)

/-! ### Backups -/

/-- The options about backups. -/
def backupFlags : List Flag := [.plain 'b' "", ⟨none, some "backup".toList, .optional⟩, .valued 'S' "suffix"]

/-- The names that a backup with a number can have. -/
def numberedBackup (path : Text) (n : Nat) : Text := path ++ ".~" ++ Text.ofNat n ++ ['~']

/-- The path under which what is at a path is kept, if that is wanted. -/
def backupOf (a : Arguments) (path : Text) : Act (Option Text) := do
  let p ← get
  if !(a.has "b" || a.has "backup" || a.has "S") then return none
  let given := (a.value? "backup").bind fun t => if t = [] then none else some t
  let control := (given.or (p.env.get? "VERSION_CONTROL")).getD "existing"
  let simple := path ++ ((a.value? "S").or (p.env.get? "SIMPLE_BACKUP_SUFFIX")).getD ['~']
  let used := (List.range 1000).reverse.find? fun n => (p.entry (numberedBackup path (n + 1))).isOk
  let next := numberedBackup path ((used.map (· + 2)).getD 1)
  match String.ofList control with
  | "none" => return none
  | "off" => return none
  | "simple" => return some simple
  | "never" => return some simple
  | "numbered" => return some next
  | "t" => return some next
  | "existing" => return some (if used.isSome then next else simple)
  | "nil" => return some (if used.isSome then next else simple)
  | _ =>
    refuseChoice 1 "invalid" control "backup type"
      [["none", "off"], ["simple", "never"], ["existing", "nil"], ["numbered", "t"]]

/-- Keep what is at a place under another name, if that is wanted; gives the path to it. -/
def keepBackup (a : Arguments) (path : Text) (place : List Text) : Act (Option Text) := do
  match ← backupOf a path with
  | none => return none
  | some kept => match (← get).slot kept with
    | .ok new => do
      change (·.move place new)
      return some kept
    | .error _ => return none

/-! ### Links -/

/-- The place that a path leads to, of which nothing need exist. -/
def placeOf (p : Process) (path : Text) : List Text :=
  match p.root.locate p.cwd path with
  | .ok place => place
  | .error _ =>
    let (absolute, names) := FileTree.components path
    let step (here : List Text) (name : Text) : List Text :=
      if name = [] || name = ['.'] then here
      else if name = ['.', '.'] then here.dropLast
      else match p.root.follow FileTree.maxLinks here.reverse [name] with
        | .ok next => next
        | .error _ => here ++ [name]
    names.foldl step (if absolute then [] else p.cwd)

/-- The options of `ln`. -/
def linkFlags : List Flag :=
  ([.plain 's' "symbolic", .plain 'f' "force", .plain 'n' "no-dereference", .plain 'v' "verbose", .plain 'r' "relative",
    .plain 'T' "no-target-directory", .valued 't' "target-directory", .plain 'i' "interactive", .plain 'L' "logical",
    .plain 'P' "physical", .plain 'd' "directory", .plain 'F' ""] : List Flag) ++ backupFlags

/-- Make a link to something at a path. -/
def makeLink (a : Arguments) (target path : Text) : Act Nat := do
  let p ← get
  let symbolic := a.has "s"
  let refuse (e : Text) : Act Nat := do
    grumble e
    return 1
  let what : Text := if symbolic then "symbolic link" else "hard link"
  let origin : Except Text (List Text) :=
    if symbolic then .ok []
    else
      let found := if a.last? ["L", "P"] = some ['L'] then
          (p.root.locate p.cwd target).map (fun place => (place, (p.root.at? place).getD default)) |>.mapError describeFault
        else p.entry target
      match found with
      | .ok (_, .dir ..) => .error (nameOf target ++ ": hard link not allowed for directory")
      | .ok (place, _) => .ok place
      | .error e => .error ("failed to access " ++ inShellQuotes target ++ ": " ++ e)
  match origin with
  | .error e => refuse e
  | .ok origin => match p.slot path with
    | .error e =>
      let other : Text := if symbolic then [] else " => ".toList ++ inShellQuotes target
      refuse ("failed to create " ++ what ++ " " ++ inShellQuotes path ++ other ++ ": " ++ e)
    | .ok place => do
      let isTwin := (p.root.locate p.cwd target).toOption = some place
      let make (kept : Option Text) : Act Nat := do
        let shown := if symbolic && a.has "r" then relativePath ((placeOf p (dirName path))) (placeOf p target) else target
        if symbolic && shown = [] then
          refuse ("failed to create symbolic link " ++ inShellQuotes path ++ " -> '': " ++ describeFault .missing)
        else do
          if symbolic then change (·.create (.link shown) FileTree.linkMode place) else change (·.share origin place)
          if a.has "v" then
            match kept with
            | some t => say (inShellQuotes t ++ " ~ ")
            | none => pure ()
            sayLine (inShellQuotes path ++ (if symbolic then " -> " else " => ") ++ inShellQuotes shown)
          return 0
      let isEmpty := symbolic && !a.has "r" && target = []
      match if isEmpty then none else p.root.at? place with
      | none => make none
      | some old =>
        let replaces := a.has "f" || a.has "i" || (← backupOf a path).isSome
        if !replaces then refuse ("failed to create " ++ what ++ " " ++ inShellQuotes path ++ ": File exists")
        else if old.isDir then refuse (nameOf path ++ ": cannot overwrite directory")
        else if isTwin && (origin = place || symbolic) && !(match old with
            | .link .. => true
            | _ => false) then
          refuse (inShellQuotes target ++ " and " ++ inShellQuotes path ++ " are the same file")
        else do
          if a.last? ["f", "i"] = some ['i'] then
            if !(← agrees ("replace " ++ inShellQuotes path)) then return 0
          let kept ← keepBackup a path place
          make kept

/-- Make links, of names or of files themselves. -/
def ln : Routine := fun ts => do
  let a ← arguments linkFlags true 1 ts
  let link := makeLink a
  let p ← get
  if a.has "r" && !a.has "s" then giveUp 1 "cannot do --relative without --symbolic"
  let leadsInto (path : Text) : Bool :=
    p.isDir path && !(a.has "T") && !(a.has "n" && (match p.entry path with
      | .ok (_, .link ..) => true
      | _ => false))
  match a.value? "t", a.operands with
  | some d, targets =>
    if targets = [] then misused 1 "missing file operand"
    else if a.has "T" then giveUp 1 "cannot combine --target-directory and --no-target-directory"
    else if !p.isDir d then
      giveUp 1 ((if (p.find? d).isSome then "target " ++ inShellQuotes d ++ " is not a directory" else
        "failed to access " ++ inShellQuotes d ++ ": " ++ describeFault .missing))
    else forEach (fun t => link t (below d (baseName t))) targets
  | none, [] => misused 1 "missing file operand"
  | none, [t] =>
    if a.has "T" then misused 1 ("missing destination file operand after " ++ inQuotes t)
    else link t (below ['.'] (baseName t))
  | none, [t, path] => if leadsInto path then link t (below path (baseName t)) else link t path
  | none, ts => match ts.getLast? with
    | none => return 0
    | some d =>
      if a.has "T" then misused 1 ("extra operand " ++ inQuotes (ts.getD 2 []))
      else if p.isDir d then forEach (fun t => link t (below d (baseName t))) ts.dropLast
      else giveUp 1 ("target " ++ inShellQuotes d ++ ": " ++ (if (p.find? d).isSome then "Not a directory" else
        "No such file or directory"))

/-- Two operands, or what is said about there being more or less. -/
def exactlyTwo (ts : List Text) : Act (Text × Text) := do
  match ts with
  | [] => misused 1 "missing operand"
  | [t] => misused 1 ("missing operand after " ++ inQuotes t)
  | [t, u] => return (t, u)
  | _ :: _ :: extra :: _ => misused 1 ("extra operand " ++ inQuotes extra)

/-- Give a file another name. -/
def link : Routine := fun ts => do
  let a ← arguments [] true 1 ts
  let (target, path) ← exactlyTwo a.operands
  let p ← get
  let refuse (e : Text) : Act Nat :=
    giveUp 1 ("cannot create link " ++ inShellQuotes path ++ " to " ++ inShellQuotes target ++ ": " ++ e)
  match p.entry target, p.slot path with
  | .error e, _ => refuse e
  | _, .error e => refuse e
  | .ok (_, .dir ..), _ => refuse "Operation not permitted"
  | .ok (old, _), .ok new =>
    if (p.root.at? new).isSome then refuse "File exists"
    else do
      change (·.share old new)
      return 0

/-! ### Sizes -/

/-- How the size of a file is changed. -/
inductive Resizing
  | to | more | less | atMost | atLeast | downTo | upTo
  deriving DecidableEq

/-- The size after a change by a number. -/
def Resizing.apply (r : Resizing) (n old : Nat) : Nat :=
  match r with
  | .to => n
  | .more => old + n
  | .less => old - n
  | .atMost => min old n
  | .atLeast => max old n
  | .downTo => old / n * n
  | .upTo => (old + n - 1) / n * n

/-- The change that a mark stands for. -/
def resizing? (c : Char) : Option Resizing :=
  [('+', Resizing.more), ('-', .less), ('<', .atMost), ('>', .atLeast), ('/', .downTo), ('%', .upTo)].lookup c

/-- Give files another size. -/
def truncate : Routine := fun ts => do
  let a ← arguments [.plain 'c' "no-create", .plain 'o' "io-blocks", .valued 'r' "reference", .valued 's' "size"]
    true 1 ts
  let p ← get
  let size := a.value? "s"
  let (how, digits) : Resizing × Text := match (size.getD []).dropWhile (· = ' ') with
    | c :: ds => match resizing? c with
      | some r => (r, ds.dropWhile (· = ' '))
      | none => (.to, c :: ds)
    | [] => (.to, [])
  let n ← match size with
    | none => pure 0
    | some t => match sizeOf? digits with
      | some n => pure n
      | none => giveUp 1 ("Invalid number: " ++ inQuotes t)
  if size.isNone && !a.has "r" then misused 1 "you must specify either '--size' or '--reference'"
  if size.isSome && a.has "r" && how = .to then
    misused 1 "you must specify a relative '--size' with '--reference'"
  if (how = .downTo || how = .upTo) && n = 0 then giveUp 1 "division by zero"
  if a.operands = [] then misused 1 "missing file operand"
  let reference ← match a.value? "r" with
    | none => pure none
    | some path => match p.look path with
      | .ok t => pure (some (t.data?.getD []).length)
      | .error e => giveUp 1 ("cannot stat " ++ inShellQuotes path ++ ": " ++ e)
  let n := if a.has "o" then 4096 * n else n
  forEach (fun path => do
    let p ← get
    if a.has "c" && (p.find? path).isNone then return 0
    let refuse (e : Text) : Act Nat := do
      grumble ("cannot open " ++ inShellQuotes path ++ " for writing: " ++ e)
      return 1
    match p.root.placeFor p.cwd path with
    | .error e => refuse (describeFault e)
    | .ok place => match p.root.at? place with
      | some (.dir ..) => refuse "Is a directory"
      | found => do
        if found.isNone then change (·.create (.file []) (p.modeFor 0o666) place)
        change (·.rewrite (fun data =>
          let old := reference.getD data.length
          let length := if size.isNone then old else how.apply n old
          data.take length ++ List.replicate (length - data.length) 0) place)
        return 0) a.operands

end Rollout.Program
