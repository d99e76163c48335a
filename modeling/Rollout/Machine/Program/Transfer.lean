import Rollout.Machine.Program.Removing

/-!
Programs that copy and move files. What is already where something is to go stays, is replaced, or is kept under
another name, as the options say; directories are copied with everything below them.
-/

namespace Rollout.Program

open Unix

/-- Which links are followed to what is copied. -/
inductive Dereferencing
  | never | named | always
  deriving DecidableEq

/-- How something is copied or moved. -/
structure Transfer where
  /-- The options. -/
  options : Arguments
  /-- Is the old one kept? -/
  keeps : Bool
  /-- Is it put in place with permissions of its own? -/
  installs : Bool
  /-- Are directories copied? -/
  recursive : Bool
  /-- Which links are followed? -/
  follows : Dereferencing
  /-- Are permissions, owners and times copied? -/
  preserves : Bool
  /-- Is each transfer shown? -/
  verbose : Bool

namespace Transfer

/-- Does what is there stay? Perhaps the operator is asked. -/
def declines (x : Transfer) (old there : FileTree) (target : Text) : Act Bool := do
  let a := x.options
  if a.last? ["f", "i", "n"] = some ['n'] then return true
  else if (a.has "u" || a.has "update") && old.about.changed ≤ there.about.changed then return true
  else if a.last? ["f", "i", "n"] = some ['i'] then return !(← agrees ("overwrite " ++ inShellQuotes target))
  else return false

/-- Show a transfer. -/
def tell (x : Transfer) (source target : Text) (kept : Option Text) : Act Unit :=
  if x.verbose then
    sayLine ((if x.keeps then [] else "renamed ".toList) ++ inShellQuotes source ++ " -> " ++ inShellQuotes target
      ++ match kept with
        | some t => " (backup: " ++ inShellQuotes t ++ [')']
        | none => [])
  else return

/-- Give a copy what is known of what it was copied from. -/
def preserve (old : About) (place : List Text) : Act Unit :=
  change (·.alter (fun t => t.withAbout { t.about with
    mode := old.mode
    owner := old.owner
    group := old.group
    changed := old.changed
    used := old.used }) place)

/-- What is copied from a path: where it is, what it is, and what it holds. -/
def origin (x : Transfer) (top : Bool) (source : Text) : Act (Except Text (List Text × FileTree)) := do
  let p ← get
  if x.follows = .always || (x.follows = .named && top) then
    match p.root.locate p.cwd source with
    | .error e => return .error (describeFault e)
    | .ok place => match ((p.root.at? place).getD default) with
      | .device (.descriptor n) a => match p.behind (.device (.descriptor n) a) with
        | none => return .error (describeFault .missing)
        | some _ => match ← readPath source with
          | .ok t => return .ok (place, .file (Octets.toBytes t) a)
          | .error e => return .error e
      | t => return .ok (place, t)
  else return p.entry source

/-- Put a copy of something that is no directory at a place where there may be something; a file that is there stays
the same file. -/
def place (x : Transfer) (t : FileTree) (old new : List Text) (source target : Text) : Act Nat := do
  let p ← get
  let a := x.options
  let masked := fun mode => mode &&& (0o7777 ^^^ p.mask)
  let there := p.root.at? new
  if a.has "l" then do
    change (·.share old new)
    return 0
  else if a.has "s" && x.keeps && !x.installs then
    if source.head? ≠ some '/' && dirName target ≠ ['.'] then do
      grumble (nameOf target ++ ": can make relative symbolic links only in current directory")
      return 1
    else do
      change (·.create (.link source) FileTree.linkMode new)
      return 0
  else match t, there with
    | .link to' about, _ => do
      change (·.create (.link to') FileTree.linkMode new)
      if x.preserves then preserve about new
      return 0
    | .device .pipe about, _ =>
      if x.recursive then do
        change (·.create (.device .pipe) (masked about.mode) new)
        return 0
      else do
        change (·.create (.file []) (masked about.mode) new)
        return 0
    | t, some (.device _ _) => do
      match ← openForWriting false target with
      | .ok d => do
        let _ ← writeTo (Octets.ofBytes (t.data?.getD [])) d
        return 0
      | .error e => do
        grumble ("cannot create regular file " ++ inShellQuotes target ++ ": " ++ e)
        return 1
    | t, some (.file _ _) => do
      let data ← match t with
        | .device d _ => do pure (Octets.toBytes (← readDevice d endless))
        | t => pure (t.data?.getD [])
      change (·.rewrite (fun _ => data) new)
      if x.preserves then preserve t.about new
      return 0
    | t, _ => do
      let data ← match t with
        | .device d _ => do pure (Octets.toBytes (← readDevice d endless))
        | t => pure (t.data?.getD [])
      let mode := match t with
        | .file _ about => about.mode
        | _ => 0o644
      change (·.create (.file (if a.has "attributes-only" then [] else data)) (masked mode) new)
      if x.preserves then preserve t.about new
      return 0

/-- Copy something to a path; the depth bounds directories inside of each other. -/
def copy (x : Transfer) : Nat → Bool → Text → Text → Act Nat
  | 0, _, _, _ => return 1
  | depth + 1, top, source, target => do
    let p ← get
    let a := x.options
    let refuse (e : Text) : Act Nat := do
      grumble e
      return 1
    match ← x.origin top source with
    | .error e => refuse ("cannot stat " ++ inShellQuotes source ++ ": " ++ e)
    | .ok (old, .dir es about) =>
      if !x.recursive then
        refuse ((if x.installs then "omitting directory " else "-r not specified; omitting directory ")
          ++ inShellQuotes source)
      else match p.root.placeFor p.cwd (withoutSlashes target) with
        | .error e => refuse ("cannot create directory " ++ inShellQuotes target ++ ": " ++ describeFault e)
        | .ok new =>
          if ((p.root.at? new).map (!·.isDir)).getD false then
            refuse ("cannot overwrite non-directory " ++ inShellQuotes target ++ " with directory "
              ++ inShellQuotes source)
          else if old.isPrefixOf new && old ≠ new then
            refuse ("cannot copy a directory, " ++ inShellQuotes source ++ ", into itself, " ++ inShellQuotes target)
          else if old = new then
            refuse (inShellQuotes source ++ " and " ++ inShellQuotes target ++ " are the same file")
          else do
            let isNew ← match p.root.at? new with
              | some _ => pure false
              | none => do
                change (·.create (.dir []) (about.mode &&& (0o7777 ^^^ p.mask)) new)
                x.tell source target none
                pure true
            let status ← forEach (fun e => x.copy depth false (below source e.1) (below target e.1)) es
            if x.preserves then preserve about new
            else if isNew then pure ()
            return status
    | .ok (old, t) => do
      let asLink := match t with
        | .link .. => true
        | _ => false
      let (direct, through) := (p.slot target, p.root.placeFor p.cwd target)
      let lstat := asLink || a.has "s" || a.has "l" || a.has "remove-destination" || x.installs
        || (← backupOf a target).isSome
      let dangling := match direct with
        | .ok d => (match p.root.at? d with
          | some (.link ..) => !lstat && (p.root.locate p.cwd target).toOption.isNone
          | _ => false)
        | .error _ => false
      match if lstat then direct else through.mapError describeFault with
      | .error e =>
        if e ≠ describeFault .missing then refuse ("cannot stat " ++ inShellQuotes target ++ ": " ++ e)
        else refuse ("cannot create " ++ (if asLink then "symbolic link " else "regular file ") ++ inShellQuotes target
          ++ ": " ++ (if target.getLast? = some '/' then "Not a directory".toList else e))
      | .ok new => match p.root.at? new with
        | none =>
          if dangling then refuse ("not writing through dangling symlink " ++ inShellQuotes target)
          else if target.getLast? = some '/' then
            refuse ("cannot create regular file " ++ inShellQuotes target ++ ": Not a directory")
          else do
            let status ← x.place t old new source target
            if status = 0 then x.tell source target none
            return status
        | some there => do
          let isSame := old = new || (there.about.node = t.about.node && !asLink)
          let keeps := (← backupOf a target).isSome
          if isSame && a.has "l" then return 0
          if isSame && !(keeps && old ≠ new) && !(a.has "remove-destination" && old ≠ new) then
            refuse (inShellQuotes source ++ " and " ++ inShellQuotes target ++ " are the same file")
          else if there.isDir then refuse ("cannot overwrite directory " ++ inShellQuotes target ++ " with non-directory")
          else if ← x.declines t there target then return 0
          else do
            let kept ← keepBackup a target new
            let removes := kept.isNone && (lstat || a.has "l" || a.has "s")
            if removes then
              if a.has "l" || a.has "s" then
                if !(a.has "f" || a.has "remove-destination") then
                  return ← refuse ("cannot create " ++ (if a.has "s" then "symbolic" else "hard") ++ " link "
                    ++ inShellQuotes target ++ " to " ++ inShellQuotes source ++ ": File exists")
              eraseFile new
              if x.verbose && !asLink then sayLine ("removed " ++ inShellQuotes target)
            let status ← x.place t old new source target
            if status = 0 then x.tell source target kept
            return status

/-- Move something to a path. -/
def move (x : Transfer) (source target : Text) : Act Nat := do
  let p ← get
  let refuse (e : Text) : Act Nat := do
    grumble e
    return 1
  let cannot (e : Text) : Act Nat :=
    refuse ("cannot move " ++ inShellQuotes source ++ " to " ++ inShellQuotes target ++ ": " ++ e)
  match p.entry source with
  | .error e => refuse ("cannot stat " ++ inShellQuotes source ++ ": " ++ e)
  | .ok (old, t) =>
    if (baseName source = ['.'] || baseName source = ['.', '.']) then cannot "Device or resource busy"
    else match p.slot target with
      | .error e => cannot e
      | .ok new =>
        let there := p.root.at? new
        let isSame := old = new || (there.map fun u => u.about.node = t.about.node && !t.isDir) = some true
        if isSame then refuse (inShellQuotes source ++ " and " ++ inShellQuotes target ++ " are the same file")
        else if t.isDir && old.isPrefixOf new then
          refuse ("cannot move " ++ inShellQuotes source ++ " to a subdirectory of itself, " ++ inShellQuotes target)
        else match there with
          | none =>
            if target.getLast? = some '/' && !t.isDir then cannot "Not a directory"
            else do
              change (·.move old new)
              x.tell source target none
              return 0
          | some u => do
            if u.isDir && !t.isDir then
              return ← refuse ("cannot overwrite directory " ++ inShellQuotes target ++ " with non-directory")
            if t.isDir && !u.isDir then
              return ← refuse ("cannot overwrite non-directory " ++ inShellQuotes target ++ " with directory "
                ++ inShellQuotes source)
            if ← x.declines t u target then return 0
            let kept ← keepBackup x.options target new
            match u, kept with
            | .dir (_ :: _) _, none => cannot "Directory not empty"
            | _, _ => do
              if kept.isNone then eraseFile new
              change (·.move old new)
              x.tell source target kept
              return 0

/-- The most directories inside of each other that are copied. -/
def maxDepth : Nat := 1000

/-- Copy or move one thing. -/
def run (x : Transfer) (source target : Text) : Act Nat :=
  if x.keeps then x.copy maxDepth true source target else x.move source target

/-- Copy or move everything into a directory; nothing is put over what this has just made. -/
def into (x : Transfer) (directory : Text) : List Text → List Text → Act Nat
  | _, [] => return 0
  | made, source :: rest => do
    let parents := x.options.has "parents"
    let target := if parents then below directory (withoutSlashes (source.dropWhile (· = '/')))
      else below directory (baseName source)
    let isSelf := baseName source = ['.'] || baseName source = ['.', '.']
    let target := if isSelf && x.keeps then directory else target
    let found := (← get).look source
    let status ← if made.contains target && !(found.toOption.map FileTree.isDir).getD true then do
        grumble ("will not overwrite just-created " ++ inShellQuotes target ++ " with " ++ inShellQuotes source)
        pure 1
      else if parents && !found.isOk then do
        grumble ("cannot stat " ++ inShellQuotes source ++ ": " ++ match found with
          | .error e => e
          | .ok _ => [])
        pure 1
      else do
        if parents then
          for path in pathsTo (dirName target) do
            if !(← get).isDir path then let _ ← makeDirectory none none path
        x.run source target
    let others ← x.into directory (if status = 0 then target :: made else made) rest
    return max status others

/-- Copy or move everything to where the last argument says. -/
def all (x : Transfer) : Act Nat := do
  let p ← get
  let a := x.options
  let what (d : Text) : Text := if (p.find? d).isSome then "Not a directory" else describeFault .missing
  match a.value? "t", a.operands with
  | none, [] => misused 1 "missing file operand"
  | some _, [] => misused 1 "missing file operand"
  | none, [s] => misused 1 ("missing destination file operand after " ++ inQuotes s)
  | some d, sources =>
    if a.has "T" then giveUp 1 "cannot combine --target-directory (-t) and --no-target-directory (-T)"
    else if p.isDir d then x.into d [] sources
    else if x.installs then
      giveUp 1 ((if (p.find? d).isSome then "target directory " else "failed to access ") ++ inShellQuotes d ++ ": " ++ what d)
    else giveUp 1 ("target directory " ++ inShellQuotes d ++ ": " ++ what d)
  | none, [s, target] =>
    if p.isDir target && !a.has "T" then x.into target [] [s]
    else if a.has "parents" then misused 1 "with --parents, the destination must be a directory"
    else x.run s target
  | none, ts => match ts.getLast? with
    | none => return 0
    | some d =>
      if a.has "T" then misused 1 ("extra operand " ++ inQuotes (ts.getD 2 []))
      else if p.isDir d then x.into d [] ts.dropLast
      else giveUp 1 ("target " ++ inShellQuotes d ++ ": " ++ what d)

/-- The options of copying and moving. -/
def flags : List Flag :=
  ([.plain 'f' "force", .plain 'i' "interactive", .plain 'n' "no-clobber", .plain 'T' "no-target-directory",
    .valued 't' "target-directory", .plain 'u' "", .plain 'v' "verbose", ⟨none, some "update".toList, .optional⟩,
    .wordOnly "strip-trailing-slashes", .plain 'Z' ""] : List Flag) ++ backupFlags

end Transfer

/-- Copy files. -/
def cp : Routine := fun ts => do
  let a ← arguments (([.plain 'a' "archive", .plain 'd' "", .plain 'H' "", .plain 'l' "link", .plain 'L' "dereference",
    .plain 'P' "no-dereference", .plain 'p' "", .plain 'r' "recursive", .plain 'R' "", .plain 's' "symbolic-link",
    ⟨none, some "preserve".toList, .optional⟩, .valuedWord "no-preserve", .plain 'x' "one-file-system",
    .wordOnly "parents", .wordOnly "remove-destination", .wordOnly "attributes-only", .valuedWord "sparse",
    ⟨none, some "reflink".toList, .optional⟩] : List Flag) ++ Transfer.flags) true 1 ts
  let recursive := a.has "r" || a.has "R" || a.has "a"
  let follows := match a.last? ["a", "d", "H", "L", "P"] with
    | some ['H'] => Dereferencing.named
    | some ['L'] => .always
    | some _ => .never
    | none => if recursive then .never else .always
  Transfer.all
    { options := a
      keeps := true
      installs := false
      recursive := recursive
      follows := follows
      preserves := a.has "p" || a.has "a" || a.has "preserve"
      verbose := a.has "v" }

/-- Move files. -/
def mv : Routine := fun ts => do
  let a ← arguments Transfer.flags true 1 ts
  Transfer.all
    { options := a
      keeps := false
      installs := false
      recursive := true
      follows := .never
      preserves := true
      verbose := a.has "v" }

/-- Copy files with permissions of their own, or make directories. -/
def install : Routine := fun ts => do
  let a ← arguments (([.plain 'c' "", .plain 'C' "compare", .plain 'd' "directory", .plain 'D' "", .valued 'g' "group",
    .valued 'm' "mode", .valued 'o' "owner", .plain 'p' "preserve-timestamps", .plain 's' "strip",
    .valuedWord "strip-program"] : List Flag) ++ Transfer.flags) true 1 ts
  let p ← get
  let mode ← match a.value? "m" with
    | none => pure 0o755
    | some m => match changeMode 0 false m 0 with
      | some n => pure n
      | none => giveUp 1 ("invalid mode " ++ inQuotes m)
  match a.value? "o" with
  | some o => if (numberIn userNumbers o).isNone then giveUp 1 ("invalid user " ++ inQuotes o)
  | none => pure ()
  match a.value? "g" with
  | some g => if (numberIn groupNumbers g).isNone then giveUp 1 ("invalid group " ++ inQuotes g)
  | none => pure ()
  let verb : Option Text := if a.has "v" then some "creating directory" else none
  let finish (path : Text) : Act Unit := do
    match (← get).root.locate p.cwd path with
    | .ok place => change (·.alter (fun t => t.withAbout { t.about with
        mode := mode
        owner := ((a.value? "o").bind (numberIn userNumbers)).getD t.about.owner
        group := ((a.value? "g").bind (numberIn groupNumbers)).getD t.about.group }) place)
    | .error _ => return
  if a.has "d" then
    if a.operands = [] then misused 1 "missing file operand"
    forEach (fun path => do
      let status ← makeDirectories verb none (pathsTo path)
      if status = 0 then finish path
      return status) a.operands
  else do
    if a.has "D" then
      match a.value? "t", a.operands with
      | some d, _ => let _ ← makeDirectories verb none (pathsTo d)
      | none, [_, target] => let _ ← makeDirectories verb none (pathsTo (dirName target))
      | none, _ => pure ()
    let p ← get
    let status ← Transfer.all
      { options := a
        keeps := true
        installs := true
        recursive := false
        follows := .always
        preserves := false
        verbose := a.has "v" }
    let targets := match a.value? "t", a.operands with
      | some d, sources => sources.map fun s => below d (baseName s)
      | none, ts => match ts.getLast? with
        | some d => if p.isDir d && !a.has "T" then ts.dropLast.map fun s => below d (baseName s) else [d]
        | none => []
    targets.forM fun path => do if !(← get).isDir path then finish path
    return status

end Rollout.Program
