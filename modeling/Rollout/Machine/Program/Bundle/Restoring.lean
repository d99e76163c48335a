import Rollout.Machine.Program.Bundle.Storing
import Rollout.Machine.Unix.Executable

/-!
Taking files out of archives, and holding them against the files that are there.
-/

namespace Rollout.Program.Bundle

open Unix Archive

/-! ### Picked members -/

/-- A name that is wanted, and where it is to be put. -/
structure Wanted where
  /-- The name. -/
  name : Text
  /-- The directory from which it is seen. -/
  directory : List Text
  /-- How many members it has picked. -/
  found : Nat

/-- Does a name pick a path? -/
def Wanted.picks (k : Wish) (w : Wanted) (path : Text) : Bool :=
  let manner := k.nameManner.getD ⟨true, false, true, false⟩
  NamePattern.picks ⟨withoutSlashes w.name, manner⟩ path

/-- The directory for a path if it is wanted, with the names that are wanted after it. -/
def pick (k : Wish) (here : List Text) (path : Text) : List Wanted → Option (List Text × List Wanted)
  | [] => none
  | w :: ws =>
    if w.picks k path then some (w.directory, { w with found := w.found + 1 } :: ws)
    else (pick k here path ws).map fun (directory, ws) => (directory, w :: ws)

/-- Tell of names that have picked nothing. -/
def tellMissing (k : Wish) (ws : List Wanted) : Working Unit := do
  let missing := ws.filter (·.found = 0)
  if k.nameManner.isNone && missing.any (hasWildcards ·.name) then
    flush
    grumble "Pattern matching characters used in file names"
    grumble "Use --wildcards to enable pattern matching, or --no-wildcards to suppress this warning"
  missing.forM fun w => fault (colonName w.name ++ ": Not found in archive")

/-! ### Names -/

/-- The path to which a member is taken out. -/
def targetPath (k : Wish) (m : Member) : Working Text := do
  let changed := k.changes.foldl (fun t x => if x.names then x.apply t else t) (withoutSlashes m.name)
  let path := stripped k.strips (← safeName k false changed)
  match k.topLevel with
  | none => return path
  | some top =>
    let inner := path.dropWhile fun c => c = '/' || c = '.'
    if inner.isEmpty then return top
    else if inner = top || (top ++ ['/']).isPrefixOf inner then return path
    else return below top path

/-- The name under which a member is shown. -/
def memberName (k : Wish) (m : Member) (path : Text) : Text :=
  if k.showsChanged then (if m.kind = .directory && path.getLast? ≠ some '/' then path ++ ['/'] else path) else m.name

/-! ### Taking out -/

/-- What is known of a file that comes from a member. -/
def aboutOf (k : Wish) (p : Process) (m : Member) (old : About) : About :=
  let number (known : List (Text × Nat)) (name : Text) (n : Nat) : Nat :=
    if k.numeric || name.isEmpty then n else (known.lookup name).getD n
  { old with
    mode := if k.samePermissions then m.mode else m.mode &&& 0o777 &&& (0o7777 ^^^ p.mask)
    owner := if k.sameOwner then number userNumbers m.ownerName m.owner else old.owner
    group := if k.sameOwner then number groupNumbers m.groupName m.group else old.group
    changed := if k.touches then old.changed else m.changed * Calendar.second }

/-- Make the directories to a path that are missing. -/
def makeParents (path : Text) : Act Unit := do
  ((leadingPaths path).dropLast.filter (!·.isEmpty)).forM fun d => do
    let p ← get
    if (p.find? d).isNone then
      match p.slot d with
      | .ok place => change (·.create (.dir []) (p.modeFor 0o777) place)
      | .error _ => return
    else return

/-- The place for a file that is taken out, free for it; otherwise, why there is none. -/
def freePlace (k : Wish) (path : Text) : Act (Except Text (List Text)) := do
  makeParents path
  let p ← get
  match p.slot path with
  | .error e => return .error e
  | .ok place => match p.root.at? place with
    | none => return .ok place
    | some (.dir (_ :: _) _) => return .error "File exists"
    | some t =>
      if k.meeting = .keep || k.meeting = .skip then return .error "File exists"
      else if k.meeting = .overwrite && !t.isDir then return .ok place
      else do
        eraseFile place
        return .ok place

/-- Make a file at a place. -/
def putFile (k : Wish) (m : Member) (place : List Text) : Act Unit := do
  let p ← get
  let data := Octets.toBytes m.data
  match p.root.at? place with
  | some (.file ..) => change (·.rewrite (fun _ => data) place)
  | some _ => eraseFile place
  | none => pure ()
  let make : About → FileTree := match m.kind with
    | .symbolicLink => .link m.target
    | .pipe => .device .pipe
    | .characterDevice => .device (match m.device with
      | (1, 5) => .zero
      | (1, 7) => .full
      | (1, 8) => .random
      | _ => .null)
    | _ => .file data
  let isLink := decide (m.kind = .symbolicLink)
  if ((← get).root.at? place).isNone then change (·.create make (if isLink then FileTree.linkMode else 0o600) place)
  change (·.alter (fun t =>
    let about := aboutOf k p m t.about
    t.withAbout (if isLink then { about with mode := t.about.mode } else about)) place)

/-- Take a directory out. -/
def makeDir (k : Wish) (m : Member) (path : Text) : Working Unit := do
  liftM (makeParents path : Act Unit)
  let p := ← getThe Process
  match p.slot path with
  | .error e => fault (colonName path ++ ": Cannot mkdir: " ++ e)
  | .ok place =>
    let later (place : List Text) (about : About) : Working Unit := modify fun w => { w with
      directories := (place, aboutOf k p m about) :: w.directories }
    match p.root.at? place with
    | some (.dir _ a) => if !k.keepsDirs && k.meeting ≠ .keep && k.meeting ≠ .skip then later place a
    | some t =>
      if k.meeting = .keep then fault (colonName path ++ ": Cannot mkdir: File exists")
      else if k.meeting = .skip then return
      else do
        liftM (eraseFile place : Act Unit)
        liftM (change (·.create (.dir []) 0o700 place) : Act Unit)
        later place { t.about with
          owner := 0
          group := 0 }
    | none => do
      liftM (change (·.create (.dir []) 0o700 place) : Act Unit)
      later place { About.ofMode 0 with changed := (← getThe Process).now }

/-- Take a hard link out. -/
def makeLink (k : Wish) (m : Member) (path : Text) : Working Unit := do
  let changed := k.changes.foldl (fun t x => if x.hard then x.apply t else t) m.target
  let target := stripped k.strips (← safeName k true changed)
  let p := ← getThe Process
  let refuse (e : Text) : Working Unit :=
    fault (colonName path ++ ": Cannot hard link to " ++ inQuotes target ++ ": " ++ e)
  match p.entry target with
  | .error e => refuse e
  | .ok (_, .dir ..) => refuse "Operation not permitted"
  | .ok (old, there) =>
    if (p.entry path).toOption.any fun e => e.2.about.node = there.about.node then return
    match ← liftM (freePlace k path : Act _) with
    | .error e => if k.meeting = .skip then return else refuse e
    | .ok place => liftM (change (·.share old place) : Act Unit)

/-- Give the bytes of a member to a command. -/
def giveTo (run : Runner) (line : Text) (m : Member) (path : Text) : Working Unit := do
  flush
  let env := (← getThe Process).env
  let words : List (String × Text) := [("TAR_FILENAME", m.name), ("TAR_REALNAME", path), ("TAR_FILETYPE", "f"),
    ("TAR_SIZE", Text.ofNat m.size)]
  let settle (env : Dict Text) : Act Unit := modify fun p => { p with env := env }
  liftM (settle (words.foldl (fun env w => env.insert w.1.toList w.2) env))
  let stream ← liftM (openStream (.ofText m.data) : Act Nat)
  let status ← liftM (runLine run "sh" line [(0, .reader stream)] : Act Nat)
  liftM (settle env)
  if status ≠ 0 then fault (Text.ofNat 100 ++ ": Child returned status " ++ Text.ofNat status)

/-- Take a member out. -/
def takeOut (k : Wish) (run : Runner) (m : Member) (path : Text) : Working Unit := do
  let refuse (verb e : Text) : Working Unit := fault (colonName path ++ ": Cannot " ++ verb ++ ": " ++ e)
  let there := ((← getThe Process).entry path).toOption.map (·.2)
  let isNewer : Bool := k.meeting = .keepNewer && (there.any fun t => !t.isDir && m.changed * Calendar.second ≤ t.about.changed)
  if k.toOutput || k.command.isSome then
    if m.kind = .file then match k.command with
      | some line => giveTo run line m path
      | none => say m.data
  else if isNewer then
    flush
    grumble ("Current " ++ inQuotes path ++ " is newer or same age")
  else do
    if k.meeting = .unlink then
      match (← getThe Process).entry path with
      | .ok (_, .dir (_ :: _) _) => refuse "unlink" "Directory not empty"
      | .ok (place, _) => liftM (eraseFile place : Act Unit)
      | .error _ => pure ()
    match m.kind with
    | .directory => makeDir k m path
    | .hardLink => makeLink k m path
    | .label => return
    | kind =>
      match ← liftM (freePlace k path : Act _) with
      | .ok place => liftM (putFile k m place : Act Unit)
      | .error e =>
        if k.meeting = .skip then return
        else refuse (match kind with
          | .symbolicLink => "create symlink to " ++ inQuotes m.target
          | .pipe => "mkfifo"
          | .characterDevice => "mknod"
          | _ => "open") e

/-- Give directories what is to be known of them. -/
def settleDirs : Working Unit := do
  (← get).directories.forM fun (place, about) =>
    liftM (change (·.alter (fun t => t.withAbout { t.about with
      mode := about.mode
      owner := about.owner
      group := about.group
      changed := about.changed }) place) : Act Unit)

/-! ### Comparing -/

/-- Hold a member against the file that is there. -/
def compareWith (m : Member) (path : Text) : Working Unit := do
  let differs : Working Unit := modify fun w => { w with status := max w.status 1 }
  let tell (t : Text) : Working Unit := do
    sayLine (shownName path ++ t)
    differs
  let p := ← getThe Process
  match p.entry path with
  | .error e => do
    flush
    grumble (colonName path ++ ": Warning: Cannot stat: " ++ e)
    differs
  | .ok (_, t) =>
    let kind : Archive.Kind := match t with
      | .file .. => .file
      | .dir .. => .directory
      | .link .. => .symbolicLink
      | .device .pipe _ => .pipe
      | .device .. => .characterDevice
    if m.kind = .hardLink then
      if (p.entry m.target).toOption.all fun e => e.2.about.node ≠ t.about.node then
        tell (": Not linked to " ++ m.target)
    else if kind ≠ m.kind then tell ": File type differs"
    else match t with
      | .link target _ => if target ≠ m.target then tell ": Symlink differs"
      | t => do
        if t.about.mode &&& 0o7777 ≠ m.mode then tell ": Mode differs"
        if !t.isDir then
          if t.about.owner ≠ m.owner then tell ": Uid differs"
          if t.about.group ≠ m.group then tell ": Gid differs"
          if t.about.changed / Calendar.second ≠ m.changed then tell ": Mod time differs"
          match t with
          | .file data _ =>
            if data.length ≠ m.size then tell ": Size differs"
            else if Octets.ofBytes data ≠ m.data then tell ": Contents differ"
          | _ => pure ()

/-! ### Going through an archive -/

/-- Go through what is found in an archive. -/
def goThrough (k : Wish) (run : Runner) (patterns : List NamePattern) :
    List Archive.Event → List Wanted → Working (List Wanted)
  | [], ws => return ws
  | e :: es, ws => do
    match e with
    | .zeros block => do
      if k.tellsBlocks then sayLine ("block " ++ Text.ofNat block ++ ": ** Block of NULs **")
      return ws
    | .loneZero block => do
      flush
      grumble ("A lone zero block at " ++ Text.ofNat block)
      return ws
    | .junk isFirst => do
      if isFirst then fault "This does not look like a tar archive"
      fault "Skipping to next header"
      goThrough k run patterns es ws
    | .member block m _ whole => do
      let p := ← getThe Process
      let plain := withoutSlashes m.name
      let picked := if ws.isEmpty then some (p.cwd, ws) else pick k p.cwd plain ws
      let isOld := k.since.any fun since => m.changed * Calendar.second < since
      let picked := if isLeftOut patterns plain || isOld then none else picked
      match picked with
      | none =>
        if !whole then liftM (fatal "Unexpected EOF in archive" : Act Unit)
        goThrough k run patterns es ws
      | some (directory, ws) => do
        let path ← targetPath k m
        let long := decide ((if k.deed = .list then 0 else 1) < k.verbosity)
        let shows : Working Unit := showMember k long block m (memberName k m path)
        match k.deed with
        | .list => shows
        | .compare => do
          if 0 < k.verbosity then shows
          compareWith m path
        | _ => do
          if !k.absolute && stepsUp m.name then fault (colonName m.name ++ ": Member name contains '..'")
          else if !path.isEmpty then
            if 0 < k.verbosity then shows
            let here := p.cwd
            liftM (modify fun p => { p with cwd := directory } : Act Unit)
            takeOut k run m path
            liftM (modify fun p => { p with cwd := here } : Act Unit)
            if !whole then fault "Unexpected EOF in archive"
        if !whole then liftM (fatal "Unexpected EOF in archive" : Act Unit)
        goThrough k run patterns es ws

end Rollout.Program.Bundle
