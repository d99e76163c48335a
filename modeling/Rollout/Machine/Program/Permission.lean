import Rollout.Machine.Files
import Rollout.Machine.Program.Paths
import Rollout.Machine.Unix.Mode

/-!
Programs that change what is known of files: their permissions, their owner and their group.
-/

namespace Rollout.Program

open Unix

/-- Everything below something, with the path to it; what holds something comes first. -/
def descendants (path : Text) : FileTree → List (Text × FileTree)
  | .dir es a => (path, .dir es a) :: entries path es
  | t => [(path, t)]
where
  /-- Everything in a directory. -/
  entries (path : Text) : List (Text × FileTree) → List (Text × FileTree)
    | [] => []
    | (name, t) :: es => descendants (below path name) t ++ entries path es

/-- What is done to a path, or to everything below it, perhaps to what holds something last. -/
def forBelow (recursive holdersLast : Bool) (change : Text → Act Nat) (path : Text) : Act Nat := do
  match recursive, (← get).entry path with
  | true, .ok (_, t) =>
    let paths := (descendants path t).map (·.1)
    forEach change (if holdersLast then paths.reverse else paths)
  | _, _ => change path

/-! ### Permissions -/

/-- Is the argument a change of permissions that takes some away? -/
def isRemoval (t : Text) : Bool :=
  match t with
  | '-' :: c :: cs => (c :: cs).all ("rwxXstugoa,+=-".toList.contains ·) && c ≠ '-'
  | _ => false

/-- Permissions as digits and as letters. -/
def shownMode (mode : Nat) : Text :=
  let digits := octalText mode
  List.replicate (4 - digits.length) '0' ++ digits ++ " (" ++ modeText mode ++ [')']

/-- Change permissions. -/
def chmod : Routine := fun ts => do
  let guarded := match ts.span (fun t => t.head? = some '-' && !isRemoval t) with
    | (flags, t :: rest) => if isRemoval t then flags ++ ['-', '-'] :: t :: rest else ts
    | _ => ts
  let isOption := (guarded.contains ['-', '-']) && !ts.contains ['-', '-']
  let a ← arguments [.plain 'c' "changes", .plain 'f' "silent", .plain 'R' "recursive", .plain 'v' "verbose",
    .wordOnly "quiet", .wordOnly "preserve-root", .wordOnly "no-preserve-root", .valuedWord "reference"] true 1 guarded
  let quiet := a.has "f" || a.has "quiet"
  let p ← get
  let (wanted, paths) ← match a.value? "reference", a.operands with
    | some path, paths => match p.find? path with
      | some t => pure (octalText (modeOf t), paths)
      | none => giveUp 1 ("failed to get attributes of " ++ inShellQuotes path ++ ": " ++ describeFault .missing)
    | none, [] => misused 1 "missing operand"
    | none, m :: paths => pure (m, paths)
  match paths, a.operands with
  | [], m :: _ => misused 1 ("missing operand after " ++ inQuotes m)
  | [], [] => misused 1 "missing operand"
  | paths, _ => do
    if (changeMode p.mask false wanted 0).isNone then misused 1 ("invalid mode: " ++ inQuotes wanted)
    let say (always : Bool) (t : Text) : Act Unit := if a.has "v" || (always && a.has "c") then sayLine t else return
    let change (path : Text) : Act Nat := do
      let p ← get
      let isLink := match p.entry path with
        | .ok (_, .link ..) => true
        | _ => false
      if a.has "R" && isLink && !paths.contains path then do
        say false ("neither symbolic link " ++ inShellQuotes path ++ " nor referent has been changed")
        return 0
      else match p.root.locate p.cwd path with
        | .error e => do
          if !quiet then grumble ("cannot access " ++ inShellQuotes path ++ ": " ++ describeFault e)
          say false (inShellQuotes path ++ " could not be accessed")
          return 1
        | .ok place =>
          let t := (p.root.at? place).getD default
          let old := modeOf t
          let new := (changeMode p.mask t.isDir wanted old).getD old
          Unix.change (·.alter (withMode new) place)
          if new = old then say false ("mode of " ++ inShellQuotes path ++ " retained as " ++ shownMode old)
          else say true ("mode of " ++ inShellQuotes path ++ " changed from " ++ shownMode old ++ " to " ++ shownMode new)
          let naive := (changeMode 0 t.isDir wanted old).getD old
          if isOption && new &&& (0o7777 ^^^ naive) ≠ 0 then do
            grumble (nameOf path ++ ": new permissions are " ++ modeText new ++ ", not " ++ modeText naive)
            return 1
          else return 0
    forEach (forBelow (a.has "R") false change) paths

/-! ### Owners -/

/-- The number that a name or digits stand for. -/
def numberIn (known : List (Text × Nat)) (t : Text) : Option Nat :=
  (known.lookup t).or (Text.toNat? (if t.head? = some '+' then t.drop 1 else t))

/-- The users of the system with their numbers. -/
def userNumbers : List (Text × Nat) := Workspace.users.map fun u => (u.1.toList, u.2.1)

/-- The groups of the system with their numbers. -/
def groupNumbers : List (Text × Nat) := Workspace.groups.map fun g => (g.1.toList, g.2)

/-- The name of a number, or its digits. -/
def nameIn (known : List (Text × Nat)) (n : Nat) : Text := ((known.find? (·.2 = n)).map (·.1)).getD (Text.ofNat n)

/-- The name of a user. -/
def userName (n : Nat) : Text := nameIn userNumbers n

/-- The name of a group. -/
def groupName (n : Nat) : Text := nameIn groupNumbers n

/-- A user and a group, each of which may be left as it is, and how they are written. -/
structure Ownership where
  /-- The user. -/
  user : Option Nat
  /-- The group. -/
  group : Option Nat
  /-- The name of the user. -/
  userShown : Text
  /-- The name of the group. -/
  groupShown : Text

namespace Ownership

/-- The owners that a text names: a user, a colon and a group, of which either may be missing. A colon after a user
stands for the group of that user. -/
def read (t : Text) : Except Text Ownership := do
  let user := t.takeWhile (· ≠ ':')
  let rest := t.drop user.length
  let group := rest.drop 1
  let u ← if user = [] then pure none else match numberIn userNumbers user with
    | some n => pure (some n)
    | none => throw ("invalid user: " ++ inQuotes t)
  let own := (Workspace.users.find? fun e => some e.2.1 = u).map (·.2.2.1)
  if rest = [':'] && user ≠ [] then match own with
    | some g => return ⟨u, some g, user, groupName g⟩
    | none => throw ("invalid spec: " ++ inQuotes t)
  else if group = [] then return ⟨u, none, user, []⟩
  else match numberIn groupNumbers group with
    | some g => return ⟨u, some g, user, group⟩
    | none => throw ("invalid group: " ++ inQuotes t)

/-- The group that a text names. -/
def readGroup (t : Text) : Except Text Ownership :=
  if t = [] then .ok ⟨none, none, [], []⟩
  else match numberIn groupNumbers t with
    | some g => .ok ⟨none, some g, [], t⟩
    | none => .error ("invalid group: " ++ inQuotes t)

/-- The names of owners, of those that are wanted. -/
def shown (o : Ownership) (user group : Text) : Text :=
  match o.user, o.group with
  | some _, some _ => user ++ ':' :: group
  | some _, none => user
  | none, some _ => ':' :: group
  | none, none => []

end Ownership

/-- Change the owners of files, or their group alone. -/
def changeOwners (groupOnly : Bool) : Routine := fun ts => do
  let a ← arguments [.plain 'c' "changes", .plain 'f' "silent", .plain 'h' "no-dereference", .plain 'H' "", .plain 'L' "",
    .plain 'P' "", .plain 'R' "recursive", .plain 'v' "verbose", .wordOnly "quiet", .wordOnly "dereference",
    .valuedWord "from", .valuedWord "reference", .wordOnly "preserve-root", .wordOnly "no-preserve-root"] true 1 ts
  let p ← get
  let quiet := a.has "f" || a.has "quiet"
  let (wanted, paths) ← match a.value? "reference", a.operands with
    | some path, paths => match p.find? path with
      | some t =>
        let (u, g) := (t.about.owner, t.about.group)
        pure (⟨if groupOnly then none else some u, some g, userName u, groupName g⟩, paths)
      | none => giveUp 1 ("failed to get attributes of " ++ inShellQuotes path ++ ": " ++ describeFault .missing)
    | none, [] => misused 1 "missing operand"
    | none, [t] => misused 1 ("missing operand after " ++ inQuotes t)
    | none, t :: paths => match if groupOnly then Ownership.readGroup t else Ownership.read t with
      | .ok o => pure (o, paths)
      | .error e =>
        -- a dot in place of the colon
        let user := t.takeWhile (· ≠ '.')
        match if groupOnly || user.length = t.length then .error e else Ownership.read (user ++ ':' :: t.drop (user.length + 1)) with
        | .ok o => do
          grumble ("warning: '.' should be ':': " ++ inQuotes t)
          pure (o, paths)
        | .error _ => giveUp 1 e
  if paths = [] then misused 1 "missing operand"
  let required ← match a.value? "from" with
    | none => pure none
    | some t => match Ownership.read t with
      | .ok o => pure (some o)
      | .error e => giveUp 1 e
  let kind : Text := if groupOnly then "group" else "ownership"
  let target := if groupOnly then wanted.groupShown else wanted.shown wanted.userShown wanted.groupShown
  let change (path : Text) : Act Nat := do
    let p ← get
    let found := if a.has "h" then (p.entry path).map (·.1) else (p.root.locate p.cwd path).mapError describeFault
    match found with
    | .error e => do
      if !quiet then grumble ("cannot access " ++ inShellQuotes path ++ ": " ++ e)
      if a.has "v" then sayLine ("failed to change " ++ kind ++ " of " ++ inShellQuotes path ++ " to " ++ target)
      return 1
    | .ok place => do
      let about := ((p.root.at? place).getD default).about
      let isMeant := match required with
        | none => true
        | some o => o.user.all (· = about.owner) && o.group.all (· = about.group)
      let (user, group) := (wanted.user.getD about.owner, wanted.group.getD about.group)
      let old := if groupOnly then groupName about.group
        else wanted.shown (userName about.owner) (groupName about.group)
      if !isMeant || (user = about.owner && group = about.group) then do
        if a.has "v" then
          sayLine (kind ++ " of " ++ inShellQuotes path ++ " retained" ++ if old = [] then [] else " as ".toList ++ old)
      else do
        Unix.change (·.alter (fun t => t.withAbout { t.about with
          owner := user
          group := group }) place)
        if a.has "v" || a.has "c" then
          sayLine ("changed " ++ kind ++ " of " ++ inShellQuotes path ++ " from " ++ old ++ " to " ++ target)
      return 0
  forEach (forBelow (a.has "R") true change) paths

end Rollout.Program
