import Rollout.Machine.Calendar.Parser
import Rollout.Machine.Program.Bundle.Restoring
import Rollout.Machine.Program.Compressing

/-!
Keeping files in archives: making archives, adding to them, listing them, and getting files back.
-/

namespace Rollout.Program

open Unix Archive

namespace Bundle

/-! ### Options -/

/-- The value of the last of the options with a key. -/
def lastValue (is : List Item) (key : String) : Option Text :=
  is.reverse.findSome? fun i => match i with
    | .option k v => if k = key.toList then some v else none
    | .operand _ => none

/-- Is there an option with the key? -/
def hasOption (is : List Item) (key : String) : Bool := (lastValue is key).isSome

/-- The deed that is asked for. -/
def deedOf (is : List Item) : Act Deed := do
  let deeds := (is.filterMap fun i => match i with
    | .option k _ => Deed.ofKey? k
    | .operand _ => none).eraseDups
  match deeds with
  | [d] => return d
  | [] => misuse "You must specify one of the '-Acdtrux', '--delete' or '--test-label' options"
  | _ => misuse "You may not specify more than one '-Acdtrux', '--delete' or  '--test-label' option"

/-- An owner or a group, with its name and number. -/
def ownerWish (t : Text) : Text × Option Nat :=
  let name := t.takeWhile (· ≠ ':')
  let number := Text.toNat? (t.drop (name.length + 1))
  match Text.toNat? (if name.head? = some '+' then name.drop 1 else name), number with
  | some n, none => ([], some n)
  | _, n => (name, n)

/-- The time that an option tells. -/
def timeOption (t : Text) : Act (Option Int) := do
  let p ← get
  if t.head? = some '/' || t.head? = some '.' then
    match p.look t with
    | .ok f => return some f.about.changed
    | .error e => fatal (colonName t ++ ": Cannot stat: " ++ e)
  else match Calendar.parse (zoneOf p) p.now t with
    | some n => return some n
    | none => do
      grumble ("Substituting -9223372036854775807 for unknown date format " ++ inQuotes t)
      return none

/-- The style of headers that options ask for. -/
def styleOf (is : List Item) : Act Style := do
  match lastValue is "H" with
  | none => return if hasOption is "posix" then .divided else if hasOption is "o" then .plain else .open
  | some t => match String.ofList t with
    | "gnu" => return .open
    | "oldgnu" => return .open
    | "ustar" => return .divided
    | "pax" => return .divided
    | "posix" => return .divided
    | "v7" => return .plain
    | _ => misuse (colonName t ++ ": Invalid archive format")

/-- What happens to files that are there, as options say. -/
def meetingOf (is : List Item) : Meeting :=
  let last := is.reverse.findSome? fun i => match i with
    | .option k _ => match String.ofList k with
      | "k" => some Meeting.keep
      | "skip-old-files" => some .skip
      | "overwrite" => some .overwrite
      | "U" => some .unlink
      | "keep-newer-files" => some .keepNewer
      | _ => none
    | .operand _ => none
  last.getD .replace

/-- The manner of patterns after an option. -/
def Manner.after (m : Manner) (key : Text) : Manner :=
  match String.ofList key with
  | "anchored" => { m with anchored := true }
  | "no-anchored" => { m with anchored := false }
  | "ignore-case" => { m with folded := true }
  | "no-ignore-case" => { m with folded := false }
  | "wildcards" => { m with wild := true }
  | "no-wildcards" => { m with wild := false }
  | "wildcards-match-slash" => { m with overSlashes := true }
  | "no-wildcards-match-slash" => { m with overSlashes := false }
  | _ => m

/-- Does an option change the manner of patterns? -/
def isManner (key : Text) : Bool :=
  ["anchored", "no-anchored", "ignore-case", "no-ignore-case", "wildcards", "no-wildcards", "wildcards-match-slash",
    "no-wildcards-match-slash"].any fun w => w.toList = key

/-- The manner in which names are held against members, if options say so. -/
def nameMannerOf (is : List Item) : Option Manner :=
  is.foldl (fun m i => match i with
    | .option k _ => if isManner k then some ((m.getD ⟨true, false, true, false⟩).after k) else m
    | .operand _ => m) none

/-- What is wanted, as options say. -/
def Wish.ofItems (is : List Item) : Act Wish := do
  let deed ← deedOf is
  let has := hasOption is
  let value := lastValue is
  let archive := (value "f").getD ['-']
  let factor ← match value "b" with
    | none => pure 20
    | some t => match Text.toNat? t with
      | some 0 => misuse (colonName t ++ ": Invalid blocking factor")
      | some n => pure n
      | none => misuse (colonName t ++ ": Invalid blocking factor")
  let style ← styleOf is
  let changes ← is.mapM fun i => match i with
    | .option k v =>
      if k = "transform" then match NameChange.ofText? v with
        | some xs => pure xs
        | none => misuse "Invalid transform expression"
      else pure []
    | .operand _ => pure []
  let strips ← match value "strip-components" with
    | none => pure 0
    | some t => match Text.toNat? t with
      | some n => pure n
      | none => misuse (colonName t ++ ": Invalid number of elements")
  match (value "sort").map String.ofList with
  | none => pure ()
  | some "name" => pure ()
  | some "none" => pure ()
  | some "inode" => pure ()
  | some t => do
    grumble ("invalid argument " ++ inQuotes t.toList ++ " for '--sort'")
    complain "Valid arguments are:\n  - 'none'\n  - 'name'\n  - 'inode'"
    throw (.exited 2)
  match value "mode" with
  | some m => if (changeMode 0 false m 0).isNone then fatal "Invalid mode given on option"
  | none => pure ()
  let changed ← match value "mtime" with
    | some t => (·.map (· / Calendar.second)) <$> timeOption t
    | none => pure none
  let since ← match (value "N").or (value "newer-mtime") with
    | some t => timeOption t
    | none => pure none
  if archive = ['-'] && [Deed.concatenate, .append, .update].contains deed then
    misuse "Options '-Aru' are incompatible with '-f -'"
  let isCompressed := has "z" || has "j" || has "J" || has "Z" || has "I"
  if isCompressed && deed.changes then misuse "Cannot update compressed archives"
  return {
    deed := deed
    archive := archive
    verbosity := (is.filter fun i => match i with
      | .option k _ => k = "v"
      | .operand _ => false).length
    tellsBlocks := has "R"
    overZeros := has "i"
    recordSize := factor * blockSize
    style := style
    absolute := has "P"
    follows := has "h"
    sorted := value "sort" = some "name"
    removes := has "remove-files"
    lenient := has "ignore-failed-read"
    owner := (value "owner").map ownerWish
    group := (value "group").map ownerWish
    mode := value "mode"
    changed := changed
    since := since
    numeric := has "numeric-owner"
    fullTime := has "full-time"
    showsChanged := has "show-transformed-names"
    changes := changes.flatten
    strips := strips
    topLevel := (value "one-top-level").map fun t => if t.isEmpty then stemOf archive else t
    meeting := meetingOf is
    keepsDirs := has "no-overwrite-dir"
    toOutput := has "O"
    command := value "to-command"
    samePermissions := !has "no-same-permissions"
    sameOwner := !(has "no-same-owner" || has "o")
    touches := has "m"
    nameManner := nameMannerOf is
    label := value "V"
    tags := (is.filterMap fun i => match i with
      | .option k v => if k = "exclude-tag" then some v else none
      | .operand _ => none) }

/-! ### Patterns -/

/-- Names that version control leaves in directories. -/
def controlNames : List String :=
  ["CVS", ".cvsignore", "RCS", "SCCS", ".git", ".gitignore", ".gitattributes", ".gitmodules", ".svn", ".arch-ids",
    "\x7barch\x7d", "=RELEASE-ID", "=meta-update", "=update", ".bzr", ".bzrignore", ".bzrtags", ".hg", ".hgignore",
    ".hgtags", "_darcs"]

/-- The patterns that an option adds. -/
def patternsOf (m : Manner) (key value : Text) : Act (List NamePattern) := do
  match String.ofList key with
  | "exclude" => return [⟨value, m⟩]
  | "X" => do
    match ← contentOf value with
    | .ok t => return (linesOf t).filterMap fun l => if l.isEmpty then none else some ⟨l, m⟩
    | .error e => fatal (colonName value ++ ": " ++ e)
  | "exclude-vcs" => return controlNames.map fun w => ⟨w.toList, { m with wild := false }⟩
  | "exclude-backups" => return [".#*", "*~", "#*#"].map fun w => ⟨w.toList, m⟩
  | _ => return []

/-- The manner in which names are left out. -/
def leavingOut : Manner := ⟨false, true, true, false⟩

/-- All patterns of options. -/
def allPatterns : List Item → Manner → Act (List NamePattern)
  | [], _ => return []
  | .operand _ :: is, m => allPatterns is m
  | .option k v :: is, m => do
    let ps ← patternsOf m k v
    return ps ++ (← allPatterns is (m.after k))

/-! ### Names -/

/-- Go to a directory. -/
def goTo (path : Text) : Act Unit := do
  let p ← get
  match p.root.locate p.cwd path with
  | .error e => fatal (colonName path ++ ": Cannot open: " ++ describeFault e)
  | .ok place =>
    if ((p.root.at? place).map FileTree.isDir).getD false then set { p with cwd := place }
    else fatal (colonName path ++ ": Cannot open: Not a directory")

/-- The items of a file that lists names; a line may also go to a directory. -/
def listedItems (apart : Bool) (path : Text) : Act (List Item) := do
  match ← contentOf path with
  | .error e => fatal (colonName path ++ ": Cannot stat: " ++ e)
  | .ok t =>
    let names := (piecesEndingWith (if apart then '\x00' else '\n') t).map
      (withoutEnd (if apart then '\x00' else '\n'))
    return (names.filter (!·.isEmpty)).map fun l =>
      if !apart && "-C".toList.isPrefixOf l then .option "C" ((l.drop 2).dropWhile (· = ' '))
      else .operand l

/-- The items with those of files in the place of the options that name these. -/
def withListed (apart : Bool) : List Item → Act (List Item)
  | [] => return []
  | .option k v :: is => do
    let own ← if k = "T" then listedItems apart v else pure [.option k v]
    return own ++ (← withListed (if k = "null" then true else if k = "no-null" then false else apart) is)
  | i :: is => do return i :: (← withListed apart is)

/-- The name that an operand is. -/
def nameFrom (is : List Item) (t : Text) : Text :=
  if hasOption is "no-unquote" || hasOption is "null" then t else unescapedName (t.length + 1) t

/-- Store all that items name. -/
def storeAll (k : Wish) (archive : Option Nat) (all : List Item) : List Item → Bool → Manner → List NamePattern → Working Unit
  | [], _, _, _ => return
  | .operand t :: is, recursive, m, ps => do
    let t := nameFrom all t
    let t := if (withoutSlashes t).isEmpty then t else withoutSlashes t
    if !isLeftOut ps t then storePath k archive ps recursive removalDepth t
    storeAll k archive all is recursive m ps
  | .option key value :: is, recursive, m, ps => do
    match String.ofList key with
    | "C" => liftM (goTo value : Act Unit)
    | "add-file" =>
      if !isLeftOut ps (withoutSlashes value) then storePath k archive ps recursive removalDepth value
    | _ => pure ()
    let more ← liftM (patternsOf m key value : Act _)
    let recursive := if key = "no-recursion" then false else if key = "recursion" then true else recursive
    storeAll k archive all is recursive (m.after key) (ps ++ more)

/-- Tell of options that stand behind all operands and so count for nothing. -/
def tellLate (is : List Item) : Working Unit := do
  let isOperand (i : Item) : Bool := match i with
    | .operand _ => true
    | .option .. => false
  let late := if is.any isOperand then (is.reverse.takeWhile fun i => !isOperand i).reverse else []
  let shown := late.filterMap fun i => match i with
    | .operand _ => none
    | .option k v => match String.ofList k with
      | "exclude" => some ("--exclude " ++ inQuotes v)
      | "X" => some ("--exclude-from " ++ inQuotes v)
      | "exclude-tag" => some ("--exclude-tag " ++ inQuotes v)
      | "exclude-vcs" => some "--exclude-vcs".toList
      | "exclude-backups" => some "--exclude-backups".toList
      | "no-recursion" => some "--no-recursion".toList
      | "recursion" => some "--recursion".toList
      | w => if isManner k then some ("--" ++ w.toList) else none
  if !shown.isEmpty then
    fault ("The following options were used after any non-optional arguments in archive create or update mode.  "
      ++ "These options are positional and affect only arguments that follow them.  Please, rearrange them properly.")
    shown.forM fun t => fault (t ++ " has no effect")

/-- The names that are wanted, each seen from the directory to which the options in front of it go. -/
def wantedNames (all : List Item) : List Item → Act (List Wanted)
  | [] => return []
  | .operand t :: is => do
    let here := (← get).cwd
    return ⟨nameFrom all t, here, 0⟩ :: (← wantedNames all is)
  | .option k v :: is => do
    if k = "C" then goTo v
    wantedNames all is

/-! ### Archives -/

/-- How hard an archive is compressed, if it is. -/
def levelOf (is : List Item) (archive : Text) : Option Nat :=
  let named := hasOption is "a" && [".gz", ".tgz", ".taz"].any fun e => e.toList.isSuffixOf archive
  match (lastValue is "I").map (Text.split ' ') with
  | some (name :: rest) =>
    if name = "gzip" then
      some ((rest.findSome? fun w => if w.length = 2 then Text.toNat? (w.drop 1) else none).getD 6)
    else none
  | _ => if hasOption is "z" || named then some 6 else none

/-- The program that compresses an archive and is not there. -/
def missingProgram (is : List Item) : Option String :=
  [("j", "bzip2"), ("J", "xz"), ("Z", "compress"), ("lzip", "lzip"), ("lzma", "lzma"), ("lzop", "lzop"), ("zstd", "zstd")].findSome?
    fun (key, name) => if hasOption is key then some name else none

/-- End because a program that is needed is not there. -/
def lackProgram {α : Type} (name : String) : Act α := do
  complain ("tar (child): " ++ name.toList ++ ": Cannot exec: No such file or directory")
  complain "tar (child): Error is not recoverable: exiting now"
  grumble "Child returned status 2"
  grumble "Error is not recoverable: exiting now"
  throw (.exited 2)

/-- What was compressed; less than a block of it is an empty archive. -/
def unzipped (t : Text) : Act Text := do
  let k := Compressing.ofArguments ⟨[(['d'], [])], []⟩
  let s : Compressing.Source := ⟨"stdin", t, none⟩
  let result ← try k.contentOf s (fun _ => return) catch _ => pure none
  match result with
  | some c => return if c.text.length < blockSize then Archive.ofParts 1 [] else c.text
  | none => do
    grumble "Child returned status 1"
    grumble "Error is not recoverable: exiting now"
    throw (.exited 2)

/-- What an archive holds, decompressed if needed. -/
def readArchive (k : Wish) (is : List Item) : Act Text := do
  match missingProgram is with
  | some name => lackProgram name
  | none => pure ()
  match ← contentOf k.archive with
  | .error e =>
    if e = "Is a directory" then fatal (colonName k.archive ++ ": Cannot read: Is a directory")
    else fatal (colonName k.archive ++ ": Cannot open: " ++ e)
  | .ok t =>
    let isZipped := memberMark.isPrefixOf t
    if (levelOf is k.archive).isSome then unzipped t
    else if !isZipped then return t
    else if k.deed.changes then fatal "Cannot update compressed archives"
    else if k.archive = ['-'] then fatal "Archive is compressed. Use -z option"
    else unzipped t

/-- Write the archive. -/
def writeArchive (k : Wish) (is : List Item) (d : Option Descriptor) (parts : List Text) : Act Unit := do
  let t := Archive.ofParts k.recordSize parts
  let t := match levelOf is k.archive with
    | some level => (compressed level 0 none t).bytes
    | none => t
  match d with
  | none => do
    say t
    flush
  | some d => do
    flush
    match ← writeTo t d with
    | some e => fatal (colonName k.archive ++ ": Cannot write: " ++ e)
    | none => return

/-- The archive for writing; none stands for the standard output. -/
def openArchive (k : Wish) : Act (Option Descriptor) := do
  if k.archive = ['-'] then return none
  match ← openForWriting false k.archive with
  | .ok d => return some d
  | .error e => fatal (colonName k.archive ++ ": Cannot open: " ++ e)

/-- The members of an archive as they are written. -/
def rawMembers (es : List Archive.Event) : List (Member × Text) :=
  es.filterMap fun e => match e with
    | .member _ m raw _ => some (m, raw)
    | _ => none

/-- What is in an archive that is to be changed. -/
def oldEvents (k : Wish) (is : List Item) : Working (List Archive.Event) := do
  let t ← liftM (readArchive k is : Act Text)
  let es := Archive.eventsOf k.overZeros t
  if (0 < t.length && t.length < blockSize) || es.any fun e => match e with
    | .junk isFirst => isFirst
    | _ => false then
    fault "This does not look like a tar archive"
    if k.deed ≠ .delete then liftM (throw (.exited 2) : Act Unit)
  return es

/-! ### Deeds -/

/-- The number of the file that the archive is. -/
def archiveNode (k : Wish) : Act (Option Nat) := do
  if k.archive = ['-'] then
    let p ← get
    return match p.descriptors.lookup 1 with
      | some (.file i) => (p.handles[i]?).map (·.node)
      | _ => none
  else return ((← get).find? k.archive).map (·.about.node)

/-- Make an archive. -/
def make (k : Wish) (given is : List Item) : Working Unit := do
  let isOperand (i : Item) : Bool := match i with
    | .operand _ => true
    | .option key _ => key = "T" || key = "add-file"
  if !given.any isOperand then liftM (misuse "Cowardly refusing to create an empty archive" : Act Unit)
  let d ← liftM (openArchive k : Act _)
  match missingProgram is with
  | some name => liftM (lackProgram name : Act Unit)
  | none => pure ()
  let node ← liftM (archiveNode k : Act _)
  match k.label with
  | none => pure ()
  | some name => do
    let now := (← getThe Process).now / Calendar.second
    let _ ← store k name ⟨name, .label, [], 0, 0, 0, [], [], now, 0, [], (0, 0)⟩
  storeAll k node is is true leavingOut []
  liftM (writeArchive k is d (← get).parts.reverse : Act Unit)
  tellLate given

/-- The items that are not older than what an archive has of them. -/
def newerItems (k : Wish) (es : List Archive.Event) (is : List Item) : Working (List Item) := do
  let p := ← getThe Process
  let after (is : List Item) (m : Member) : List Item :=
    let name := withoutSlashes m.name
    is.flatMap fun i => match i with
      | .option .. => [i]
      | .operand t =>
        if withoutSlashes t ≠ name then [i]
        else match p.find? t with
          | some (.dir entries _) => entries.map fun e => .operand (below name e.1)
          | some f => if f.about.changed / Calendar.second ≤ m.changed then [] else [i]
          | none => [i]
  let _ := k
  return (rawMembers es).foldl (fun is m => after is m.1) is

/-- Add to an archive, which need not be there. -/
def add (k : Wish) (is : List Item) : Working Unit := do
  let isThere := ((← getThe Process).find? k.archive).isSome
  let es ← if isThere then oldEvents k is else pure []
  let old := (rawMembers es).map (·.2)
  let is ← if k.deed = .update then newerItems k es is else pure is
  modify fun w => { w with parts := old.reverse }
  let node ← liftM (archiveNode k : Act _)
  storeAll k node is is true leavingOut []
  let d ← liftM (openArchive k : Act _)
  liftM (writeArchive k is d (← get).parts.reverse : Act Unit)
  tellLate is

/-- Add other archives to an archive. -/
def addArchives (k : Wish) (is : List Item) : Working Unit := do
  let isThere := ((← getThe Process).find? k.archive).isSome
  let es ← if isThere then oldEvents k is else pure []
  let others ← is.mapM fun i => match i with
    | .option .. => pure []
    | .operand t => do oldEvents { k with archive := t } []
  let d ← liftM (openArchive k : Act _)
  liftM (writeArchive k is d ((rawMembers (es ++ others.flatten)).map (·.2)) : Act Unit)

/-- Take members out of an archive. -/
def remove (k : Wish) (is : List Item) : Working Unit := do
  let es ← oldEvents k is
  let ws ← liftM (wantedNames is is : Act _)
  let patterns ← liftM (allPatterns is leavingOut : Act _)
  let here := (← getThe Process).cwd
  let (kept, ws) := (rawMembers es).foldl (fun (kept, ws) (m, raw) =>
    let name := withoutSlashes m.name
    if isLeftOut patterns name then (raw :: kept, ws)
    else match pick k here name ws with
      | some (_, ws) => (kept, ws)
      | none => (raw :: kept, ws)) (([], ws) : List Text × List Wanted)
  let d ← liftM (openArchive k : Act _)
  liftM (writeArchive k is d kept.reverse : Act Unit)
  tellMissing k ws

/-- List an archive, take files out of it, or compare it with the files that are there. -/
def inspect (k : Wish) (run : Runner) (is : List Item) : Working Unit := do
  let t ← liftM (readArchive k is : Act Text)
  let ws ← liftM (wantedNames is is : Act _)
  let patterns ← liftM (allPatterns is leavingOut : Act _)
  if t.length < blockSize then fault "This does not look like a tar archive"
  let ws ← goThrough k run patterns (Archive.eventsOf k.overZeros t) ws
  settleDirs
  tellMissing k ws

/-- Tell the name of the archive itself. -/
def tellLabel (k : Wish) (is : List Item) : Working Unit := do
  let t ← liftM (readArchive k is : Act Text)
  match Archive.eventsOf k.overZeros t with
  | .member _ m _ _ :: _ => if m.kind = .label then sayLine (shownName m.name) else pure ()
  | _ => fault "This does not look like a tar archive"

end Bundle

open Rollout.Program.Bundle in
/-- Keep files in an archive. -/
def tar (run : Runner) : Routine := fun ts => do
  let given ← Bundle.itemsOf ts
  let told := given.findSome? fun i => match i with
    | .option k _ => if Manual.words.any (·.toList = k) then some k
      else if k = "?" || k = "usage" then some "help".toList else none
    | .operand _ => none
  match told with
  | some word => Manual.tell word
  | none => pure ()
  if hasOption given "show-defaults" then
    sayLine ("--format=gnu -f- -b20 --quoting-style=escape --rmt-command=/usr/sbin/rmt "
      ++ "--rsh-command=/usr/bin/rsh")
    return 0
  let k ← Wish.ofItems given
  let is ← withListed false given
  let deed : Working Unit := match k.deed with
    | .create => make k given is
    | .append => add k is
    | .update => add k is
    | .concatenate => addArchives k is
    | .delete => remove k is
    | .tellLabel => tellLabel k is
    | _ => inspect k run is
  let start : Work := {
    status := 0
    leftOut := []
    width := 19
    parts := []
    blocks := 0
    linked := []
    directories := [] }
  let (_, w) ← deed.run start
  if w.status = 2 then
    flush
    grumble "Exiting with failure status due to previous errors"
  return w.status

end Rollout.Program
