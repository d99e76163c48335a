import Rollout.Machine.Calendar.Format
import Rollout.Machine.Deflate.Reader
import Rollout.Machine.Deflate.Writer
import Rollout.Machine.Digest
import Rollout.Machine.Program.Removing

/-!
Compressing files, and getting back what was compressed. A compressed file has members one after another, each a header,
deflated data, and the checksum and length of what they stand for.
-/

namespace Rollout.Program

open Unix

/-! ### Members -/

/-- The bytes of a number, the low ones first. -/
def lowFirst (width n : Nat) : Text := (List.range width).map fun i => Char.ofNat ((n >>> (8 * i)) % 256)

/-- The number that bytes make up, the low ones first. -/
def ofLowFirst (t : Text) : Nat := t.foldr (fun c n => 256 * n + c.toNat) 0

/-- The two bytes with which a member starts. -/
def memberMark : Text := ['\x1f', '\x8b']

/-- The header of a member. -/
structure MemberHeader where
  /-- The name of the file. -/
  name : Option Text
  /-- When the file was changed, in seconds. -/
  time : Nat
  /-- How many bytes the header has. -/
  size : Nat

/-- What stands where a member may start. -/
inductive Opening
  /-- The header of a member, and what follows it. -/
  | member (header : MemberHeader) (rest : Text)
  /-- The header is not there as a whole. -/
  | ended
  /-- The start of no member. -/
  | foreign
  /-- A member that cannot be read. -/
  | unsupported (why : Text)

namespace Opening

/-- Reading of a header. -/
abbrev Parser := ExceptT Opening (StateM Text)

/-- The next bytes. -/
def take (n : Nat) : Parser Text := do
  let t ← get
  if (t.take n).length < n then throw .ended
  set (t.drop n)
  return t.take n

/-- The bytes up to a zero, which is left out. -/
def name : Parser Text := do
  let t ← get
  let name := t.takeWhile (· ≠ '\x00')
  let _ ← take (name.length + 1)
  return name

/-- The header behind the two bytes with which it starts. -/
def header : Parser MemberHeader := do
  let before := (← get).length
  let method := ofLowFirst (← take 1)
  if method ≠ 8 then throw (.unsupported (": unknown method " ++ Text.ofNat method ++ " -- not supported"))
  let flags := ofLowFirst (← take 1)
  if flags.testBit 5 then throw (.unsupported " is encrypted -- not supported")
  if 64 ≤ flags then throw (.unsupported (" has flags 0x" ++ Nat.toDigits 16 flags ++ " -- not supported"))
  let time := ofLowFirst (← take 4)
  let _ ← take 2
  if flags.testBit 2 then
    let n := ofLowFirst (← take 2)
    let _ ← take n
  let stored ← if flags.testBit 3 then some <$> name else pure none
  if flags.testBit 4 then let _ ← name
  if flags.testBit 1 then let _ ← take 2
  return ⟨stored, time, 2 + before - (← get).length⟩

/-- What stands at the start of a text. -/
def of (t : Text) : Opening :=
  match t with
  | [] => ended
  | ['\x00'] => foreign
  | [_] => ended
  | a :: b :: rest =>
    if [a, b] = memberMark || [a, b] = ['\x1f', '\x9e'] then
      match (header.run.run rest : Except Opening MemberHeader × Text) with
      | (.ok h, rest) => member h rest
      | (.error e, _) => e
    else foreign

end Opening

/-- How text is compressed. -/
structure Compressed where
  /-- The whole member. -/
  bytes : Text
  /-- How many bytes of it are header and end. -/
  frame : Nat

/-- A member for a text. -/
def compressed (level time : Nat) (name : Option Text) (t : Text) : Compressed :=
  let extra := match level with
    | 9 => 2
    | 1 => 4
    | _ => 0
  let flags := if name.isSome then 8 else 0
  let stored : Text := match name with
    | some n => n ++ ['\x00']
    | none => []
  let header := memberMark ++ lowFirst 1 8 ++ lowFirst 1 flags ++ lowFirst 4 time ++ lowFirst 1 extra
    ++ lowFirst 1 3 ++ stored
  ⟨header ++ Deflate.deflate level t ++ lowFirst 4 (Digest.mirroredCrc t) ++ lowFirst 4 t.length, header.length + 8⟩

/-! ### Options -/

/-- What is done with files. -/
structure Compressing where
  /-- Are files decompressed? -/
  unpacks : Bool
  /-- Is the result written to the standard output? -/
  toOutput : Bool
  /-- Are links and files that are there no hindrance? -/
  forced : Bool
  /-- Do the files stay? -/
  keeps : Bool
  /-- Are the sizes of files listed? -/
  lists : Bool
  /-- Are warnings left out? -/
  quiet : Bool
  /-- Are the files in directories meant too? -/
  recursive : Bool
  /-- Are files only tested? -/
  tests : Bool
  /-- Is told what is done? -/
  verbose : Bool
  /-- Do names and times of files not matter? -/
  nameless : Bool
  /-- How much effort is made. -/
  level : Nat
  /-- What stands at the end of names. -/
  suffix : Text

namespace Compressing

/-- The message with the name of the program. -/
def note (t : Text) : Act Unit := do
  flush
  complain ("gzip: " ++ t)

/-- A message after which the program ends. -/
def abort {α : Type} (t : Text) : Act α := do
  note t
  throw (.exited 1)

/-- A warning, with the status that comes of it. -/
def warn (k : Compressing) (t : Text) : Act Nat := do
  if !k.quiet then note t
  return 2

/-- The status of two of which an error counts most. -/
def worse (a b : Nat) : Nat := if a = 1 || b = 1 then 1 else max a b

/-- The names' ends that are known. -/
def suffixes (k : Compressing) : List Text :=
  k.suffix :: [".gz", ".z", ".taz", ".tgz", "-gz", "-z", "_z"].map String.toList

/-- The end of a name that says it is compressed. -/
def suffixOf? (k : Compressing) (path : Text) : Option Text :=
  let lower := path.map Char.toLower
  (k.suffixes.find? fun s =>
    s.isSuffixOf lower && (lower.dropLast.drop (lower.length - s.length - 1)) ≠ ['/'] && s.length < lower.length
      && (lower.take (lower.length - s.length)).getLast? ≠ some '/').map fun s => path.drop (path.length - s.length)

/-- How much is saved, as a share of a size. -/
def ratio (saved : Int) (size : Nat) : Text :=
  let tenths := if size = 0 then 0 else Rounded.roundDiv (1000 * saved.natAbs) size
  let shown := Text.ofNat (tenths / 10) ++ '.' :: Text.ofNat (tenths % 10)
  padLeft 5 (if saved < 0 then '-' :: shown else shown) ++ ['%']

/-! ### Lists -/

/-- The sizes of a compressed file. -/
structure Sizes where
  /-- The size of the file. -/
  packed : Nat
  /-- The size of what it holds. -/
  plain : Nat
  /-- The size of header and end. -/
  frame : Nat

/-- The line with sizes and a name. -/
def sizeLine (s : Sizes) (name : Text) : Text :=
  padLeft 19 (Text.ofNat s.packed) ++ ' ' :: padLeft 19 (Text.ofNat s.plain) ++ ' ' ::
    ratio ((s.plain : Int) - ((s.packed : Int) - (s.frame : Int))) s.plain ++ ' ' :: name

/-- The line above the sizes. -/
def sizeHead (k : Compressing) : Text :=
  (if k.verbose then "method  crc     date  time  ".toList else [])
    ++ padLeft 19 "compressed" ++ ' ' :: padLeft 19 "uncompressed" ++ "  ratio uncompressed_name"

/-! ### Contents -/

/-- A file that is read. -/
structure Source where
  /-- How the file is called. -/
  name : Text
  /-- What it holds. -/
  bytes : Text
  /-- When it was changed, if that is known. -/
  changed : Option Int

/-- What is in a compressed file. -/
structure Content where
  /-- The text. -/
  text : Text
  /-- The name and time that are stored. -/
  header : MemberHeader
  /-- The size of the last member's text. -/
  plain : Nat
  /-- The size of the last member's header and end. -/
  frame : Nat
  /-- The checksum of the last member. -/
  sum : Nat
  /-- The status. -/
  status : Nat
  /-- Is it right so far? -/
  sound : Bool

/-- The text after which data end or go wrong: of data that go wrong, only whole windows are known. -/
def partBefore (fault : Deflate.Fault) (t : Text) : Text :=
  match fault with
  | .ended => t
  | .violated => t.take (t.length / Deflate.windowHalf * Deflate.windowHalf)

/-- Read the members of a file, which follow one another. -/
def members (k : Compressing) (name : Text) (shows : Text → Act Unit) :
    Nat → Content → MemberHeader → Text → Act Content
  | 0, c, _, _ => return c
  | fuel + 1, c, header, t => do
    let data := Deflate.inflate t
    match data.fault with
    | some fault => do
      shows (c.text ++ partBefore fault data.bytes)
      note' (match fault with
        | .ended => ": unexpected end of file"
        | .violated => ": invalid compressed data--format violated")
      throw (.exited 1)
    | none => do
      let rest := t.drop (t.length - data.left)
      let text := c.text ++ data.bytes
      if (rest.take 8).length < 8 then
        shows text
        note' ": unexpected end of file"
        throw (.exited 1)
      let badSum := decide (ofLowFirst (rest.take 4) ≠ Digest.mirroredCrc data.bytes)
      let badLength := decide (ofLowFirst ((rest.drop 4).take 4) ≠ data.bytes.length)
      if badSum || badLength then
        shows text
        if badSum then note' ": invalid compressed data--crc error"
        if badLength then note' ": invalid compressed data--length error"
        if !k.tests then throw (.exited 1)
        return { c with
          status := 1
          sound := false }
      let c := { c with
        text := text
        plain := data.bytes.length
        frame := header.size
        sum := ofLowFirst (rest.take 4) }
      let rest := rest.drop 8
      if rest = [] then return c
      match Opening.of rest with
      | .member h t => members k name shows fuel c { h with size := 0 } t
      | .ended => do
        shows c.text
        note' ": unexpected end of file"
        throw (.exited 1)
      | .unsupported why => do
        note (name ++ why)
        return { c with
          status := 1
          sound := false }
      | .foreign =>
        if rest.all (· = '\x00') then return c
        else do
          if !k.quiet then note' ": decompression OK, trailing garbage ignored"
          return { c with status := worse c.status 2 }
where
  note' (t : Text) : Act Unit := do
    flush
    complain ("\ngzip: " ++ name ++ t)

/-- Read a compressed file; gives nothing if it is none. -/
def contentOf (k : Compressing) (s : Source) (shows : Text → Act Unit) : Act (Option Content) := do
  match Opening.of s.bytes with
  | .member h t =>
    let start : Content := ⟨[], h, 0, 0, 0, 0, true⟩
    return some (← members k s.name shows (s.bytes.length + 1) start { h with size := h.size + 8 } t)
  | .ended =>
    if k.forced && k.toOutput && !k.lists && s.bytes.length < 2 then
      return some ⟨s.bytes, ⟨none, 0, 0⟩, s.bytes.length, 0, 0, 0, true⟩
    else do
      flush
      complain ("\ngzip: " ++ s.name ++ ": unexpected end of file")
      throw (.exited 1)
  | .unsupported why => do
    note (s.name ++ why)
    return none
  | .foreign =>
    if k.forced && k.toOutput && !k.lists then return some ⟨s.bytes, ⟨none, 0, 0⟩, s.bytes.length, 0, 0, 0, true⟩
    else do
      flush
      complain ("\ngzip: " ++ s.name ++ ": not in gzip format")
      return none

/-! ### Files -/

/-- What comes of a file: the status, and its sizes if it is listed. -/
abbrev Outcome := Nat × List Sizes

/-- List what is known of a compressed file. -/
def list (k : Compressing) (isFirst : Bool) (s : Source) (c : Content) (target : Text) : Act Outcome := do
  let sizes : Sizes := ⟨s.bytes.length, c.plain, c.frame⟩
  if isFirst && !k.quiet then sayLine k.sizeHead
  if k.verbose then
    let p ← get
    let reading := Calendar.Reading.ofMoment (zoneOf p) (s.changed.getD p.now)
    let sum := Nat.toDigits 16 c.sum
    say ("defla " ++ List.replicate (8 - sum.length) '0' ++ sum ++ ' ' :: Calendar.format reading "%b %e %H:%M ")
  sayLine (sizeLine sizes target)
  return (c.status, [sizes])

/-- The seconds of a time, as far as a header can hold them. -/
def headerTime (k : Compressing) (changed : Option Int) : Act Nat := do
  match if k.nameless then none else changed with
  | none => return 0
  | some t =>
    let seconds := t / Calendar.second
    if 0 < seconds && seconds < 4294967296 then return seconds.toNat
    else do
      note "warning: file timestamp out of range for gzip format"
      return 0

/-- Do with the standard input what is to be done. -/
def runInput (k : Compressing) (isFirst : Bool) : Act Outcome := do
  let p ← get
  let changed : Option Int := match p.descriptors.lookup 0 with
    | some (.file i) => (p.handles[i]?).bind fun h => (p.opened? h).map (·.about.changed)
    | _ => none
  match p.inputFault? 0 with
  | some e => do
    note ("stdin: " ++ e)
    throw (.exited 1)
  | none => pure ()
  let s : Source := ⟨"stdin", ← readAll, changed⟩
  let k := { k with toOutput := true }
  if k.unpacks then
    match ← k.contentOf s (fun t => if k.tests || k.lists then return else say t) with
    | none => throw (.exited 1)
    | some c => do
      if k.lists then k.list isFirst s c "stdout"
      else do
        if !k.tests then say c.text
        if k.verbose && k.tests && c.sound then
          flush
          complain " OK"
        return (c.status, [])
  else do
    let made := compressed k.level (← k.headerTime changed) none s.bytes
    say made.bytes
    if k.verbose then
      flush
      complain (ratio ((s.bytes.length : Int) - (made.bytes.length - made.frame : Nat)) s.bytes.length)
    return (0, [])

/-- The name of the file that comes of another one; otherwise, the status. -/
def targetOf (k : Compressing) (path : Text) : Act (Except Nat Text) := do
  let telling := k.verbose || (!k.recursive && !k.quiet)
  match k.suffixOf? path with
  | some s =>
    let stem := path.take (path.length - s.length)
    if k.unpacks then
      let isArchive := [".tgz", ".taz"].any fun w => w.toList = s.map Char.toLower
      return .ok (if isArchive then stem ++ ".tar" else stem)
    else if k.forced then return .ok (path ++ k.suffix)
    else do
      if telling then note (path ++ " already has " ++ s ++ " suffix -- unchanged")
      return .error 0
  | none =>
    if !k.unpacks then return .ok (path ++ k.suffix)
    else if !k.recursive && (k.lists || k.tests) then return .ok path
    else do
      if telling then .error <$> k.warn (path ++ ": unknown suffix -- ignored") else return .error 0

/-- The path of the file that is opened for an operand, with its place and what it is. -/
def openSource (k : Compressing) (path : Text) : Act (Except Text (Text × List Text × FileTree)) := do
  let p ← get
  let follows := k.toOutput || k.forced
  let look (path : Text) : Except Text (List Text × FileTree) := do
    let (place, t) ← p.entry path
    match t with
    | .link .. =>
      if follows then
        let target ← (p.root.locate p.cwd path).mapError describeFault
        return (place, (p.root.at? target).getD t)
      else throw (describeFault .loop)
    | t => return (place, t)
  let missing := describeFault .missing
  match look path with
  | .ok found => return .ok (path, found)
  | .error e =>
    let shown := if path = [] then e else path ++ ": " ++ e
    if !k.unpacks || e ≠ missing || (k.suffixOf? path).isSome then return .error shown
    else
      let ends := k.suffix :: [".gz", ".z", "-z", ".Z"].map String.toList
      match ends.findSome? fun s => match look (path ++ s) with
        | .ok found => some (path ++ s, found)
        | .error _ => none with
      | some found => return .ok found
      | none => return .error (path ++ k.suffix ++ ": " ++ e)

/-- Make the file that comes of another one; gives the status. -/
def writeTarget (k : Compressing) (target : Text) (old : About) (t : Text) : Act (Option Nat) := do
  let p ← get
  let refuse (e : Text) : Act (Option Nat) := do
    note (target ++ ": " ++ e)
    return some 1
  match p.slot target with
  | .error e => refuse e
  | .ok place => do
    match p.root.at? place with
    | some there =>
      if !k.forced then
        note (target ++ " already exists;\tnot overwritten")
        return some 2
      else if there.isDir then return ← refuse "Is a directory"
      else eraseFile place
    | none => pure ()
    change (·.create (.file (Octets.toBytes t)) (old.mode &&& 0o777) place)
    change (·.alter (fun t => t.withAbout { t.about with
      owner := old.owner
      group := old.group
      changed := old.changed
      used := old.used }) place)
    return none

/-- Tell what was saved. -/
def tellRatio (k : Compressing) (saved : Int) (size : Nat) (target : Text) : Act Unit :=
  if k.verbose then
    complain (ratio saved size ++ (if k.keeps then " -- created " else " -- replaced with ").toList ++ target)
  else return

/-- The stored name in place of the last one of a path. -/
def renamed (path name : Text) : Text :=
  let last := (path.reverse.takeWhile (· ≠ '/')).length
  path.take (path.length - last) ++ (name.reverse.takeWhile (· ≠ '/')).reverse

/-- Decompress a file. -/
def unpack (k : Compressing) (isFirst : Bool) (place : List Text) (old : About) (s : Source) (target : Text) :
    Act Outcome := do
  match ← k.contentOf s (fun t => if k.toOutput && !k.tests && !k.lists then say t else return) with
  | none => return (1, [])
  | some c => do
    let target := match c.header.name with
      | some n => if k.nameless || (k.toOutput && !k.lists) then target else renamed target n
      | none => target
    if k.lists then k.list isFirst s c target
    else do
      if !c.sound then return (c.status, [])
      let old := if k.nameless || c.header.time = 0 then old
        else { old with changed := (c.header.time : Int) * Calendar.second }
      if k.toOutput then
        if !k.tests then say c.text
      else
        match ← k.writeTarget target old c.text with
        | some status => return (status, [])
        | none => if !k.keeps then eraseFile place
      if k.verbose then
        flush
        write 2 (s.name ++ ":\t")
      if k.tests then
        if k.verbose then complain " OK"
      else k.tellRatio ((c.plain : Int) - ((s.bytes.length : Int) - (c.frame : Int))) c.plain target
      return (c.status, [])

/-- Compress a file. -/
def pack (k : Compressing) (place : List Text) (old : About) (s : Source) (target : Text) : Act Outcome := do
  let own := (s.name.reverse.takeWhile (· ≠ '/')).reverse
  let made := compressed k.level (← k.headerTime s.changed) (if k.nameless then none else some own) s.bytes
  if k.toOutput then say made.bytes
  else
    match ← k.writeTarget target old made.bytes with
    | some status => return (status, [])
    | none => if !k.keeps then eraseFile place
  if k.verbose then
    flush
    write 2 (s.name ++ ":\t")
  k.tellRatio ((s.bytes.length : Int) - (made.bytes.length - made.frame : Nat)) s.bytes.length target
  return (0, [])

/-- Do with a file, or with the files in a directory, what is to be done; the depth bounds directories inside of each
other. -/
def runPath (k : Compressing) (isFirst : Bool) : Nat → Text → Act Outcome
  | 0, _ => return (1, [])
  | depth + 1, path => do
    if path = ['-'] then return ← k.runInput isFirst
    match ← k.openSource path with
    | .error e => do
      note e
      return (1, [])
    | .ok (path, place, t) => match t with
      | .dir es _ =>
        if k.recursive then
          es.foldlM (fun (outcome : Outcome) e => do
            let (status, sizes) ← runPath k (isFirst && outcome.2.isEmpty) depth (below path e.1)
            return (worse outcome.1 status, outcome.2 ++ sizes)) (0, [])
        else return (← k.warn (path ++ " is a directory -- ignored"), [])
      | t => do
        let isFile := match t with
          | .file .. => true
          | _ => false
        if !k.toOutput && !isFile then
          return (← k.warn (path ++ " is not a directory or a regular file - ignored"), [])
        let names := (← get).root.countNode t.about.node
        if !k.toOutput && !k.forced && t.about.shared && 1 < names then
          let others := Text.ofNat (names - 1) ++ " other link" ++ (if names = 2 then "" else "s").toList
          return (← k.warn (path ++ " has " ++ others ++ " -- file ignored"), [])
        let target : Except Nat Text ← if k.toOutput && !k.lists && !k.tests then pure (.ok "stdout".toList)
          else k.targetOf path
        match target with
        | .error status => return (status, [])
        | .ok target => match ← readPath path with
          | .error e => do
            note (path ++ ": " ++ e)
            return (1, [])
          | .ok bytes =>
            let s : Source := ⟨path, bytes, if isFile then some t.about.changed else none⟩
            if k.unpacks then k.unpack isFirst place t.about s target else k.pack place t.about s target

/-! ### The programs -/

/-- The options. -/
def flags : List Flag :=
  ([.plain 'a' "ascii", .plain 'c' "to-stdout", .wordOnly "stdout", .plain 'd' "decompress", .wordOnly "uncompress",
    .plain 'f' "force", .plain 'h' "", .plain 'H' "", .plain 'k' "keep", .plain 'l' "list", .plain 'L' "license",
    .plain 'm' "", .plain 'M' "", .plain 'n' "no-name", .plain 'N' "name", .plain 'q' "quiet", .wordOnly "silent",
    .plain 'r' "recursive", .valued 'S' "suffix", .plain 't' "test", .plain 'v' "verbose", .plain 'V' "",
    .plain 'Z' "lzw", .valued 'b' "bits", .wordOnly "rsyncable", .wordOnly "synchronous", .plain '1' "fast",
    .plain '9' "best"] : List Flag) ++ Flag.letters "2345678"

/-- Say how to learn about the program, and end. -/
def seeHelp {α : Type} : Act α := do
  complain "Try `gzip --help' for more information."
  throw (.exited 1)

/-- What options ask for. -/
def ofArguments (a : Arguments) : Compressing :=
  let has (keys : List String) : Bool := keys.any a.has
  let lists := a.has "l"
  let tests := a.has "t"
  let unpacks := has ["d", "uncompress"] || lists || tests
  { unpacks := unpacks
    toOutput := has ["c", "stdout"] || lists || tests
    forced := a.has "f"
    keeps := a.has "k"
    lists := lists
    quiet := a.last? ["q", "silent", "v"] ∈ [some ['q'], some "silent".toList]
    recursive := a.has "r"
    tests := tests
    verbose := a.last? ["q", "silent", "v"] = some ['v']
    nameless := match a.last? ["n", "N"] with
      | some ['n'] => true
      | some _ => false
      | none => unpacks
    level := ((a.last? ["1", "2", "3", "4", "5", "6", "7", "8", "9"]).bind Text.toNat?).getD 6
    suffix := (a.value? "S").getD ".gz" }

/-- Compress files, or decompress them, with options in front of those that are given. -/
def program (usual : List Text) : Routine := fun ts => do
  if !usual.isEmpty then Manual.tellAlone (ts.take 1)
  let p ← get
  let kept := (p.env.get? "GZIP").getD []
  if !kept.isEmpty then note "warning: GZIP environment variable is deprecated; use an alias or script"
  let own := p.name
  if !usual.isEmpty then modify fun p => { p with name := "gzip" }
  let words := (Text.split ' ' kept).filter (!·.isEmpty)
  let a ← match ← givenArguments flags true (words ++ usual ++ ts) with
    | .ok a => pure a
    | .error e => do
      note e
      seeHelp
  match a.options.find? fun o => ["h", "H", "V", "L"].any fun w => w.toList = o.1 with
  | some (['V'], _) => Manual.tell "version"
  | some (['L'], _) => Manual.tell "version"
  | some _ => Manual.tell "help"
  | none => pure ()
  modify fun p => { p with name := own }
  if a.has "Z" then
    note "-Z not supported in this version"
    seeHelp
  let k := ofArguments a
  if k.suffix.isEmpty || 30 < k.suffix.length then
    note ("invalid suffix '" ++ k.suffix ++ ['\''])
    throw (.exited 1)
  let (status, sizes) : Outcome ←
    if a.operands.isEmpty then k.runInput true
    else a.operands.foldlM (fun (outcome : Outcome) path => do
      let (status, sizes) ← k.runPath outcome.2.isEmpty removalDepth path
      return (worse outcome.1 status, outcome.2 ++ sizes)) (0, [])
  if k.lists && !k.quiet && 1 < a.operands.length && !sizes.isEmpty then
    let packed := (sizes.map (·.packed)).foldl (· + ·) 0
    let plain := (sizes.map (·.plain)).foldl (· + ·) 0
    let frame := (sizes.getLast?.map (·.frame)).getD 0
    if k.verbose then say (List.replicate 28 ' ')
    sayLine (sizeLine ⟨packed, plain, frame⟩ "(totals)")
  return status

end Compressing

end Rollout.Program
