import Rollout.Machine.Digest
import Rollout.Machine.Program.Input

/-!
Writing digests of files, and checking files against digests that were written.
-/

namespace Rollout.Program

open Unix

/-! ### Digests -/

/-- A digest. -/
structure DigestKind where
  /-- Its name. -/
  name : Text
  /-- The most bits that it has. -/
  bits : Nat
  /-- May it be shorter? -/
  varies : Bool
  /-- The digest of bytes in so many bits. -/
  digest : Nat → Text → Text

/-- How a file is summed up. -/
inductive Summary
  /-- By a sum that is turned, and the number of blocks. -/
  | turned
  /-- By a sum that is folded, and the number of blocks. -/
  | folded
  /-- By a remainder, and the number of bytes. -/
  | remainder
  /-- By a digest. -/
  | digest (k : DigestKind)

/-- The digests and their short names. -/
def digestKinds : List (String × DigestKind) :=
  [("md5", ⟨"MD5", 128, false, fun _ => Digest.md5⟩),
    ("sha1", ⟨"SHA1", 160, false, fun _ => Digest.sha1⟩),
    ("sha224", ⟨"SHA224", 224, false, fun _ => Digest.sha224⟩),
    ("sha256", ⟨"SHA256", 256, false, fun _ => Digest.sha256⟩),
    ("sha384", ⟨"SHA384", 384, false, fun _ => Digest.sha384⟩),
    ("sha512", ⟨"SHA512", 512, false, fun _ => Digest.sha512⟩),
    ("blake2b", ⟨"BLAKE2b", 512, true, Blake2.digest⟩),
    ("sm3", ⟨"SM3", 256, false, fun _ => Digest.sm3⟩)]

/-- All ways of summing up, by their names. -/
def summaries : List (String × Summary) :=
  [("bsd", .turned), ("sysv", .folded), ("crc", .remainder)] ++ digestKinds.map fun k => (k.1, .digest k.2)

/-! ### Lines -/

/-- A name in which a newline or a backslash stands behind a backslash, and whether there was one. -/
def escapedName (t : Text) : Text × Bool :=
  (t.flatMap fun c => match c with
    | '\\' => ['\\', '\\']
    | '\n' => ['\\', 'n']
    | '\r' => ['\\', 'r']
    | c => [c], t.any fun c => c = '\\' || c = '\n' || c = '\r')

/-- The name that was escaped, unless it cannot have been. -/
def originalName : Text → Option Text
  | [] => some []
  | '\\' :: 'n' :: cs => (originalName cs).map ('\n' :: ·)
  | '\\' :: 'r' :: cs => (originalName cs).map ('\r' :: ·)
  | '\\' :: '\\' :: cs => (originalName cs).map ('\\' :: ·)
  | '\\' :: _ => none
  | c :: cs => (originalName cs).map (c :: ·)

/-- The name as it is shown, with a mark in front if something in it was escaped. -/
def markedName (path : Text) : Text :=
  let (name, escaped) := escapedName path
  if escaped then '\\' :: name else name

/-- How lines are written. -/
structure LineStyle where
  /-- Does the name of the digest stand in front? -/
  tagged : Bool
  /-- Is there a star in front of the path? -/
  starred : Bool
  /-- What ends a line. -/
  ending : Char
  /-- The number of bits. -/
  bits : Nat

/-- The line for a file. -/
def digestLine (k : DigestKind) (s : LineStyle) (path t : Text) : Text :=
  let (name, escaped) := if s.ending = '\x00' then (path, false) else escapedName path
  let start : Text := if escaped then ['\\'] else []
  let sum := Digest.hex (k.digest s.bits t)
  let size := if s.bits < k.bits then '-' :: Text.ofNat s.bits else []
  if s.tagged then start ++ k.name ++ size ++ " (" ++ name ++ ") = " ++ sum ++ [s.ending]
  else start ++ sum ++ ' ' :: (if s.starred then '*' else ' ') :: name ++ [s.ending]

/-- Is the character a hexadecimal digit? -/
def isHexDigit (c : Char) : Bool := c.isDigit || ('a' ≤ c && c ≤ 'f') || ('A' ≤ c && c ≤ 'F')

/-- Is the character a space or a tab? -/
def isGap (c : Char) : Bool := c = ' ' || c = '\t'

/-- What a line says: the path, the digest, and its length in bits. -/
structure Claimed where
  /-- The path. -/
  path : Text
  /-- The digest in hexadecimal digits. -/
  sum : Text
  /-- The number of bits. -/
  bits : Nat
  /-- Did the path stand right behind one blank? -/
  isBare : Bool

/-- What a line says behind the name of the digest. -/
def readTagged (k : DigestKind) (t : Text) : Option Claimed := do
  let (bits, t) ← match t with
    | '-' :: cs =>
      if !k.varies then none
      else
        let ds := cs.takeWhile Char.isDigit
        match Text.toNat? ds with
        | some n => if n = 0 || n % 8 ≠ 0 || k.bits < n then none else some (n, cs.drop ds.length)
        | none => none
    | t => some (k.bits, t)
  let t := if t.head? = some ' ' then t.drop 1 else t
  if t.head? ≠ some '(' then none
  let backwards := (t.drop 1).reverse
  let sum := (backwards.takeWhile isHexDigit).reverse
  let before := (backwards.drop sum.length).dropWhile isGap
  if before.head? ≠ some '=' then none
  match (before.drop 1).dropWhile isGap with
  | ')' :: name => if sum.length * 4 = bits then some ⟨name.reverse, sum, bits, false⟩ else none
  | _ => none

/-- What a line says that starts with the digest. -/
def readUntagged (k : DigestKind) (t : Text) : Option Claimed := do
  let sum := t.takeWhile isHexDigit
  let bits := sum.length * 4
  if k.varies then if bits = 0 || bits % 8 ≠ 0 || k.bits < bits then none
  if !k.varies then if bits ≠ k.bits then none
  match t.drop sum.length with
  | blank :: rest =>
    if !isGap blank then none
    else match rest with
      | [] => none
      | [c] => some ⟨[c], sum, bits, true⟩
      | c :: name => if c = ' ' || c = '*' then some ⟨name, sum, bits, false⟩ else some ⟨rest, sum, bits, true⟩
  | [] => none

/-- What a line says and of which digest; one of these must be meant, by its name if lines must tell. -/
def readDigestLine (kinds : List DigestKind) (mustTell : Bool) (line : Text) : Option (DigestKind × Claimed) := do
  let t := line.dropWhile isGap
  let (escaped, t) := if t.head? = some '\\' then (true, t.drop 1) else (false, t)
  let named := kinds.find? fun k =>
    k.name.isPrefixOf t && ((t.drop k.name.length).head?.all fun c => c = ' ' || c = '(' || (k.varies && c = '-'))
  let (k, claimed) ← match named with
    | some k => (readTagged k (t.drop k.name.length)).map fun c => (k, c)
    | none =>
      if mustTell then none
      else kinds.head?.bind fun k => (readUntagged k t).map fun c => (k, c)
  if !escaped then some (k, claimed)
  else (originalName claimed.path).map fun name => (k, { claimed with path := name })

/-! ### Checking -/

/-- How files are checked. -/
structure Check where
  /-- The digests that lines may have. -/
  kinds : List DigestKind
  /-- Must lines tell which digest they have? -/
  mustTell : Bool
  /-- The name of the digest that is expected. -/
  expected : Text
  /-- Do missing files not matter? -/
  ignoresMissing : Bool
  /-- Does only the status tell the result? -/
  statusOnly : Bool
  /-- Is success not reported? -/
  quiet : Bool
  /-- Is each malformed line reported? -/
  warns : Bool
  /-- Do malformed lines count as failures? -/
  strict : Bool

/-- How many lines had what result. -/
structure Tally where
  /-- Lines that could be read. -/
  read : Nat
  /-- Lines that could not be read. -/
  malformed : Nat
  /-- Files that could not be read. -/
  missing : Nat
  /-- Files with another digest. -/
  wrong : Nat
  /-- Files with the digest. -/
  right : Nat

/-- How a list of digests is called in messages. -/
def listName (path : Text) : Text := if path = ['-'] then "'standard input'" else nameOf path

/-- Check files against the lines of a list, which have numbers. -/
def checkLines (c : Check) (list : Text) : Nat → List Text → Tally → Act Tally
  | _, [], n => return n
  | number, line :: lines, n => do
    let line := withoutEnd '\r' (withoutEnd '\n' line)
    if line = [] || line.head? = some '#' then checkLines c list (number + 1) lines n
    else match (readDigestLine c.kinds c.mustTell line).filter fun r => !(list = ['-'] && r.2.path = ['-']) with
    | none => do
      if c.warns then
        grumble (listName list ++ ": " ++ Text.ofNat number ++ ": improperly formatted " ++ c.expected
          ++ " checksum line")
      checkLines c list (number + 1) lines { n with malformed := n.malformed + 1 }
    | some (k, claimed) => do
      let n := { n with read := n.read + 1 }
      let report (t : String) : Act Unit := sayLine (markedName claimed.path ++ ": " ++ t.toList)
      match ← contentOf claimed.path with
      | .error e => do
        if c.ignoresMissing && e = describeFault .missing then checkLines c list (number + 1) lines n
        else
          grumble (nameOf claimed.path ++ ": " ++ e)
          if !c.statusOnly then report "FAILED open or read"
          checkLines c list (number + 1) lines { n with missing := n.missing + 1 }
      | .ok t =>
        if Digest.hex (k.digest claimed.bits t) = claimed.sum.map Char.toLower then
          if !c.statusOnly && !c.quiet then report "OK"
          checkLines c list (number + 1) lines { n with right := n.right + 1 }
        else
          if !c.statusOnly then report "FAILED"
          checkLines c list (number + 1) lines { n with wrong := n.wrong + 1 }

/-- Check files against the lines of a list that a path leads to. -/
def checkFile (c : Check) (path : Text) : Act Nat := do
  match ← contentOf path with
  | .error e => do
    grumble (nameOf path ++ ": " ++ e)
    return 1
  | .ok t => do
    let n ← checkLines c path 1 (fullLines t) ⟨0, 0, 0, 0, 0⟩
    if n.read = 0 then
      grumble (listName path ++ ": no properly formatted checksum lines found")
      return 1
    let warn (count : Nat) (one many : String) : Act Unit :=
      if count = 0 || c.statusOnly then pure ()
      else grumble ("WARNING: " ++ Text.ofNat count ++ ' ' :: (if count = 1 then one else many).toList)
    warn n.malformed "line is improperly formatted" "lines are improperly formatted"
    warn n.missing "listed file could not be read" "listed files could not be read"
    warn n.wrong "computed checksum did NOT match" "computed checksums did NOT match"
    if c.ignoresMissing && n.right = 0 && !c.statusOnly then grumble (listName path ++ ": no file was verified")
    return if n.right = 0 || n.missing ≠ 0 || n.wrong ≠ 0 || (c.strict && n.malformed ≠ 0) then 1 else 0

/-! ### Programs -/

/-- The line for a file that is summed up; its path is shown only if it was given. -/
def summaryLine (s : Summary) (style : LineStyle) (given : Bool) (path t : Text) : Text :=
  let name : Text := if given then ' ' :: path else []
  let blocks (size : Nat) : Text := Text.ofNat ((t.length + size - 1) / size)
  match s with
  | .turned =>
    let sum := Text.ofNat (Digest.turnedSum t)
    List.replicate (5 - sum.length) '0' ++ sum ++ ' ' :: padLeft 5 (blocks 1024) ++ name ++ [style.ending]
  | .folded => Text.ofNat (Digest.foldedSum t) ++ ' ' :: blocks 512 ++ name ++ [style.ending]
  | .remainder => Text.ofNat (Digest.crc t) ++ ' ' :: Text.ofNat t.length ++ name ++ [style.ending]
  | .digest k => digestLine k style path t

/-- Write the lines for files. -/
def summarize (s : Summary) (style : LineStyle) (paths : List Text) : Act Nat :=
  forEach (fun path => do
    match ← contentOf path with
    | .ok t => do
      say (summaryLine s style (paths ≠ []) path t)
      return 0
    | .error e => do
      grumble (nameOf path ++ ": " ++ e)
      return 1) (orInput paths)

/-- The options of checking. -/
def checkFlags : List Flag :=
  [.plain 'c' "check", .plain 'z' "zero", .wordOnly "tag", .wordOnly "quiet", .wordOnly "status",
    .wordOnly "strict", .plain 'w' "warn", .wordOnly "ignore-missing", .plain 'b' "binary", .plain 't' "text"]

/-- Refuse options that make no sense together. -/
def refuseMixed (a : Arguments) (ownTag : Bool) : Act Unit := do
  let checks := a.has "c"
  let verifying : Text := " when verifying checksums"
  if checks && a.has "z" then misused 1 ("the --zero option is not supported" ++ verifying)
  if checks && ownTag && a.has "tag" then misused 1 ("the --tag option is meaningless" ++ verifying)
  if checks && (a.has "b" || a.has "t") then
    misused 1 ("the --binary and --text options are meaningless" ++ verifying)
  for (key, word) in [("ignore-missing", "ignore-missing"), ("status", "status"), ("w", "warn"),
      ("quiet", "quiet"), ("strict", "strict")] do
    if !checks && a.has key then
      misused 1 ("the --" ++ word.toList ++ " option is meaningful only when verifying checksums")

/-- The check that options ask for. -/
def checkOf (a : Arguments) (kinds : List DigestKind) (mustTell : Bool) (expected : Text) : Check where
  kinds := kinds
  mustTell := mustTell
  expected := expected
  ignoresMissing := a.has "ignore-missing"
  statusOnly := a.last? ["status", "w", "quiet"] = some "status"
  quiet := a.last? ["status", "w", "quiet"] = some "quiet"
  warns := a.last? ["status", "w", "quiet"] = some ['w']
  strict := a.has "strict"

/-- The number of bits that an option asks for, zero if it does not matter. -/
def lengthAsked (a : Arguments) : Act Nat := do
  match a.value? "l" with
  | none => return 0
  | some t => match Text.toNat? t with
    | none => giveUp 1 ("invalid length: " ++ inQuotes t)
    | some n => do
      if n % 8 ≠ 0 then
        grumble ("invalid length: " ++ inQuotes t)
        giveUp 1 "length is not a multiple of 8"
      return n

/-- Refuse a length that is too great. -/
def refuseLong (k : DigestKind) (a : Arguments) (bits : Nat) : Act Unit := do
  if k.bits < bits then
    grumble ("invalid length: " ++ inQuotes ((a.value? "l").getD []))
    giveUp 1 ("maximum digest length for " ++ inQuotes k.name ++ " is " ++ Text.ofNat k.bits ++ " bits")

/-- Write the digests of files, or check them. -/
def digestProgram (k : DigestKind) : Routine := fun ts => do
  let a ← arguments (checkFlags ++ if k.varies then [.valued 'l' "length"] else []) true 1 ts
  let bits ← lengthAsked a
  refuseLong k a bits
  let tagged := a.has "tag"
  if tagged && a.last? ["tag", "b", "t"] = some ['t'] then misused 1 "--tag does not support --text mode"
  refuseMixed a true
  let starred := a.last? ["b", "t"] = some ['b']
  let style : LineStyle := ⟨tagged, starred, if a.has "z" then '\x00' else '\n', if bits = 0 then k.bits else bits⟩
  if a.has "c" then forEach (checkFile (checkOf a [k] false k.name)) (orInput a.operands)
  else summarize (.digest k) style a.operands

/-- The digests of which each has a program. -/
def digestKind? (name : Text) : Option DigestKind :=
  if name = "b2sum".toList then digestKinds.lookup "blake2b"
  else if "sum".toList.isSuffixOf name then
    (digestKinds.filter fun k => k.1 ≠ "blake2b" && k.1 ≠ "sm3").lookup (String.ofList (name.take (name.length - 3)))
  else none

/-- The digest of a way of summing up. -/
def Summary.digest? : Summary → Option DigestKind
  | .digest k => some k
  | _ => none

/-- Sum up files in one of all ways, or check them. -/
def cksum : Routine := fun ts => do
  let a ← arguments (checkFlags ++ ([.valued 'a' "algorithm", .valued 'l' "length", .wordOnly "untagged",
    .wordOnly "debug"] : List Flag)) true 1 ts
  let names := summaries.map (·.1)
  (a.values "a").forM fun name =>
    if names.contains (String.ofList name) then pure ()
    else refuseChoice 1 "invalid" name "--algorithm".toList (names.map fun n => [n])
  let s := ((a.value? "a").bind fun n => summaries.lookup (String.ofList n)).getD .remainder
  let bits ← lengthAsked a
  if s.digest?.isNone && a.has "c" && a.has "a" then
    giveUp 1 "--check is not supported with --algorithm=\x7bbsd,sysv,crc\x7d"
  if a.has "l" && bits ≠ 0 && !(s.digest?.any (·.varies)) then
    giveUp 1 "--length is only supported with --algorithm=blake2b"
  s.digest?.forM fun k => refuseLong k a bits
  let tagged := a.last? ["tag", "untagged"] ≠ some "untagged"
  if tagged && a.last? ["tag", "b", "t"] = some ['t'] then
    misused 1 "--text mode is only supported with --untagged"
  refuseMixed a false
  let starred := a.last? ["b", "t"] = some ['b']
  let size := (s.digest?.map (·.bits)).getD 0
  let style : LineStyle := ⟨tagged, starred, if a.has "z" then '\x00' else '\n', if bits = 0 then size else bits⟩
  if a.has "c" then
    let (kinds, expected) := match s.digest? with
      | some k => ([k], k.name)
      | none => (digestKinds.map (·.2), "CRC".toList)
    forEach (checkFile (checkOf a kinds (!a.has "a") expected)) (orInput a.operands)
  else summarize s style a.operands

/-- Sum up files by small sums. -/
def sum : Routine := fun ts => do
  let a ← arguments [.plain 'r' "", .plain 's' "sysv"] true 1 ts
  let s : Summary := if a.last? ["r", "s"] = some ['s'] then .folded else .turned
  summarize s ⟨false, false, '\n', 0⟩ a.operands

end Rollout.Program
