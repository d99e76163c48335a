import Rollout.Machine.Program.Input
import Rollout.Machine.Program.Scale

/-!
Copying in blocks: what is read is changed on the way, and put together to blocks of another size.
-/

namespace Rollout.Program

open Unix

/-! ### Numbers -/

/-- The bytes of a unit of blocks. -/
def blockUnit? (t : Text) : Option Nat :=
  match t with
  | ['c'] => some 1
  | ['w'] => some 2
  | [c] => if c = 'm' || c = 'g' || c = 't' then none else unitOf? t
  | t => unitOf? t

/-- A number of blocks or bytes that an operand gives. -/
structure Amount where
  /-- The number. -/
  number : Nat
  /-- Are bytes counted? -/
  bytes : Bool

/-- The number that a text denotes: a product of numbers with units; a B behind it says that bytes are counted. -/
def Amount.read? (t : Text) : Option Amount := do
  let parts : List (Nat × Bool) ← (Text.split 'x' t).mapM fun part => do
    let digits := part.takeWhile Char.isDigit
    let n ← Text.toNat? digits
    let rest := part.drop digits.length
    match blockUnit? rest with
    | some unit => some (n * unit, decide (rest.getLast? = some 'B'))
    | none =>
      if rest.getLast? = some 'B' then (blockUnit? rest.dropLast).map fun unit => (n * unit, true) else none
  return ⟨parts.foldl (fun n part => n * part.1) 1, (parts.getLast?.map (·.2)).getD false⟩

/-- The greatest size of what can be copied. -/
def maxCopied : Nat := 9223372036854775807

/-- The number, not below a least one, that an operand has. -/
def amountOf (least : Nat) (t : Text) : Act Amount := do
  if "0x".toList.isPrefixOf t then
    grumble "warning: '0x' is a zero multiplier; use '00x' if that is intended"
  match Amount.read? t with
  | none => giveUp 1 ("invalid number: " ++ inQuotes t)
  | some a =>
    if a.number < least then giveUp 1 ("invalid number: " ++ inQuotes t)
    else if maxCopied < a.number then
      giveUp 1 ("invalid number: " ++ inQuotes t ++ ": Value too large for defined data type")
    else return a

/-! ### Operands -/

/-- What is copied, and how. -/
structure Copying where
  /-- The file that is read. -/
  source : Option Text
  /-- The file that is written. -/
  target : Option Text
  /-- How large the blocks are that are read. -/
  inputSize : Nat
  /-- How large the blocks are that are written. -/
  outputSize : Nat
  /-- The size of both, if each block is written as it was read. -/
  both : Option Nat
  /-- How long the lines are that are made to blocks. -/
  lineSize : Nat
  /-- How much is copied. -/
  count : Option Amount
  /-- How much is left out at the start. -/
  skip : Amount
  /-- How much of the output is left as it is. -/
  seek : Amount
  /-- The conversions. -/
  conversions : List Text
  /-- What is said of reading. -/
  inputFlags : List Text
  /-- What is said of writing. -/
  outputFlags : List Text
  /-- How much is told about the copy. -/
  status : Text

namespace Copying

/-- Copying as it is usual. -/
def usual : Copying where
  source := none
  target := none
  inputSize := 512
  outputSize := 512
  both := none
  lineSize := 0
  count := none
  skip := ⟨0, false⟩
  seek := ⟨0, false⟩
  conversions := []
  inputFlags := []
  outputFlags := []
  status := []

/-- Is the conversion wanted? -/
def converts (k : Copying) (name : String) : Bool := k.conversions.contains name.toList

/-- The words of conversions. -/
def conversionWords : List String :=
  ["ascii", "ebcdic", "ibm", "block", "unblock", "lcase", "ucase", "sparse", "swab", "noerror", "nocreat", "excl",
    "notrunc", "sync", "fdatasync", "fsync"]

/-- The words that are said of reading as of writing. -/
def commonFlags : List String :=
  ["append", "binary", "cio", "direct", "directory", "dsync", "noatime", "nocache", "noctty", "nofollow", "nolinks",
    "nonblock", "sync", "text"]

/-- The words of a list, each of which is one of those that are known. -/
def wordsOf (what : String) (known : List String) (t : Text) : Act (List Text) :=
  (Text.split ',' t).mapM fun w =>
    if known.contains (String.ofList w) then return w else misused 1 (what.toList ++ ": " ++ inQuotes w)

/-- The copying after one more operand. -/
def after (k : Copying) (t : Text) : Act Copying := do
  let name := t.takeWhile (· ≠ '=')
  let value := t.drop (name.length + 1)
  let unknown : Act Copying := misused 1 ("unrecognized operand " ++ inQuotes t)
  if name.length = t.length then unknown
  else match String.ofList name with
    | "if" => return { k with source := some value }
    | "of" => return { k with target := some value }
    | "ibs" => return { k with inputSize := (← amountOf 1 value).number }
    | "obs" => return { k with outputSize := (← amountOf 1 value).number }
    | "bs" => return { k with both := some (← amountOf 1 value).number }
    | "cbs" => return { k with lineSize := (← amountOf 1 value).number }
    | "count" => return { k with count := some (← amountOf 0 value) }
    | "skip" => return { k with skip := ← amountOf 0 value }
    | "iseek" => return { k with skip := ← amountOf 0 value }
    | "seek" => return { k with seek := ← amountOf 0 value }
    | "oseek" => return { k with seek := ← amountOf 0 value }
    | "conv" => return { k with conversions := k.conversions ++ (← wordsOf "invalid conversion" conversionWords value) }
    | "iflag" => do
      let known := commonFlags ++ ["count_bytes", "fullblock", "skip_bytes"]
      return { k with inputFlags := k.inputFlags ++ (← wordsOf "invalid input flag" known value) }
    | "oflag" => do
      let known := commonFlags ++ ["seek_bytes"]
      return { k with outputFlags := k.outputFlags ++ (← wordsOf "invalid output flag" known value) }
    | "status" =>
      if ["none", "noxfer", "progress"].any fun w => w.toList = value then return { k with status := value }
      else misused 1 ("invalid status level: " ++ inQuotes value)
    | _ => unknown

/-- The copying with the sizes that count, unless its conversions exclude each other. -/
def settled (k : Copying) : Act Copying := do
  let k := match k.both with
    | some n => { k with
      inputSize := n
      outputSize := n }
    | none => k
  let k := if k.converts "ascii" then { k with conversions := k.conversions ++ ["unblock".toList] } else k
  let k := if k.converts "ebcdic" || k.converts "ibm" then
      { k with conversions := k.conversions ++ ["block".toList] }
    else k
  let k := if k.lineSize = 0 then
      { k with conversions := k.conversions.filter fun w => w ≠ "block".toList && w ≠ "unblock".toList }
    else k
  let tables := ["ascii", "ebcdic", "ibm"].filter k.converts
  if 1 < tables.length then giveUp 1 "cannot combine any two of \x7bascii,ebcdic,ibm\x7d"
  [("block", "unblock"), ("lcase", "ucase"), ("excl", "nocreat")].forM fun (a, b) =>
    if k.converts a && k.converts b then giveUp 1 ("cannot combine " ++ a.toList ++ " and " ++ b.toList)
    else pure ()
  return k

/-- Is each block written as it was read? -/
def isDirect (k : Copying) : Bool :=
  k.both.isSome && !(["ascii", "ebcdic", "ibm", "block", "unblock", "lcase", "ucase", "swab"].any k.converts)

/-- How many bytes an amount is, in blocks of a size. -/
def bytesOf (size : Nat) (flagged : Bool) (a : Amount) : Nat :=
  if a.bytes || flagged then a.number else a.number * size

/-! ### Conversions -/

/-- The characters of the other code, in order of the numbers of letters. -/
def otherCode : List Nat :=
  let digits := ("00010203372d2e2f1605250b0c0d0e0f101112133c3d322618193f271c1d1e1f405a7f7b5b6c507d4d5d5c4e6b604b61" ++
    "f0f1f2f3f4f5f6f7f8f97a5e4c7e6e6f7cc1c2c3c4c5c6c7c8c9d1d2d3d4d5d6d7d8d9e2e3e4e5e6e7e8e9ade0bd9a6d" ++
    "79818283848586878889919293949596979899a2a3a4a5a6a7a8a9c04fd05f0720212223241506172829" ++
    "2a2b2c090a1b30311a333435360838393a3b04143ee14142434445464748495152535455565758596263" ++
    "646566676869707172737475767778808a8b8c8d8e8f906a9b9c9d9e9fa0aaabac4aaeafb0b1b2b3b4b5b6b7b8b9babb" ++
    "bca1bebfcacbcccdcecfdadbdcdddedfeaebecedeeeffafbfcfdfeff").toList
  let rec pairs : Text → List Nat
    | a :: b :: rest => (16 * Rounded.hexValue a + Rounded.hexValue b) :: pairs rest
    | _ => []
  pairs digits

/-- The characters in which one maker's form of the other code differs from it. -/
def makersCode : List (Nat × Nat) :=
  [(0x5e, 0x5f), (0x7e, 0xa1), (0xcb, 0x9a), (0xd5, 0xad), (0xe5, 0xbd)]

/-- A character in the other code. -/
def toOtherCode (maker : Bool) (c : Char) : Char :=
  let n := c.toNat
  Char.ofNat (((if maker then makersCode.lookup n else none).or otherCode[n]?).getD n)

/-- A character of the other code. -/
def ofOtherCode (c : Char) : Char := Char.ofNat ((otherCode.idxOf? c.toNat).getD c.toNat)

/-- The text with each two neighbours in the other order. -/
def swapped : Text → Text
  | a :: b :: rest => b :: a :: swapped rest
  | t => t

/-- Lines as blocks of a size, and how many of them were cut. -/
def toBlocks (size : Nat) (t : Text) : Text × Nat :=
  let lines := (fullLines t).map (withoutEnd '\n')
  (lines.flatMap fun line => line.take size ++ List.replicate (size - line.length) ' ',
    (lines.filter fun line => size < line.length).length)

/-- The pieces of a text that have a size; the last may be shorter. -/
def piecesOf (size : Nat) (t : Text) : List Text :=
  if size = 0 then [t]
  else
    let rec go : Nat → Text → List Text
      | 0, _ => []
      | _, [] => []
      | fuel + 1, t => t.take size :: go fuel (t.drop size)
    go t.length t

/-- Blocks as lines without the blanks at their ends. -/
def ofBlocks (size : Nat) (t : Text) : Text :=
  (piecesOf size t).flatMap fun block => (block.reverse.dropWhile (· = ' ')).reverse ++ ['\n']

/-- What is written for what was read, and how many lines were cut. -/
def converted (k : Copying) (t : Text) : Text × Nat :=
  let t := if k.converts "ascii" then t.map ofOtherCode else t
  let t := if k.converts "lcase" then t.map Char.toLower else t
  let t := if k.converts "ucase" then t.map Char.toUpper else t
  let t := if k.converts "ebcdic" || k.converts "ibm" then t.map (toOtherCode (k.converts "ibm")) else t
  let t := if k.converts "swab" then swapped t else t
  if k.converts "block" then toBlocks k.lineSize t
  else if k.converts "unblock" then (ofBlocks k.lineSize t, 0)
  else (t, 0)

/-! ### Reading -/

/-- Read blocks, so many at most and then so many bytes; gives them with the latest first. -/
def readBlocks (k : Copying) (last : Nat) : Nat → List Text → Act (List Text)
  | 0, blocks => do
    if last = 0 then return blocks
    let t ← readReady 0 last
    return if t.isEmpty then blocks else t :: blocks
  | fuel + 1, blocks => do
    let t ← if k.inputFlags.contains "fullblock".toList then readSome 0 k.inputSize else readReady 0 k.inputSize
    if t.isEmpty then return blocks else readBlocks k last fuel (t :: blocks)

/-- How many blocks are read at most, and how many bytes after them. -/
def limits (k : Copying) : Act (Nat × Nat) := do
  match k.count with
  | some a =>
    if a.bytes || k.inputFlags.contains "count_bytes".toList then
      return (a.number / k.inputSize, a.number % k.inputSize)
    else return (a.number, 0)
  | none => match (← get).descriptors.lookup 0 with
    | some (.device _) => return (endless / k.inputSize + 1, 0)
    | _ => return (maxCopied, 0)

/-- Leave out bytes of the input; tells whether there were so many. -/
def skipInput (bytes : Nat) : Act Bool := do
  if bytes = 0 then return true
  let t ← readSome 0 bytes
  return t.length = bytes

/-! ### Writing -/

/-- Open what is written, with its start as it is where that is wanted; gives the reason if that is not possible. -/
def openTarget (k : Copying) (path : Text) : Act (Option Text) := do
  let p ← get
  let isThere := (p.find? path).isSome
  if k.converts "excl" && isThere then return some "File exists"
  if k.converts "nocreat" && !isThere then return some (describeFault .missing)
  let keeps := k.converts "notrunc"
  let start := bytesOf k.outputSize (k.outputFlags.contains "seek_bytes".toList) k.seek
  let access : Access :=
    if k.outputFlags.contains "append".toList then .extend
    else if keeps || 0 < start then .update
    else .replace
  match ← openPath access path with
  | .error e => return some e
  | .ok .directory => return some "Is a directory"
  | .ok d => do
    modify fun p => { p with descriptors := (1, d) :: p.descriptors.filter (·.1 ≠ 1) }
    if !keeps && 0 < start then match p.root.placeFor p.cwd path with
      | .ok place => match (← get).root.at? place with
        | some (.file ..) =>
          change (·.rewrite (fun data => data.take start ++ List.replicate (start - data.length) 0) place)
        | _ => pure ()
      | .error _ => pure ()
    return none

/-- Go on so many bytes in what is written. -/
def skipOutput (bytes : Nat) : Act Unit := do
  match (← get).descriptors.lookup 1 with
  | some (.file i) => change fun s => { s with handles := s.handles.modify i fun h => { h with
      offset := h.offset + bytes
      rest := none } }
  | _ => pure ()

/-! ### Telling about the copy -/

/-- A number in the greatest unit of which it has at least one, rounded to the nearest, with a digit behind the point
if it has fewer tenths than a limit. -/
def nearest (limit base : Nat) (unit : String) (n : Nat) : Text :=
  let rec go (n size : Nat) : Text → Text
    | [] => Text.ofNat n
    | letter :: rest =>
      let tenths := (10 * n + size / 2) / size
      let whole := (n + size / 2) / size
      let shown (digits : Text) : Text := digits ++ ' ' :: letter :: unit.toList
      if tenths < limit then shown (Text.ofNat (tenths / 10) ++ '.' :: Text.ofNat (tenths % 10))
      else if whole < base || rest = [] then shown (Text.ofNat whole)
      else go n (size * base) rest
  go n base (Scale.letters base)

/-- The line about what was copied. -/
def summary (bytes : Nat) : Text :=
  let large : Text := nearest 100 1000 "B" bytes
  let size : Text :=
    if bytes < 1000 then []
    else if bytes < 1024 then " (" ++ large ++ ")"
    else " (" ++ large ++ ", " ++ nearest 100 1024 "iB" bytes ++ ")"
  Text.ofNat bytes ++ (if bytes = 1 then " byte" else " bytes") ++ size ++ " copied, 0.0001 s, "
    ++ nearest 1000 1000 "B" (10000 * bytes) ++ "/s"

/-- How many blocks have the size, and how many others there are. -/
def tally (size : Nat) (blocks : List Text) : Text :=
  let (full, part) := blocks.partition fun b => b.length = size
  Text.ofNat full.length ++ '+' :: Text.ofNat part.length

/-- Tell about the copy. -/
def report (k : Copying) (read written : List Text) (cut : Nat) : Act Unit := do
  if k.status = "none" then return
  complain (tally k.inputSize read ++ " records in")
  complain (tally k.outputSize written ++ " records out")
  if 0 < cut then complain (Text.ofNat cut ++ (if cut = 1 then " truncated record" else " truncated records"))
  if k.status ≠ "noxfer" then complain (summary written.flatten.length)

/-- A block with what fills it. -/
def filled (k : Copying) (block : Text) : Text :=
  if k.converts "sync" then
    let filler := if k.converts "block" || k.converts "unblock" then ' ' else '\x00'
    block ++ List.replicate (k.inputSize - block.length) filler
  else block

end Copying

/-- Copy in blocks. -/
def dd : Routine := fun ts => do
  let a ← arguments [] true 1 ts
  let k ← (← a.operands.foldlM Copying.after .usual).settled
  match k.source with
  | none => pure ()
  | some path => match ← openPath .read path with
    | .ok d => modify fun p => { p with descriptors := (0, d) :: p.descriptors.filter (·.1 ≠ 0) }
    | .error e => giveUp 1 ("failed to open " ++ inQuotes path ++ ": " ++ e)
  match k.target with
  | none => pure ()
  | some path => match ← k.openTarget path with
    | none => pure ()
    | some e => giveUp 1 ("failed to open " ++ inQuotes path ++ ": " ++ e)
  let inputName := (k.source.map nameOf).getD "'standard input'"
  let enough ← Copying.skipInput (Copying.bytesOf k.inputSize (k.inputFlags.contains "skip_bytes".toList) k.skip)
  if !enough && k.status ≠ "none" then grumble (inputName ++ ": cannot skip to specified offset")
  Copying.skipOutput (Copying.bytesOf k.outputSize (k.outputFlags.contains "seek_bytes".toList) k.seek)
  let fault := (← get).inputFault? 0
  let (most, last) ← k.limits
  match fault with
  | some e => if 0 < most + last then
      grumble ("error reading " ++ inQuotes (k.source.getD "standard input") ++ ": " ++ e)
      k.report [] [] 0
      throw (.exited 1)
  | none => pure ()
  let blocks := (← k.readBlocks last most []).reverse
  let (text, cut) := k.converted (blocks.flatMap k.filled)
  let written := if k.isDirect then blocks.map k.filled else Copying.piecesOf k.outputSize text
  match ← tryWrite 1 text with
  | none => do
    k.report blocks written cut
    return 0
  | some e => do
    grumble ("error writing " ++ inQuotes (k.target.getD "standard output") ++ ": " ++ e)
    k.report (blocks.take 1) [] 0
    return 1

end Rollout.Program
