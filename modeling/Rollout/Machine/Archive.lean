import Rollout.Text.Basic

/-!
Archives of files. An archive is made of blocks of one size: for each file a header, and then what the file holds,
filled up with zeros. Two blocks of zeros end it. What is found when one is read is a list of events, so that what is
wrong with an archive is met only after the members in front of it.
-/

namespace Rollout.Archive

/-- What kind of thing is in an archive. -/
inductive Kind
  | file
  | hardLink
  | symbolicLink
  | characterDevice
  | blockDevice
  | directory
  | pipe
  /-- The name of the archive itself. -/
  | label
  | other (c : Char)
  deriving DecidableEq

/-- The mark of a kind in a header. -/
def Kind.mark : Kind → Char
  | file => '0'
  | hardLink => '1'
  | symbolicLink => '2'
  | characterDevice => '3'
  | blockDevice => '4'
  | directory => '5'
  | pipe => '6'
  | label => 'V'
  | other c => c

/-- The kind that a mark stands for. -/
def Kind.ofMark (c : Char) : Kind :=
  if c = '\x00' || c = '0' || c = '7' then file
  else ([hardLink, symbolicLink, characterDevice, blockDevice, directory, pipe, label].find? (·.mark = c)).getD (other c)

/-- A file in an archive. -/
structure Member where
  /-- The name. -/
  name : Text
  /-- What it is. -/
  kind : Kind
  /-- Where a link leads to. -/
  target : Text
  /-- The permissions. -/
  mode : Nat
  /-- The number of the owner. -/
  owner : Nat
  /-- The number of the group. -/
  group : Nat
  /-- The name of the owner. -/
  ownerName : Text
  /-- The name of the group. -/
  groupName : Text
  /-- When it was changed, in seconds. -/
  changed : Int
  /-- How many bytes it holds. -/
  size : Nat
  /-- The bytes. -/
  data : Text
  /-- The numbers of a device. -/
  device : Nat × Nat

/-- How headers are written. -/
inductive Style
  /-- Long names have an entry of their own. -/
  | open
  /-- Long names are divided at a slash. -/
  | divided
  /-- There are no long names. -/
  | plain
  deriving DecidableEq

/-- Why a file cannot be in an archive. -/
inductive NameFault
  /-- The name is longer than the greatest length. -/
  | tooLong (most : Nat)
  /-- There is no slash at which the name could be divided. -/
  | undivided
  /-- The path of a link is too long. -/
  | longTarget

/-- The size of a block. -/
def blockSize : Nat := 512

/-- How long a name can be that stands in the header. -/
def nameSize : Nat := 100

/-- How long the part of a name can be that stands apart in the header. -/
def frontSize : Nat := 155

/-- A text filled up with zeros to a length. -/
def field (n : Nat) (t : Text) : Text := t.take n ++ List.replicate (n - t.length) '\x00'

/-- A number in octal digits, filled up to a length of which one is for the zero behind it. -/
def numberField (width n : Nat) : Text :=
  let digits := Nat.toDigits 8 (n % Nat.pow 8 (width - 1))
  List.replicate (width - 1 - digits.length) '0' ++ digits ++ ['\x00']

/-- A time, with a mark in front if it lies before the first one that digits can tell. -/
def timeField (n : Int) : Text :=
  if 0 ≤ n then numberField 12 n.toNat
  else (List.range 12).reverse.map fun i => Char.ofNat ((n / Int.pow 256 i) % 256).toNat

/-- A text filled up with zeros to whole blocks. -/
def filled (size : Nat) (t : Text) : Text := t ++ List.replicate ((size - t.length % size) % size) '\x00'

/-- The sum of the bytes of a header, where blanks stand in the place of the sum. -/
def sumOf (block : Text) : Nat :=
  ((block.take 148 ++ List.replicate 8 ' ' ++ block.drop 156).map Char.toNat).foldl (· + ·) 0

/-- The header in which names are cut to what fits. -/
def headerBlock (style : Style) (front : Text) (m : Member) : Text :=
  let mark := if style = .plain && m.kind = .file then '\x00' else m.kind.mark
  let before := field nameSize m.name ++ numberField 8 m.mode ++ numberField 8 m.owner ++ numberField 8 m.group
    ++ numberField 12 m.size ++ timeField m.changed
  let names := field 32 m.ownerName ++ field 32 m.groupName
  let device := if m.kind = .characterDevice || m.kind = .blockDevice then
      numberField 8 m.device.1 ++ numberField 8 m.device.2
    else []
  let after := field nameSize m.target ++ match style with
    | .open => "ustar  \x00" ++ names ++ device
    | .divided => "ustar\x0000" ++ names ++ field 16 device ++ front
    | .plain => []
  let block := field blockSize (before ++ List.replicate 8 ' ' ++ mark :: after)
  let sum := Nat.toDigits 8 (sumOf block)
  before ++ List.replicate (6 - sum.length) '0' ++ sum ++ '\x00' :: ' ' :: block.drop 156

/-- The entry for a text that is too long for a header. -/
def longEntry (mark : Char) (t : Text) : Text :=
  let data := t ++ ['\x00']
  let m : Member := ⟨"././@LongLink", .other mark, [], 0o644, 0, 0, "root", "root", 0, data.length, data, (0, 0)⟩
  headerBlock .open [] m ++ filled blockSize data

/-- The two parts of a long name. -/
def divided (name : Text) : Except NameFault (Text × Text) :=
  if frontSize + nameSize + 1 < name.length then .error (.tooLong (frontSize + nameSize + 1))
  else
    let window := name.take (min (frontSize + 1) (if name.getLast? = some '/' then name.length - 1 else name.length))
    let front := (window.reverse.dropWhile (· ≠ '/')).reverse
    let rest := name.drop front.length
    if front.length ≤ 1 || nameSize < rest.length then .error .undivided else .ok (front.dropLast, rest)

/-- A member as it is written. -/
def Member.written (style : Style) (m : Member) : Except NameFault Text := do
  let data := filled blockSize m.data
  match style with
  | .open =>
    let long (mark : Char) (t : Text) : Text := if nameSize < t.length then longEntry mark t else []
    return long 'K' m.target ++ long 'L' m.name ++ headerBlock style [] m ++ data
  | .divided =>
    if nameSize < m.target.length then throw .longTarget
    if m.name.length ≤ nameSize then return headerBlock style [] m ++ data
    let (front, rest) ← divided m.name
    return headerBlock style front { m with name := rest } ++ data
  | .plain =>
    if nameSize - 1 < m.target.length then throw .longTarget
    if nameSize - 1 < m.name.length then throw (.tooLong (nameSize - 1))
    return headerBlock style [] m ++ data

/-- An archive of members as they are written, filled up to whole records. -/
def ofParts (recordSize : Nat) (parts : List Text) : Text :=
  filled recordSize (parts.flatten ++ List.replicate (2 * blockSize) '\x00')

/-! ### Reading -/

/-- What is found in an archive. -/
inductive Event
  /-- A member that starts at a block, with all that is written for it; tells whether its bytes are all there. -/
  | member (block : Nat) (m : Member) (raw : Text) (whole : Bool)
  /-- The two blocks of zeros at the end. -/
  | zeros (block : Nat)
  /-- Only one block of zeros. -/
  | loneZero (block : Nat)
  /-- A block that is no header; tells whether it is the first one. -/
  | junk (isFirst : Bool)

/-- The number in a field: digits, or bytes behind a mark. -/
def numberIn (t : Text) : Option Int :=
  match t with
  | '\x80' :: bytes => some (bytes.foldl (fun n c => 256 * n + (c.toNat : Int)) 0)
  | '\xff' :: bytes => some (bytes.foldl (fun n c => 256 * n + (c.toNat : Int)) (-1))
  | t =>
    let digits := ((t.dropWhile (· = ' ')).takeWhile fun c => '0' ≤ c && c ≤ '7')
    let rest := (t.dropWhile (· = ' ')).drop digits.length
    if rest.head?.all fun c => c = ' ' || c = '\x00' then
      some (digits.foldl (fun (n : Int) c => 8 * n + ((c.toNat - '0'.toNat : Nat) : Int)) 0)
    else none

/-- The text in a field. -/
def textIn (t : Text) : Text := t.takeWhile (· ≠ '\x00')

/-- The member whose header a block is, without its bytes. -/
def readHeader (block : Text) : Option Member := do
  let part (start size : Nat) : Text := (block.drop start).take size
  let sum ← numberIn (part 148 8)
  if sum ≠ (sumOf block : Int) then none
  let number (start size : Nat) : Nat := ((numberIn (part start size)).getD 0).toNat
  let magic := part 257 6
  let isKnown := magic = "ustar\x00" || magic = "ustar "
  let front := if magic = "ustar\x00" then textIn (part 345 frontSize) else []
  let name := textIn (part 0 nameSize)
  let kind := Kind.ofMark (block.getD 156 '0')
  return {
    name := if front.isEmpty then name else front ++ '/' :: name
    kind := if kind = .file && name.getLast? = some '/' then .directory else kind
    target := textIn (part 157 nameSize)
    mode := number 100 8 % 0o10000
    owner := number 108 8
    group := number 116 8
    ownerName := if isKnown then textIn (part 265 32) else []
    groupName := if isKnown then textIn (part 297 32) else []
    changed := (numberIn (part 136 12)).getD 0
    size := number 124 12
    data := []
    device := (number 329 8, number 337 8) }

/-- What stands in front of a header and changes its member. -/
structure Preface where
  /-- The name. -/
  name : Option Text
  /-- Where a link leads to. -/
  target : Option Text
  /-- How many bytes it holds. -/
  size : Option Nat
  /-- When it was changed. -/
  changed : Option Int

/-- Nothing in front. -/
def Preface.none : Preface := ⟨.none, .none, .none, .none⟩

/-- A preface with one more word and its value. -/
def Preface.with (p : Preface) (key value : Text) : Preface :=
  match String.ofList key with
  | "path" => { p with name := some value }
  | "linkpath" => { p with target := some value }
  | "size" => { p with size := Text.toNat? value }
  | "mtime" => { p with changed := (Text.toNat? (value.takeWhile Char.isDigit)).map fun n => (n : Int) }
  | _ => p

/-- A preface with records, each a length, a word and its value. -/
def Preface.withRecords : Nat → Preface → Text → Preface
  | 0, p, _ => p
  | fuel + 1, p, t =>
    let digits := t.takeWhile Char.isDigit
    match Text.toNat? digits with
    | .none => p
    | some n =>
      let item := ((t.take n).drop (digits.length + 1)).dropLast
      let key := item.takeWhile (· ≠ '=')
      if n ≤ digits.length then p else withRecords fuel (p.with key (item.drop (key.length + 1))) (t.drop n)

/-- The member with what stands in front of it. -/
def Preface.apply (p : Preface) (m : Member) : Member :=
  { m with
    name := p.name.getD m.name
    target := p.target.getD m.target
    size := p.size.getD m.size
    changed := p.changed.getD m.changed }

/-- Where in an archive something is read. -/
structure Place where
  /-- The number of the block. -/
  block : Nat
  /-- Is nothing read so far? -/
  isFirst : Bool
  /-- Was the last block no header? -/
  lost : Bool
  /-- What stands in front of the next header. -/
  preface : Preface
  /-- As it is written. -/
  raw : Text

/-- What is found in an archive; blocks of zeros may be no end. -/
def events (overZeros : Bool) : Nat → Place → Text → List Event
  | 0, _, _ => []
  | fuel + 1, p, t =>
    let block := t.take blockSize
    let rest := t.drop blockSize
    let isZero (b : Text) : Bool := b.length = blockSize && b.all (· = '\x00')
    if block.length < blockSize then []
    else if isZero block then
      if overZeros then events overZeros fuel { p with block := p.block + 1 } rest
      else if isZero (rest.take blockSize) then [.zeros p.block]
      else [.loneZero (p.block + 1)]
    else match readHeader block with
      | none =>
        let next := events overZeros fuel ⟨p.block + 1, false, true, .none, []⟩ rest
        if p.lost then next else .junk p.isFirst :: next
      | some m =>
        let m := p.preface.apply m
        let size := if m.kind = .hardLink || m.kind = .symbolicLink || m.kind = .directory || m.kind = .label then 0
          else m.size
        let count := (size + blockSize - 1) / blockSize
        let data := rest.take size
        let raw := p.raw ++ block ++ rest.take (count * blockSize)
        let whole := count * blockSize ≤ rest.length
        let after := rest.drop (count * blockSize)
        let ahead (preface : Preface) : List Event :=
          events overZeros fuel ⟨p.block + 1 + count, false, false, preface, raw⟩ after
        match m.kind with
        | .other 'L' => ahead { p.preface with name := some (textIn data) }
        | .other 'K' => ahead { p.preface with target := some (textIn data) }
        | .other 'x' => ahead (p.preface.withRecords data.length data)
        | .other 'g' => ahead p.preface
        | _ =>
          let data := if whole then data else data.take (data.length / blockSize * blockSize)
          let m := { m with
            data := data
            size := size }
          .member p.block m raw whole ::
            (if whole then events overZeros fuel ⟨p.block + 1 + count, false, false, .none, []⟩ after else [])

/-- What is found in an archive. -/
def eventsOf (overZeros : Bool) (t : Text) : List Event :=
  events overZeros (t.length / blockSize + 1) ⟨0, true, false, .none, []⟩ t

end Rollout.Archive
