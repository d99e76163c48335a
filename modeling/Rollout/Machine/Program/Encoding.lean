import Rollout.Machine.Program.Input

/-!
Writing bytes in alphabets of printed characters: several bits in each character, or four bytes in five characters.
-/

namespace Rollout.Program

open Unix

/-- An alphabet in whose characters bytes are written. -/
structure Alphabet where
  /-- The characters, in the order of their values. -/
  characters : Text
  /-- How many bits a character stands for. -/
  bits : Nat
  /-- How many characters stand together, filled up with equals signs; alone they need none. -/
  group : Nat
  /-- Does the lowest bit of a byte come first? -/
  lowFirst : Bool

namespace Alphabet

/-- The letters. -/
def letters : Text := "ABCDEFGHIJKLMNOPQRSTUVWXYZ".toList

/-- The digits. -/
def digits : Text := "0123456789".toList

/-- Letters of both kinds and digits. -/
def alphanumeric : Text := letters ++ letters.map Char.toLower ++ digits

/-- 64 characters. -/
def sixtyFour : Alphabet := ⟨alphanumeric ++ ['+', '/'], 6, 4, false⟩

/-- 64 characters that file names may have. -/
def sixtyFourNames : Alphabet := ⟨alphanumeric ++ ['-', '_'], 6, 4, false⟩

/-- 32 characters, letters first. -/
def thirtyTwo : Alphabet := ⟨letters ++ "234567".toList, 5, 8, false⟩

/-- 32 characters, digits first. -/
def thirtyTwoDigits : Alphabet := ⟨digits ++ letters.take 22, 5, 8, false⟩

/-- The hexadecimal digits. -/
def sixteen : Alphabet := ⟨digits ++ letters.take 6, 4, 1, false⟩

/-- The digits of bits. -/
def two (lowFirst : Bool) : Alphabet := ⟨digits.take 2, 1, 1, lowFirst⟩

/-- The bits of a byte, in the order in which they are written. -/
def bitsOf (a : Alphabet) (c : Char) : List Bool :=
  let bits := (List.range 8).map fun i => c.toNat.testBit i
  if a.lowFirst then bits else bits.reverse

/-- The number that bits make up, the first counting most. -/
def valueOf (bits : List Bool) : Nat := bits.foldl (fun n b => 2 * n + b.toNat) 0

/-- The byte that eight bits make up. -/
def byteOf (a : Alphabet) (bits : List Bool) : Char := Char.ofNat (valueOf (if a.lowFirst then bits.reverse else bits))

/-- The characters for bits, so many in each. -/
def charactersFor (a : Alphabet) : Nat → List Bool → Text
  | 0, _ => []
  | _, [] => []
  | fuel + 1, bits =>
    let some := bits.take a.bits
    let value := valueOf (some ++ List.replicate (a.bits - some.length) false)
    a.characters.getD value '=' :: a.charactersFor fuel (bits.drop a.bits)

/-- Bytes as they are written. -/
def encode (a : Alphabet) (t : Text) : Text :=
  let written := a.charactersFor (8 * t.length + 1) (t.flatMap a.bitsOf)
  written ++ List.replicate ((a.group - written.length % a.group) % a.group) '='

/-- Is the character one of the alphabet? -/
def covers (a : Alphabet) (c : Char) : Bool := a.characters.contains c

/-- The bits that characters stand for. -/
def bitsFrom (a : Alphabet) (t : Text) : List Bool :=
  t.flatMap fun c =>
    let value := (a.characters.idxOf? c).getD 0
    ((List.range a.bits).map fun i => value.testBit i).reverse

/-- The bytes in bits; those that make up no whole byte are left out. -/
def bytesFrom (a : Alphabet) : Nat → List Bool → Text
  | 0, _ => []
  | n + 1, bits => a.byteOf (bits.take 8) :: a.bytesFrom n (bits.drop 8)

/-- The bytes that characters stand for. -/
def bytesOf (a : Alphabet) (t : Text) : Text := a.bytesFrom (t.length * a.bits / 8) (a.bitsFrom t)

/-- The bytes in groups of characters, and whether all groups are as they have to be. -/
def decodeGroups (a : Alphabet) : Nat → Text → Text × Bool
  | 0, _ => ([], false)
  | _, [] => ([], true)
  | fuel + 1, t =>
    let group := t.take a.group
    let own := group.takeWhile a.covers
    let bytes := a.bytesOf own
    let isWhole := group.length = a.group
    let isEnough := own.length ≠ 0 && (own.length * a.bits) % 8 < a.bits
    if isWhole && isEnough && (group.drop own.length).all (· = '=') then
      let (rest, ok) := a.decodeGroups fuel (t.drop a.group)
      (bytes ++ rest, ok)
    else (if isWhole || a.group = 4 then bytes else [], false)

/-- The bytes that are written in characters, and whether these are as they have to be. -/
def decode (a : Alphabet) (t : Text) : Text × Bool :=
  let t := t.filter (· ≠ '\n')
  if a.group = 1 then
    let own := t.takeWhile a.covers
    (a.bytesOf own, own.length = t.length && own.length * a.bits % 8 = 0)
  else a.decodeGroups (t.length + 1) t

end Alphabet

/-! ### Four bytes in five characters -/

/-- The 85 characters. -/
def eightyFive : Text :=
  Alphabet.digits ++ Alphabet.letters.map Char.toLower ++ Alphabet.letters ++ ".-:+=^!/*?&<>()[]\x7b\x7d@%$#".toList

/-- Bytes in the 85 characters; their number must be a multiple of four. -/
def encode85 : Text → Option Text
  | [] => some []
  | a :: b :: c :: d :: rest =>
    let n := ((a.toNat * 256 + b.toNat) * 256 + c.toNat) * 256 + d.toNat
    let digit (unit : Nat) : Char := eightyFive.getD (n / unit % 85) '#'
    (encode85 rest).map ([digit 52200625, digit 614125, digit 7225, digit 85, digit 1] ++ ·)
  | _ => none

/-- The bytes that are written in the 85 characters, and whether these are as they have to be. -/
def decode85 : Text → Text × Bool
  | [] => ([], true)
  | a :: b :: c :: d :: e :: rest =>
    match [a, b, c, d, e].mapM (eightyFive.idxOf? ·) with
    | none => ([], false)
    | some ds =>
      let n := ds.foldl (fun n d => 85 * n + d) 0
      if 4294967296 ≤ n then ([], false)
      else
        let (t, ok) := decode85 rest
        ([n / 16777216, n / 65536 % 256, n / 256 % 256, n % 256].map Char.ofNat ++ t, ok)
  | _ => ([], false)

/-! ### The programs -/

/-- A way to write bytes. -/
structure Encoding where
  /-- The characters that are used. -/
  covers : Char → Bool
  /-- Bytes as they are written, if they can be. -/
  encode : Text → Option Text
  /-- What is written, and whether it is as it has to be. -/
  decode : Text → Text × Bool

/-- Writing in an alphabet. -/
def Encoding.ofAlphabet (a : Alphabet) : Encoding := ⟨a.covers, fun t => some (a.encode t), a.decode⟩

/-- Writing in the 64 characters that names may have; those that they may not have are not suffered at all. -/
def Encoding.ofNames : Encoding :=
  let e := Encoding.ofAlphabet .sixtyFourNames
  { e with decode := fun t => if t.any fun c => c = '+' || c = '/' then ([], false) else e.decode t }

/-- Writing in the 85 characters. -/
def Encoding.fives : Encoding := ⟨eightyFive.contains, encode85, fun t => decode85 (t.filter (· ≠ '\n'))⟩

/-- The text in lines of a length, or in none. -/
def wrapped (width : Nat) (t : Text) : Text :=
  if width = 0 then t
  else
    let (line, k) := t.foldl (fun (line, k) c => if k = width then (c :: '\n' :: line, 1) else (c :: line, k + 1)) ([], 0)
    (if k = 0 then line else '\n' :: line).reverse

/-- The options that all these programs have. -/
def encodingFlags : List Flag := [.plain 'd' "decode", .plain 'i' "ignore-garbage", .valued 'w' "wrap"]

/-- Write the bytes of a file, or the bytes for what is written there. -/
def transcribe (e : Encoding) (a : Arguments) : Act Nat := do
  let width ← match a.value? "w" with
    | none => pure 76
    | some v => match Text.toNat? v with
      | some n => pure n
      | none => giveUp 1 ("invalid wrap size: " ++ inQuotes v)
  match a.operands.drop 1 with
  | extra :: _ => misused 1 ("extra operand " ++ inQuotes extra)
  | [] => pure ()
  let path := a.operands.headD ['-']
  match ← contentOf path with
  | .error e => giveUp 1 ((if e = "Is a directory".toList then "read error".toList else nameOf path) ++ ": " ++ e)
  | .ok t =>
    if a.has "d" then
      let (bytes, ok) := e.decode (if a.has "i" then t.filter fun c => c = '\n' || e.covers c || c = '=' else t)
      say bytes
      if ok then return 0 else giveUp 1 "invalid input"
    else match e.encode t with
      | some written => do
        say (wrapped width written)
        return 0
      | none => giveUp 1 "invalid input (length must be multiple of 4 characters)"

/-- Write bytes in 64 characters, or the bytes for what is written so. -/
def base64 : Routine := fun ts => do
  transcribe (.ofAlphabet .sixtyFour) (← arguments encodingFlags true 1 ts)

/-- Write bytes in 32 characters, or the bytes for what is written so. -/
def base32 : Routine := fun ts => do
  transcribe (.ofAlphabet .thirtyTwo) (← arguments encodingFlags true 1 ts)

/-- The ways to write bytes, by their names. -/
def encodings : List (String × Encoding) :=
  [("base64", .ofAlphabet .sixtyFour), ("base64url", .ofNames), ("base32", .ofAlphabet .thirtyTwo),
    ("base32hex", .ofAlphabet .thirtyTwoDigits), ("base16", .ofAlphabet .sixteen),
    ("base2msbf", .ofAlphabet (.two false)), ("base2lsbf", .ofAlphabet (.two true)), ("z85", .fives)]

/-- Write bytes in a way that has a name, or the bytes for what is written so. -/
def basenc : Routine := fun ts => do
  let a ← arguments (encodingFlags ++ encodings.map fun e => .wordOnly e.1) true 1 ts
  match (a.last? (encodings.map (·.1))).bind fun name => encodings.lookup (String.ofList name) with
  | some e => transcribe e a
  | none => misused 1 "missing encoding type"

end Rollout.Program
