import Rollout.Machine.Program.Perl.Value
import Rollout.Text.Utf8

/-!
Values packed into bytes and taken out of them again, as letters with counts say.
-/

namespace Rollout.Program.Perl

/-- How often a letter counts. -/
inductive Amount
  /-- Once, as nothing is said. -/
  | usual
  /-- So many times. -/
  | count (n : Nat)
  /-- As often as there is something. -/
  | all

/-- A letter with how often it counts. -/
structure PackItem where
  /-- The letter. -/
  letter : Char
  /-- Are the high bytes first, or last, if that is said? -/
  order : Option Bool
  /-- How often it counts. -/
  amount : Amount

/-- The letters of a template. -/
def packItems : Nat → Text → List PackItem
  | 0, _ => []
  | fuel + 1, t =>
    match t.dropWhile isBlank with
    | [] => []
    | c :: rest =>
      let (order, rest) : Option Bool × Text := match rest with
        | '>' :: rest => (some true, rest)
        | '<' :: rest => (some false, rest)
        | '!' :: rest => (none, rest)
        | rest => (none, rest)
      match rest with
      | '*' :: rest => ⟨c, order, .all⟩ :: packItems fuel rest
      | rest =>
        let ds := (if rest.head? = some '[' then rest.drop 1 else rest).takeWhile Char.isDigit
        let rest := if rest.head? = some '[' then rest.drop (ds.length + 2) else rest.drop ds.length
        ⟨c, order, match Text.toNat? ds with
          | some n => .count n
          | none => .usual⟩ :: packItems fuel rest

/-- The number of bytes of an integer and whether its high bytes are first and it may be below zero. -/
def integerKind? (i : PackItem) : Option (Nat × Bool × Bool) :=
  let high := i.order.getD false
  match i.letter with
  | 'c' => some (1, high, true)
  | 'C' => some (1, high, false)
  | 's' => some (2, high, true)
  | 'S' => some (2, high, false)
  | 'l' => some (4, high, true)
  | 'L' => some (4, high, false)
  | 'i' => some (4, high, true)
  | 'I' => some (4, high, false)
  | 'q' => some (8, high, true)
  | 'Q' => some (8, high, false)
  | 'j' => some (8, high, true)
  | 'J' => some (8, high, false)
  | 'n' => some (2, true, false)
  | 'N' => some (4, true, false)
  | 'v' => some (2, false, false)
  | 'V' => some (4, false, false)
  | _ => none

/-- The bytes of an integer, the low ones first. -/
def lowBytes : Nat → Nat → Text
  | 0, _ => []
  | size + 1, n => Char.ofNat (n % 256) :: lowBytes size (n / 256)

/-- The bytes of digits, each of which has so many bits. -/
def digitBytes (perByte base : Nat) (highFirst : Bool) : Nat → Text → Text
  | 0, _ => []
  | fuel + 1, t =>
    if t.isEmpty then []
    else
      let ds := t.take perByte
      let ds := ds ++ List.replicate (perByte - ds.length) '0'
      let ds := if highFirst then ds else ds.reverse
      Char.ofNat (ds.foldl (fun n c => base * n + Rounded.hexValue c % base) 0)
        :: digitBytes perByte base highFirst fuel (t.drop perByte)

/-- The digits of bytes. -/
def bytesDigits (perByte base : Nat) (highFirst : Bool) (t : Text) : Text :=
  t.flatMap fun c =>
    let ds := Nat.toDigits base c.toNat
    let ds := List.replicate (perByte - ds.length) '0' ++ ds
    if highFirst then ds else ds.reverse

/-- The kind of digits that a letter stands for: how many there are for a byte, their base, and their order. -/
def digitKind? : Char → Option (Nat × Nat × Bool)
  | 'H' => some (2, 16, true)
  | 'h' => some (2, 16, false)
  | 'B' => some (8, 2, true)
  | 'b' => some (8, 2, false)
  | _ => none

/-- Values packed into bytes. -/
def packed : List PackItem → List Value → Text
  | [], _ => []
  | i :: is, vs =>
    match integerKind? i with
    | some (size, high, _) =>
      let n := match i.amount with
        | .usual => 1
        | .count n => n
        | .all => vs.length
      let made := (List.range n).flatMap fun k =>
        let bytes := lowBytes size (bitsOf (vs.getD k .absent))
        if high then bytes.reverse else bytes
      made ++ packed is (vs.drop n)
    | none =>
      let t := (vs.headD .absent).toText
      match digitKind? i.letter with
      | some (perByte, base, high) =>
        let ds := match i.amount with
          | .usual => t.take 1
          | .count n => t.take n
          | .all => t
        digitBytes perByte base high (ds.length + 1) ds ++ packed is (vs.drop 1)
      | none => match i.letter with
        | 'x' =>
          let n := match i.amount with
            | .count n => n
            | .usual => 1
            | .all => 0
          List.replicate n '\x00' ++ packed is vs
        | 'U' | 'W' =>
          let n := match i.amount with
            | .usual => 1
            | .count n => n
            | .all => vs.length
          let made := (vs.take n).flatMap fun v => Octets.ofText [Char.ofNat v.whole.toNat]
          made ++ packed is (vs.drop n)
        | c =>
          let fill := if c = 'A' then ' ' else '\x00'
          let made := match i.amount with
            | .usual => t.take 1 ++ List.replicate (1 - t.length) fill
            | .count n => (if c = 'Z' then t.take (n - 1) else t.take n)
                ++ List.replicate (n - (if c = 'Z' then min t.length (n - 1) else t.length)) fill
            | .all => if c = 'Z' then t ++ ['\x00'] else t
          made ++ packed is (vs.drop 1)

/-- The integer of bytes, the high ones first. -/
def integerOf (size : Nat) (signed : Bool) (t : Text) : Int :=
  let n : Int := (t.foldl (fun n c => 256 * n + c.toNat) 0 : Nat)
  let whole : Int := (Nat.pow 256 size : Nat)
  if signed && whole ≤ 2 * n then n - whole else n

/-- Values taken out of bytes. -/
def unpacked : List PackItem → Text → List Value
  | [], _ => []
  | i :: is, t =>
    match integerKind? i with
    | some (size, high, signed) =>
      let most := t.length / size
      let n := match i.amount with
        | .usual => min 1 most
        | .count n => min n most
        | .all => most
      let made : List Value := (List.range n).map fun k =>
        let bytes := (t.drop (k * size)).take size
        .int (integerOf size signed (if high then bytes else bytes.reverse))
      made ++ unpacked is (t.drop (n * size))
    | none => match digitKind? i.letter with
      | some (perByte, base, high) =>
        let n := match i.amount with
          | .usual => 1
          | .count n => n
          | .all => t.length * perByte
        let bytes := t.take ((n + perByte - 1) / perByte)
        .text ((bytesDigits perByte base high bytes).take n) :: unpacked is (t.drop bytes.length)
      | none =>
        let n := match i.amount with
          | .usual => 1
          | .count n => n
          | .all => t.length
        let part := t.take n
        match i.letter with
        | 'x' => unpacked is (t.drop n)
        | 'A' =>
          .text ((part.reverse.dropWhile fun c => isBlank c || c = '\x00').reverse) :: unpacked is (t.drop n)
        | 'Z' => .text (part.takeWhile (· ≠ '\x00')) :: unpacked is (t.drop n)
        | 'a' => .text part :: unpacked is (t.drop n)
        | _ => part.map (fun c => Value.int (c.toNat : Nat)) ++ unpacked is (t.drop n)

/-- Values packed as a template says. -/
def packWith (template : Text) (vs : List Value) : Text := packed (packItems (template.length + 1) template) vs

/-- The values in bytes as a template says. -/
def unpackWith (template t : Text) : List Value := unpacked (packItems (template.length + 1) template) t

end Rollout.Program.Perl
