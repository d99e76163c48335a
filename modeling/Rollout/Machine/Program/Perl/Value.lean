import Rollout.Machine.Number.Rounded
import Rollout.Text.Basic

/-!
Values of scripts: texts, integers, real numbers, and references to what is kept elsewhere. Texts become numbers as far
as they start with one, and integers that grow too great become real numbers.
-/

namespace Rollout.Program.Perl

/-- What a reference leads to. -/
inductive Referent
  | scalar | array | hash | code | handle
  deriving DecidableEq

/-- A value. -/
inductive Value
  /-- No value. -/
  | absent
  /-- An integer. -/
  | int (n : Int)
  /-- A real number. -/
  | real (x : Float)
  /-- A text. -/
  | text (t : Text)
  /-- A number that is shown as a text. -/
  | both (n : Int) (t : Text)
  /-- A reference to what has a number. -/
  | reference (r : Referent) (i : Nat)
  /-- A regular expression, with its letters. -/
  | pattern (t : Text) (letters : Text)

/-- A number. -/
inductive Number
  | int (n : Int)
  | real (x : Float)

namespace Number

/-- The number as a value. -/
def toValue : Number → Value
  | int n => .int n
  | real x => .real x

/-- The number as a real number. -/
def toReal : Number → Float
  | int n => doubleOf n
  | real x => x

/-- The least integer. -/
def leastInt : Int := -9223372036854775808

/-- The greatest integer. -/
def greatestInt : Int := 18446744073709551615

/-- An integer if it is not too great, or else a real number. -/
def ofInt (n : Int) : Number := if leastInt ≤ n && n ≤ greatestInt then int n else real (doubleOf n)

/-- Below this all integers are real numbers, too. -/
def exactBound : Nat := 9007199254740992

/-- An integer if the real number is one that is not too great. -/
def ofReal (x : Float) : Number :=
  let r := Rounded.ofFloat x
  match if r.isWhole then r.whole? else none with
  | some n => if n.natAbs < exactBound then int n else real x
  | none => real x

/-- The number as an integer if it is one that is not too great. -/
def settled : Number → Number
  | int n => int n
  | real x => ofReal x

/-- The integer without the fraction. -/
def whole : Number → Int
  | int n => n
  | real x => match (Rounded.ofFloat x).whole? with
    | some n => n
    | none => if x < 0 then leastInt else if x > 0 then greatestInt else 0

/-- Is the number not zero? -/
def isTrue : Number → Bool
  | int n => n ≠ 0
  | real x => x != 0

/-- A real number as a text. -/
def realText (x : Float) : Text :=
  match Rounded.ofFloat x with
  | .nan _ => "NaN"
  | .infinite negative => if negative then "-Inf" else "Inf"
  | .finite negative m e =>
    let shown := (Rounded.finite false m e).text 'g' 15 false
    if negative && m ≠ 0 then '-' :: shown else if negative then ['-', '0'] else shown

/-- The number as a text. -/
def toText : Number → Text
  | int n => Text.ofInt n
  | real x => realText x

end Number

/-! ### Texts as numbers -/

/-- Is the character a blank? -/
def isBlank (c : Char) : Bool := c = ' ' || ('\t' ≤ c && c ≤ '\r')

/-- The number at the start of a text, zero if there is none, and what follows it. -/
def numberAt (t : Text) : Number × Text :=
  let t := t.dropWhile isBlank
  let (negative, rest) : Bool × Text := match t with
    | '-' :: rest => (true, rest)
    | '+' :: rest => (false, rest)
    | t => (false, t)
  let digits := rest.takeWhile Char.isDigit
  let behind := rest.drop digits.length
  let lower := rest.map Char.toLower
  let signed (x : Float) : Float := if negative then -x else x
  if "inf".toList.isPrefixOf lower then
    (.real (signed (1 / 0)), rest.drop (if "infinity".toList.isPrefixOf lower then 8 else 3))
  else if "nan".toList.isPrefixOf lower then (.real (0 / 0), rest.drop 3)
  else
    let isPlain : Bool := match behind with
      | '.' :: _ => false
      | 'e' :: _ => false
      | 'E' :: _ => false
      | _ => true
    if isPlain then
      let n : Int := ((Text.toNat? digits).getD 0 : Nat)
      (.ofInt (if negative then -n else n), behind)
    else if digits.isEmpty && !((behind.drop 1).head?.any Char.isDigit) then (.int 0, behind)
    else
      -- a mark of a base does not count
      match Rounded.read .double (if digits.isEmpty then '0' :: behind else digits ++ behind) with
      | some (r, after) => (.real (signed r.toFloat), after)
      | none => (.int 0, behind)

/-- The number that a text starts with. -/
def numberIn (t : Text) : Number := (numberAt t).1

/-- Does a text look like a number? -/
def looksNumeric (t : Text) : Bool :=
  let start := t.dropWhile isBlank
  let body := if start.head? = some '-' || start.head? = some '+' then start.drop 1 else start
  let lower := body.map Char.toLower
  let starts := body.head?.any Char.isDigit || (body.head? = some '.' && (body.drop 1).head?.any Char.isDigit)
    || "inf".toList.isPrefixOf lower || "nan".toList.isPrefixOf lower
  starts && ((numberAt t).2.all fun c => isBlank c)

/-! ### Values -/

namespace Value

/-- The name of what a reference leads to. -/
def referentName : Referent → Text
  | .scalar => "SCALAR"
  | .array => "ARRAY"
  | .hash => "HASH"
  | .code => "CODE"
  | .handle => "GLOB"

/-- Where something is said to be that a reference leads to. -/
def addressOf (r : Referent) (i : Nat) : Nat :=
  94000000000000 + 24 * (5 * i + match r with
    | .scalar => 0
    | .array => 1
    | .hash => 2
    | .code => 3
    | .handle => 4)

/-- A regular expression as a text. -/
def patternText (t letters : Text) : Text :=
  let shown := letters.filter "msixn".toList.contains
  "(?^" ++ shown ++ ':' :: t ++ (if letters.contains 'x' then "\n)" else ")").toList

/-- The value as a text, where a reference is not to something that belongs to a class. -/
def toText : Value → Text
  | absent => []
  | int n => Text.ofInt n
  | real x => Number.realText x
  | text t => t
  | both _ t => t
  | reference r i => referentName r ++ "(0x" ++ Nat.toDigits 16 (addressOf r i) ++ [')']
  | pattern t letters => patternText t letters

/-- The value as a number. -/
def toNumber : Value → Number
  | absent => .int 0
  | int n => .int n
  | real x => .real x
  | text t => numberIn t
  | both n _ => .int n
  | reference r i => .int (addressOf r i : Nat)
  | pattern .. => .int 1

/-- Does the value count as true? -/
def isTrue : Value → Bool
  | absent => false
  | int n => n ≠ 0
  | real x => x != 0
  | text t => t ≠ [] && t ≠ ['0']
  | both n _ => n ≠ 0
  | _ => true

/-- Is there a value? -/
def isDefined : Value → Bool
  | absent => false
  | _ => true

/-- The value of a truth. -/
def truth (b : Bool) : Value := if b then int 1 else text []

/-- A natural number as a value. -/
def ofNat (n : Nat) : Value := int (n : Nat)

/-- The integer that a value stands for. -/
def whole (v : Value) : Int := v.toNumber.whole

/-- The value as a real number. -/
def toReal (v : Value) : Float := v.toNumber.toReal

/-- Is it a number and no text? -/
def isNumber : Value → Bool
  | int _ => true
  | real _ => true
  | both .. => true
  | _ => false

end Value

/-! ### Operations -/

/-- An operation on two values. -/
inductive Binary
  | add | sub | mul | div | mod | pow | concat | repeated | shiftLeft | shiftRight | bitAnd | bitOr | bitXor
  | less | greater | lessEq | greaterEq | equal | unequal | order
  | textLess | textGreater | textLessEq | textGreaterEq | textEqual | textUnequal | textOrder
  deriving DecidableEq

/-- The order of two numbers, if they have one. -/
def compareNumbers (a b : Number) : Option Ordering :=
  match a, b with
  | .int a, .int b => some (compare a b)
  | a, b =>
    let (x, y) := (a.toReal, b.toReal)
    if x < y then some .lt else if x > y then some .gt else if x == y then some .eq else none

/-- The order of two texts. -/
def compareTexts (a b : Text) : Ordering := if a = b then .eq else if decide (a < b) then .lt else .gt

/-- An integer of 64 bits without sign. -/
def bitsOf (v : Value) : Nat := (max Number.leastInt (min Number.greatestInt v.whole) % 18446744073709551616).toNat

/-- A number to the power of another one. -/
def power (a b : Number) : Number :=
  match a, b with
  | .int m, .int n =>
    let size := Nat.log2 m.natAbs + 1
    let isShift := m.natAbs = Nat.pow 2 (size - 1)
    if 0 ≤ n && !isShift && size * n.toNat ≤ 64 then .ofInt (Int.pow m n.toNat)
    else (Number.real (a.toReal.pow b.toReal)).settled
  | a, b => (Number.real (a.toReal.pow b.toReal)).settled

/-- A number without those of another one that it holds; the result has the sign of the other one. -/
def modulo (a b : Number) : Option Number :=
  let m := a.whole
  let n := b.whole
  if n = 0 then none else some (.ofInt (Int.fmod m n))

/-- The bits of two texts put together. -/
def textBits (f : Nat → Nat → Nat) (isAnd : Bool) (a b : Text) : Text :=
  let n := if isAnd then min a.length b.length else max a.length b.length
  (List.range n).map fun i => Char.ofNat (f (a.getD i '\x00').toNat (b.getD i '\x00').toNat)

/-- The value of an operation, or what is said if it has none. -/
def Binary.apply (op : Binary) (a b : Value) : Except Text Value :=
  let exact (f : Int → Int → Int) (g : Float → Float → Float) : Except Text Value :=
    match a.toNumber.settled, b.toNumber.settled with
    | .int m, .int n => .ok (Number.ofInt (f m n)).toValue
    | x, y => .ok (.real (g x.toReal y.toReal))
  let isText : Value → Bool
    | .text _ => true
    | _ => false
  let bits (f : Nat → Nat → Nat) (isAnd : Bool) : Except Text Value :=
    if isText a && isText b then .ok (.text (textBits f isAnd a.toText b.toText))
    else .ok (.ofNat (f (bitsOf a) (bitsOf b)))
  let order := compareNumbers a.toNumber b.toNumber
  let textOrder := compareTexts a.toText b.toText
  let truth (b : Bool) : Except Text Value := .ok (.truth b)
  match op with
  | .add => exact (· + ·) (· + ·)
  | .sub => exact (· - ·) (· - ·)
  | .mul => exact (· * ·) (· * ·)
  | .div =>
    if !b.toNumber.isTrue then .error "Illegal division by zero"
    else match a.toNumber.settled, b.toNumber.settled with
      | .int m, .int n =>
        if Number.exactBound < m.natAbs && m % n = 0 then .ok (Number.ofInt (m / n)).toValue
        else .ok (.real (doubleOf m / doubleOf n))
      | x, y => .ok (.real (x.toReal / y.toReal))
  | .mod => match modulo a.toNumber b.toNumber with
    | some n => .ok n.toValue
    | none => .error "Illegal modulus zero"
  | .pow => .ok (power a.toNumber.settled b.toNumber.settled).toValue
  | .concat => .ok (.text (a.toText ++ b.toText))
  | .repeated => .ok (.text (List.replicate b.whole.toNat a.toText).flatten)
  | .shiftLeft =>
    if b.whole < 0 then .ok (.ofNat (bitsOf a >>> b.whole.natAbs))
    else .ok (.ofNat (if 64 ≤ b.whole then 0 else (bitsOf a <<< b.whole.toNat) % 18446744073709551616))
  | .shiftRight =>
    if b.whole < 0 then .ok (.ofNat ((bitsOf a <<< b.whole.natAbs) % 18446744073709551616))
    else .ok (.ofNat (bitsOf a >>> b.whole.toNat))
  | .bitAnd => bits (· &&& ·) true
  | .bitOr => bits (· ||| ·) false
  | .bitXor => bits (· ^^^ ·) false
  | .less => truth (order = some .lt)
  | .greater => truth (order = some .gt)
  | .lessEq => truth (order = some .lt || order = some .eq)
  | .greaterEq => truth (order = some .gt || order = some .eq)
  | .equal => truth (order = some .eq)
  | .unequal => truth (order ≠ some .eq)
  | .order => match order with
    | some .lt => .ok (.int (-1))
    | some .eq => .ok (.int 0)
    | some .gt => .ok (.int 1)
    | none => .ok .absent
  | .textLess => truth (textOrder = .lt)
  | .textGreater => truth (textOrder = .gt)
  | .textLessEq => truth (textOrder ≠ .gt)
  | .textGreaterEq => truth (textOrder ≠ .lt)
  | .textEqual => truth (textOrder = .eq)
  | .textUnequal => truth (textOrder ≠ .eq)
  | .textOrder => .ok (.int (match textOrder with
    | .lt => -1
    | .eq => 0
    | .gt => 1))

/-- A text of letters and digits counted up: each place has its own kind of characters. -/
def nextText (t : Text) : Text :=
  let rec go : Text → Text
    | [] => []
    | c :: cs =>
      if c = 'z' then 'a' :: (if cs.isEmpty then ['a'] else go cs)
      else if c = 'Z' then 'A' :: (if cs.isEmpty then ['A'] else go cs)
      else if c = '9' then '0' :: (if cs.isEmpty then ['1'] else go cs)
      else Char.ofNat (c.toNat + 1) :: cs
  (go t.reverse).reverse

/-- Can the text be counted up place by place? -/
def countsUp (t : Text) : Bool :=
  let rest := t.dropWhile Char.isAlpha
  t ≠ [] && rest.all Char.isDigit && !t.all Char.isDigit

/-- A value counted up or down. -/
def Value.stepped (v : Value) (up : Bool) : Value :=
  let plain : Value := match v.toNumber with
    | .int n => (Number.ofInt (if up then n + 1 else n - 1)).toValue
    | .real x => .real (if up then x + 1 else x - 1)
  match v with
  | .text t => if up && countsUp t then .text (nextText t) else plain
  | _ => plain

end Rollout.Program.Perl
