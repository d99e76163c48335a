import Rollout.Text.Basic

/-!
Real numbers as machines hold them: a sign, a mantissa of so many bits, and a power of two. Every decimal
number is rounded to the nearest of them, a tie going to the even mantissa. Numbers of 64 bits that machines
compute with have such exact values.

Directives of formats: how a text, an integer or a real number is printed, with a least width, a precision,
and marks that change the form.
-/

namespace Rollout

/-- The real numbers that a machine has. -/
structure Precision where
  /-- The number of bits of a mantissa. -/
  bits : Nat
  /-- The least exponent of two. -/
  least : Int
  /-- The greatest exponent of two. -/
  greatest : Int
  deriving DecidableEq

/-- Numbers of 32 bits. -/
def Precision.single : Precision := ⟨24, -149, 104⟩

/-- Numbers of 64 bits. -/
def Precision.double : Precision := ⟨53, -1074, 971⟩

/-- Numbers of 80 bits. -/
def Precision.extended : Precision := ⟨64, -16445, 16320⟩

/-- A real number of a machine. -/
inductive Rounded
  /-- The mantissa times a power of two. -/
  | finite (negative : Bool) (mantissa : Nat) (exponent : Int)
  /-- A number that is too great. -/
  | infinite (negative : Bool)
  /-- No number. -/
  | nan (negative : Bool)
  deriving DecidableEq

namespace Rounded

/-- The power of ten. -/
def tenTo (n : Nat) : Nat := Nat.pow 10 n

/-- The quotient, rounded to the nearest integer, a tie going to the even one. -/
def roundDiv (a b : Nat) : Nat :=
  let q := a / b
  let r := a % b
  if 2 * r < b then q else if b < 2 * r then q + 1 else if q % 2 = 0 then q else q + 1

/-- The quotient times a power of two, rounded to the nearest integer. -/
def roundScaled (a b : Nat) (e : Int) : Nat :=
  if 0 ≤ e then roundDiv (a <<< e.toNat) b else roundDiv a (b <<< (-e).toNat)

/-- Is the quotient at least the power of two? -/
def reaches (a b : Nat) (e : Int) : Bool := if 0 ≤ e then b <<< e.toNat ≤ a else b ≤ a <<< (-e).toNat

/-- The number nearest to a quotient. -/
def ofRatio (p : Precision) (negative : Bool) (a b : Nat) : Rounded :=
  if a = 0 then .finite negative 0 0
  else
    let guess := (Nat.log2 a : Int) - (Nat.log2 b : Int)
    let top := if reaches a b guess then guess else guess - 1
    let e := max p.least (top - (p.bits : Int) + 1)
    let m := roundScaled a b (-e)
    let (m, e) := if m = 1 <<< p.bits then (m / 2, e + 1) else (m, e)
    if p.greatest < e then .infinite negative else .finite negative m e

/-- The number nearest to an integer. -/
def ofInt (p : Precision) (n : Int) : Rounded := ofRatio p (n < 0) n.natAbs 1

/-- The finite number as a quotient without its sign. -/
def ratio (mantissa : Nat) (exponent : Int) : Nat × Nat :=
  if 0 ≤ exponent then (mantissa <<< exponent.toNat, 1) else (mantissa, 1 <<< (-exponent).toNat)

/-- Is it below zero? -/
def isNegative : Rounded → Bool
  | .finite n _ _ => n
  | .infinite n => n
  | .nan n => n

/-! ### Reading -/

/-- The greatest power of ten that counts. -/
def maxExponent : Nat := 20000

/-- The digits at the start of a text, and what follows them. -/
def digitsOf (t : Text) : Text × Text := (t.takeWhile Char.isDigit, t.dropWhile Char.isDigit)

/-- The power after a letter, and what follows it; without digits nothing is read. -/
def powerAt (letter : Char) (t : Text) : Int × Text :=
  match t with
  | c :: rest =>
    if c.toLower ≠ letter then (0, t)
    else
      let (negative, rest) := match rest with
        | '-' :: rest => (true, rest)
        | '+' :: rest => (false, rest)
        | rest => (false, rest)
      let (ds, rest) := digitsOf rest
      if ds = [] then (0, t)
      else
        let n : Int := (Text.toNat? ds).getD 0
        (if negative then -n else n, rest)
  | [] => (0, t)

/-- The value of a hexadecimal digit. -/
def hexValue (c : Char) : Nat :=
  if c.isDigit then c.toNat - '0'.toNat else c.toLower.toNat - 'a'.toNat + 10

/-- Is it a hexadecimal digit? -/
def isHex (c : Char) : Bool := c.isDigit || ('a' ≤ c.toLower && c.toLower ≤ 'f')

/-- The hexadecimal number after its mark, and what follows it. -/
def readHex (p : Precision) (negative : Bool) (t : Text) : Option (Rounded × Text) :=
  let whole := t.takeWhile isHex
  let rest := t.drop whole.length
  let part := match rest with
    | '.' :: rest => rest.takeWhile isHex
    | _ => []
  let rest := match rest with
    | '.' :: after => if whole = [] && part = [] then rest else after.drop part.length
    | _ => rest
  if whole = [] && part = [] then none
  else
    let n := (whole ++ part).foldl (fun n c => 16 * n + hexValue c) 0
    let (e, rest) := powerAt 'p' rest
    let e := e - 4 * (part.length : Int)
    some (if 0 ≤ e then ofRatio p negative (n <<< min e.toNat maxExponent) 1
      else ofRatio p negative n (1 <<< min (-e).toNat maxExponent), rest)

/-- The decimal number at the start of a text, and what follows it. -/
def readDecimal (p : Precision) (negative : Bool) (t : Text) : Option (Rounded × Text) :=
  let (whole, rest) := digitsOf t
  let (part, rest) := match rest with
    | '.' :: after => if whole = [] && (digitsOf after).1 = [] then ([], rest) else digitsOf after
    | _ => ([], rest)
  if whole = [] && part = [] then none
  else
    let n := (Text.toNat? (whole ++ part)).getD 0
    let (e, rest) := powerAt 'e' rest
    let e := e - (part.length : Int)
    some (if (maxExponent : Int) < e then (if n = 0 then .finite negative 0 0 else .infinite negative)
      else if 0 ≤ e then ofRatio p negative (n * tenTo e.toNat) 1
      else if e < -(maxExponent : Int) - (whole.length + part.length : Nat) then .finite negative 0 0
      else ofRatio p negative n (tenTo (-e).toNat), rest)

/-- Does the text start with the word, in whatever case? -/
def startsWith (word : String) (t : Text) : Bool :=
  word.toList.isPrefixOf ((t.take word.length).map Char.toLower)

/-- The number at the start of a text, after blanks and a sign, and what follows it. -/
def read (p : Precision) (t : Text) : Option (Rounded × Text) :=
  let t := t.dropWhile fun c => c = ' ' || ('\t' ≤ c && c ≤ '\r')
  let (negative, t) := match t with
    | '-' :: t => (true, t)
    | '+' :: t => (false, t)
    | t => (false, t)
  if startsWith "infinity" t then some (.infinite negative, t.drop 8)
  else if startsWith "inf" t then some (.infinite negative, t.drop 3)
  else if startsWith "nan" t then some (.nan negative, t.drop 3)
  else match t with
    | '0' :: x :: rest =>
      if x = 'x' || x = 'X' then (readHex p negative rest).or (some (.finite negative 0 0, x :: rest))
      else readDecimal p negative t
    | t => readDecimal p negative t

/-- The integer above the number times a factor; it must not be below zero nor infinite. -/
def ceilTimes? (factor : Nat) : Rounded → Option Nat
  | .finite negative m e =>
    let (a, b) := ratio m e
    if negative && m ≠ 0 then none else some ((a * factor + b - 1) / b)
  | _ => none

/-! ### Writing -/

/-- Digits with zeros in front, at least so many. -/
def padDigits (n : Nat) (ds : Text) : Text := List.replicate (n - ds.length) '0' ++ ds

/-- A number in units of a power of ten below one, with a point. -/
def withPoint (places : Nat) (point : Bool) (units : Nat) : Text :=
  let ds := padDigits (places + 1) (Text.ofNat units)
  let whole := ds.take (ds.length - places)
  let part := ds.drop (ds.length - places)
  whole ++ (if point || part ≠ [] then '.' :: part else [])

/-- The quotient with so many places, and perhaps a point even if nothing follows it. -/
def fixedText (a b places : Nat) (point : Bool) : Text := withPoint places point (roundDiv (a * tenTo places) b)

/-- The greatest power of ten that is not above the quotient. -/
def magnitude (a b : Nat) : Int :=
  let guess : Int := ((Text.ofNat a).length : Int) - ((Text.ofNat b).length : Int)
  let atLeast (e : Int) : Bool := if 0 ≤ e then b * tenTo e.toNat ≤ a else b ≤ a * tenTo (-e).toNat
  if atLeast guess then guess else guess - 1

/-- The digits of the quotient, so many after the first, and the power of ten of the first digit. -/
def scientific (a b places : Nat) : Nat × Int :=
  if a = 0 then (0, 0)
  else
    let e := magnitude a b
    let shift := (places : Int) - e
    let n := if 0 ≤ shift then roundDiv (a * tenTo shift.toNat) b else roundDiv a (b * tenTo (-shift).toNat)
    if n = tenTo (places + 1) then (tenTo places, e + 1) else (n, e)

/-- A power of ten as it is written behind a letter. -/
def powerText (letter : Char) (e : Int) : Text :=
  letter :: (if e < 0 then '-' else '+') :: padDigits 2 (Text.ofNat e.natAbs)

/-- A power as it is written behind a letter, with a sign. -/
def powerSign (letter : Char) (e : Int) : Text :=
  letter :: (if e < 0 then '-' else '+') :: Text.ofNat e.natAbs

/-- The hexadecimal digits of a mantissa of 64 bits times a power of two, of which the first stands in front of the
point, and the power of two that is left; so many digits follow the point, or as many as there are. -/
def hexText (mantissa : Nat) (exponent : Int) (places : Option Nat) (point : Bool) : Text × Int :=
  if mantissa = 0 then
    let zeros : Text := List.replicate (places.getD 0) '0'
    ('0' :: (if point || zeros ≠ [] then '.' :: zeros else []), 0)
  else
    let shift := 63 - Nat.log2 mantissa
    let m := mantissa <<< shift
    let e := exponent - (shift : Int) + 60
    let kept := min 15 (places.getD 15)
    let n := roundDiv m (1 <<< (4 * (15 - kept)))
    let (n, e) := if n = 1 <<< (4 * (kept + 1)) then (n / 16, e + 4) else (n, e)
    let digits := Nat.toDigits 16 n
    let part := digits.drop 1
    let part := match places with
      | some k => part ++ List.replicate (k - kept) '0'
      | none => (part.reverse.dropWhile (· = '0')).reverse
    (digits.take 1 ++ (if point || part ≠ [] then '.' :: part else []), e)

/-- The quotient with one digit in front of the point, and a power of ten. -/
def scientificText (letter : Char) (a b places : Nat) (point : Bool) : Text :=
  let (n, e) := scientific a b places
  withPoint places point n ++ powerText letter e

/-- A text with a point, less the zeros at its end. -/
def trimZeros (t : Text) : Text :=
  if t.contains '.' then
    let u := (t.reverse.dropWhile (· = '0')).reverse
    if u.getLast? = some '.' then u.dropLast else u
  else t

/-- The quotient with so many digits that count, in the shorter of both forms. -/
def generalText (letter : Char) (a b digits : Nat) (point : Bool) : Text :=
  let digits := max 1 digits
  let (n, e) := scientific a b (digits - 1)
  if -4 ≤ e && e < (digits : Int) then
    let t := fixedText a b ((digits : Int) - 1 - e).toNat point
    if point then t else trimZeros t
  else
    let t := withPoint (digits - 1) point n
    (if point then t else trimZeros t) ++ powerText letter e

/-- The number without its sign in the form of a letter, with so many places or digits. -/
def text (letter : Char) (places : Nat) (point : Bool) (r : Rounded) : Text :=
  let t : Text := match r with
    | .infinite _ => "inf"
    | .nan _ => "nan"
    | .finite _ m e =>
      let (a, b) := ratio m e
      match letter.toLower with
      | 'f' => fixedText a b places point
      | 'e' => scientificText 'e' a b places point
      | _ => generalText 'e' a b places point
  if letter.isUpper then t.map Char.toUpper else t

end Rounded

end Rollout

/-! ### Numbers of 64 bits -/

namespace Rollout

namespace Rounded

/-- The exact value of a number of 64 bits. -/
def ofFloat (x : Float) : Rounded :=
  let bits := x.toBits.toNat
  let negative := bits >>> 63 = 1
  let e := (bits >>> 52) &&& 2047
  let m := bits &&& 4503599627370495
  if e = 2047 then if m = 0 then .infinite negative else .nan true
  else if e = 0 then .finite negative m (-1074)
  else .finite negative (m + 4503599627370496) ((e : Int) - 1075)

/-- The number of 64 bits that has a value which was rounded to one. -/
def toFloat (r : Rounded) : Float :=
  let signed (negative : Bool) (bits : Nat) : Float :=
    Float.ofBits (UInt64.ofNat (if negative then bits + 9223372036854775808 else bits))
  match r with
  | .infinite negative => signed negative 9218868437227405312
  | .nan negative => signed negative 9221120237041090560
  | .finite negative m e =>
    if m < 4503599627370496 then signed negative m
    else signed negative ((e + 1075).toNat * 4503599627370496 + (m - 4503599627370496))

/-- The integer that is left of the number without its fraction, if it is finite. -/
def whole? : Rounded → Option Int
  | .finite negative m e =>
    let (a, b) := ratio m e
    let n : Int := (a / b : Nat)
    some (if negative then -n else n)
  | _ => none

/-- Has the number no fraction? -/
def isWhole : Rounded → Bool
  | .finite _ m e =>
    let (a, b) := ratio m e
    a % b = 0
  | _ => false

/-- What is left of a number after another one has been taken from it as often as possible. -/
def remainder : Rounded → Rounded → Rounded
  | .finite negative m e, .finite _ n f =>
    if n = 0 then .nan true
    else
      let least := min e f
      let r := (m <<< (e - least).toNat) % (n <<< (f - least).toNat)
      if 0 ≤ least then ofRatio .double negative (r <<< least.toNat) 1
      else ofRatio .double negative r (1 <<< (-least).toNat)
  | .finite negative m e, .infinite _ => .finite negative m e
  | _, _ => .nan true

end Rounded

/-- The number of 64 bits nearest to an integer. -/
def doubleOf (n : Int) : Float := (Rounded.ofInt .double n).toFloat

end Rollout

/-! ### Directives -/

namespace Rollout

/-- How a value is printed. -/
structure Directive where
  /-- The marks that change the form. -/
  flags : Text
  /-- The least number of characters. -/
  width : Nat
  /-- The greatest number of characters, or the least number of digits, or the number of places. -/
  precision : Option Nat

namespace Directive

/-- Is the mark there? -/
def has (d : Directive) (c : Char) : Bool := d.flags.contains c

/-- Fill up to the width with blanks. -/
def pad (d : Directive) (t : Text) : Text :=
  let missing := List.replicate (d.width - t.length) ' '
  if d.has '-' then t ++ missing else missing ++ t

/-- A text as it is printed. -/
def text (d : Directive) (t : Text) : Text :=
  d.pad (match d.precision with
    | some n => t.take n
    | none => t)

/-- The sign of a number that is not below zero. -/
def plusSign (d : Directive) : Text := if d.has '+' then ['+'] else if d.has ' ' then [' '] else []

/-- A number as it is printed, given its sign, what stands in front of its digits, and these; zeros may fill
the width. -/
def number (d : Directive) (sign lead digits : Text) (mayFill : Bool) : Text :=
  let filled :=
    if d.has '0' && !d.has '-' && mayFill then
      List.replicate (d.width - (sign ++ lead ++ digits).length) '0' ++ digits
    else digits
  d.pad (sign ++ lead ++ filled)

/-- Digits with as many zeros in front as the precision asks for; a zero may have no digits. -/
def digits (d : Directive) (base n : Nat) : Text :=
  match d.precision with
  | none => Nat.toDigits base n
  | some k => if n = 0 then List.replicate k '0' else Rounded.padDigits k (Nat.toDigits base n)

/-- A number without sign as it is printed for a letter. -/
def unsigned (d : Directive) (letter : Char) (n : Nat) : Text :=
  let marked := d.has '#' && n ≠ 0
  let print (lead digits : Text) : Text := d.number [] lead digits d.precision.isNone
  match letter with
  | 'o' =>
    let ds := d.digits 8 n
    print [] (if d.has '#' && ds.head? ≠ some '0' then '0' :: ds else ds)
  | 'x' => print (if marked then ['0', 'x'] else []) (d.digits 16 n)
  | 'X' => print (if marked then ['0', 'X'] else []) ((d.digits 16 n).map Char.toUpper)
  | _ => print [] (d.digits 10 n)

/-- An integer of 64 bits as it is printed for a letter. -/
def integer (d : Directive) (letter : Char) (n : Int) : Text :=
  if letter = 'd' || letter = 'i' then
    d.number (if n < 0 then ['-'] else d.plusSign) [] (d.digits 10 n.natAbs) d.precision.isNone
  else d.unsigned letter (n % 18446744073709551616).toNat

/-- A real number as it is printed for a letter. -/
def real (d : Directive) (letter : Char) (r : Rounded) : Text :=
  let sign : Text := if r.isNegative then ['-'] else d.plusSign
  match r, letter.toLower with
  | .finite _ m e, 'a' =>
    let (digits, power) := Rounded.hexText m e d.precision (d.has '#')
    let cased (t : Text) : Text := if letter.isUpper then t.map Char.toUpper else t
    d.number sign (cased ['0', 'x']) (cased (digits ++ Rounded.powerSign 'p' power)) true
  | .finite .., _ => d.number sign [] (r.text letter (d.precision.getD 6) (d.has '#')) true
  | _, _ => d.number sign [] (r.text letter 0 false) false

/-- Characters that are marks. -/
def isFlag (c : Char) : Bool := "#-+ 0".toList.contains c

end Directive

end Rollout
