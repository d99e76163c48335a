import Rollout.Machine.Number.Rounded
import Rollout.Text.Basic

/-!
Values of scripts that scan records: numbers, texts, and texts that were read and count as numbers if they look like
them. A format prints values.
-/

namespace Rollout.Program.Scan

/-- A value. -/
inductive Value
  /-- That of a variable which has none. -/
  | unset
  /-- A number. -/
  | number (x : Float)
  /-- A text. -/
  | text (t : Text)
  /-- A text that was read. -/
  | input (t : Text)

/-- The value of a truth. -/
def Value.truth (b : Bool) : Value := .number (if b then 1 else 0)

/-- A natural number as a value. -/
def Value.ofNat (n : Nat) : Value := .number (doubleOf n)

/-! ### Texts as numbers -/

/-- Is the character a blank between words? -/
def isBlank (c : Char) : Bool := c = ' ' || ('\t' ≤ c && c ≤ '\r')

/-- The number at the start of a text, which is zero if there is none. -/
def numberIn (t : Text) : Float := ((Rounded.read .double t).map (·.1.toFloat)).getD 0

/-- The number that a text looks like, if it looks like one. -/
def wholeNumber? (t : Text) : Option Float :=
  let t := ((t.dropWhile isBlank).reverse.dropWhile isBlank).reverse
  let starts (c : Char) : Bool := c.isDigit || c = '+' || c = '-' || c = '.'
  let stops (c : Char) : Bool := c.isDigit || c = '.'
  if (t.head?.any starts) && (t.getLast?.any stops) then
    match Rounded.read .double t with
    | some (r, []) => some r.toFloat
    | _ => none
  else none

namespace Value

/-- The number that a value stands for. -/
def toNumber : Value → Float
  | unset => 0
  | number x => x
  | text t => numberIn t
  | input t => numberIn t

/-- Does the value count as true? -/
def isTrue : Value → Bool
  | unset => false
  | number x => x != 0
  | text t => t ≠ []
  | input t => match wholeNumber? t with
    | some x => x != 0
    | none => t ≠ []

end Value

/-! ### Numbers as texts -/

/-- The greatest number that is printed as an integer. -/
def greatestInteger : Nat := 2147483647

/-- The integer that a number is, if it is one that is not too great. -/
def integer? (x : Float) : Option Int :=
  let r := Rounded.ofFloat x
  if r.isWhole then r.whole?.bind fun n => if n.natAbs ≤ greatestInteger then some n else none else none

/-- The greatest integer of 64 bits. -/
def greatestLong : Int := 9223372036854775807

/-- The number without its fraction, within 64 bits. -/
def clamped (x : Float) : Int :=
  match Rounded.ofFloat x with
  | .infinite negative => if negative then -greatestLong - 1 else greatestLong
  | .nan _ => -greatestLong - 1
  | r => max (-greatestLong - 1) (min greatestLong (r.whole?.getD 0))

/-- A directive of a format. -/
structure Part where
  /-- Its marks. -/
  flags : Text
  /-- Its width: a number, or `none` if an argument gives it. -/
  width : Option Text
  /-- Its precision, if it has one: a number, or `none` if an argument gives it. -/
  precision : Option (Option Text)
  /-- Its letter. -/
  letter : Char

/-- Digits or a star at the start of a text, and what follows; the star is given as `none`. -/
def amountAt (t : Text) : Option Text × Text :=
  match t with
  | '*' :: t => (none, t)
  | t => (some (t.takeWhile Char.isDigit), t.dropWhile Char.isDigit)

/-- The directive behind a percent sign, if there is one, and what follows it. -/
def partAt? (t : Text) : Option (Part × Text) :=
  let flags := t.takeWhile Directive.isFlag
  let (width, t) := amountAt (t.drop flags.length)
  let (precision, t) := match t with
    | '.' :: t => (some (amountAt t).1, (amountAt t).2)
    | t => (none, t)
  match t.dropWhile fun c => c = 'h' || c = 'l' with
  | c :: rest => if "diouxXcseEfFgG".toList.contains c then some (⟨flags, width, precision, c⟩, rest) else none
  | [] => none

/-- A value as a directive prints it. -/
def printed (toText : Value → Text) (d : Directive) (letter : Char) (v : Value) : Text :=
  if letter = 'c' then match v with
    | .number x => d.text [Char.ofNat ((clamped x) % 256).toNat]
    | v => d.text [((toText v).head?).getD '\x00']
  else if letter = 's' then d.text (toText v)
  else if "dioxXu".toList.contains letter then d.integer (if letter = 'i' then 'd' else letter) (clamped v.toNumber)
  else d.real letter (Rounded.ofFloat v.toNumber)

/-- What printing by a format gives, the latest first, and what was wrong in the end. -/
def printAll (toText : Value → Text) (whole : Text) : Nat → Nat → Text → List Value → List Text →
    List Text × Option Text
  | 0, _, _, _, done => (done, none)
  | fuel + 1, count, t, vs, done =>
    let plain := t.takeWhile (· ≠ '%')
    let done := plain :: done
    match t.drop plain.length with
    | [] => (done, none)
    | [_] => (['%'] :: done, none)
    | _ :: '%' :: rest => printAll toText whole fuel count rest vs (['%'] :: done)
    | _ :: rest =>
      match partAt? rest with
      | none => (done, some ("improper conversion(number " ++ Text.ofNat (count + 1) ++ ") in "))
      | some (part, rest) =>
        let lacking : Text := "not enough arguments passed to "
        let amount (o : Option Text) (vs : List Value) : Option (Int × List Value) := match o, vs with
          | some t, vs => some (((Text.toNat? t).getD 0 : Nat), vs)
          | none, v :: vs => some (clamped v.toNumber, vs)
          | none, [] => none
        match amount part.width vs with
        | none => (done, some lacking)
        | some (width, vs) => match amount (part.precision.getD (some [])) vs with
          | none => (done, some lacking)
          | some (precision, vs) => match vs with
            | [] => (done, some lacking)
            | v :: vs =>
              let flags := if width < 0 then '-' :: part.flags else part.flags
              let d : Directive := ⟨flags, width.natAbs,
                if part.precision.isSome && 0 ≤ precision then some precision.toNat else none⟩
              printAll toText whole fuel (count + 1) rest vs (printed toText d part.letter v :: done)

/-- A number as a text: an integer in its digits, any other number by a format. -/
def numberText (format : Text) (x : Float) : Text :=
  match integer? x with
  | some n => Text.ofInt n
  | none => ((printAll (fun _ => []) format 2 0 format [.number x] []).1.reverse).flatten

/-- A value as a text. -/
def Value.toText (format : Text) : Value → Text
  | .unset => []
  | .number x => numberText format x
  | .text t => t
  | .input t => t

/-- What a format prints of values, and what was wrong with it, for messages under the name of what prints. -/
def format (name : String) (convert : Text) (f : Text) (vs : List Value) : Text × Option Text :=
  let (done, fault) := printAll (Value.toText convert) f (f.length + 1) 0 f vs []
  (done.reverse.flatten, fault.map fun e => e ++ name.toList ++ "(\"" ++ f ++ "\")")

/-! ### Comparing -/

/-- Compare two values: as numbers if both are, or look like them, and else as texts. -/
def compareValues (convert : Text) (a b : Value) : Option Ordering :=
  let number? : Value → Option Float
    | .unset => some 0
    | .number x => some x
    | .input t => wholeNumber? t
    | .text _ => none
  let texts : Option Ordering :=
    let s := a.toText convert
    let t := b.toText convert
    some (if s < t then .lt else if t < s then .gt else .eq)
  match a, b with
  | .unset, .unset => some .eq
  | a, b => match number? a, number? b with
    | some x, some y => if x < y then some .lt else if y < x then some .gt else if x == y then some .eq else none
    | _, _ => texts

end Rollout.Program.Scan
