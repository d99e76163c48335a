import Rollout.Machine.Number.Rounded
import Rollout.Machine.Program.Perl.Value

/-!
Texts that are made of values by a format.
-/

namespace Rollout.Program.Perl

/-- How far a format has been followed. -/
structure Filling where
  /-- The values that are left. -/
  rest : List Value
  /-- All values. -/
  all : List Value

/-- The next value. -/
def Filling.take (f : Filling) : Value × Filling :=
  match f.rest with
  | v :: vs => (v, { f with rest := vs })
  | [] => (.absent, f)

/-- A number at the start of a text, or the next value in place of a star. -/
def numberOrStar (f : Filling) (t : Text) : Option Int × Filling × Text :=
  match t with
  | '*' :: rest =>
    let (v, f) := f.take
    (some v.whole, f, rest)
  | t =>
    let ds := t.takeWhile Char.isDigit
    (if ds.isEmpty then none else some ((Text.toNat? ds).getD 0 : Nat), f, t.drop ds.length)

/-- An integer in the digits 0 and 1. -/
def binaryText (d : Directive) (n : Nat) : Text :=
  d.number [] (if d.has '#' && n ≠ 0 then ['0', 'b'] else []) (d.digits 2 n) d.precision.isNone

/-- A value as it is printed for a letter. -/
def directed (d : Directive) (letter : Char) (v : Value) : Option Text :=
  let n := v.toNumber
  let special : Option Text := match n with
    | .real x => if x.isNaN || x.isInf then some (d.text (Number.realText x)) else none
    | .int _ => none
  match letter with
  | 'c' => some (d.pad [Char.ofNat (v.whole.toNat % 256)])
  | 's' => some (if d.has '0' && !d.has '-' then
      let t := match d.precision with
        | some k => v.toText.take k
        | none => v.toText
      List.replicate (d.width - t.length) '0' ++ t
    else d.text v.toText)
  | 'd' => some (special.getD (d.integer 'd' n.whole))
  | 'i' => some (special.getD (d.integer 'd' n.whole))
  | 'D' => some (special.getD (d.integer 'd' n.whole))
  | 'u' => some (special.getD (d.unsigned 'u' (bitsOf v)))
  | 'o' => some (special.getD (d.unsigned 'o' (bitsOf v)))
  | 'x' => some (special.getD (d.unsigned 'x' (bitsOf v)))
  | 'X' => some (special.getD (d.unsigned 'X' (bitsOf v)))
  | 'b' => some (special.getD (binaryText d (bitsOf v)))
  | 'B' => some (special.getD (binaryText d (bitsOf v)))
  | c =>
    if "eEfFgGaA".toList.contains c then
      some (special.getD (d.real (if c = 'F' then 'f' else c) (Rounded.ofFloat n.toReal)))
    else none

/-- A text made by a format. -/
def formatted : Nat → Filling → Text → Text
  | 0, _, _ => []
  | fuel + 1, f, t =>
    match t with
    | [] => []
    | '%' :: '%' :: rest => '%' :: formatted fuel f rest
    | '%' :: rest =>
      let ds := rest.takeWhile Char.isDigit
      let (chosen, body) : Option Nat × Text :=
        if !ds.isEmpty && (rest.drop ds.length).head? = some '$' then (Text.toNat? ds, rest.drop (ds.length + 1))
        else (none, rest)
      let flags := body.takeWhile Directive.isFlag
      let body := body.drop flags.length
      let (vector, body) : Bool × Text := match body with
        | 'v' :: more => (true, more)
        | more => (false, more)
      let (width, f, body) := numberOrStar f body
      let (precision, f, body) : Option Int × Filling × Text := match body with
        | '.' :: more =>
          let (n, f, more) := numberOrStar f more
          (some (n.getD 0), f, more)
        | more => (none, f, more)
      let body := body.dropWhile "hlqLV".toList.contains
      let negative : Bool := match width with
        | some w => w < 0
        | none => false
      let d : Directive := ⟨if negative then '-' :: flags else flags, (width.getD 0).natAbs, match precision with
        | some p => if p < 0 then none else some p.toNat
        | none => none⟩
      match body with
      | letter :: more =>
        let (v, after) := match chosen with
          | some n => (f.all.getD (n - 1) .absent, f)
          | none => f.take
        if vector && letter = 'd' then
          Text.join ['.'] (v.toText.map fun c => Text.ofNat c.toNat) ++ formatted fuel after more
        else match directed d letter v with
          | some made => made ++ formatted fuel after more
          | none => '%' :: rest.take (rest.length - more.length) ++ formatted fuel f more
      | [] => '%' :: rest
    | c :: rest => c :: formatted fuel f rest

/-- A text made of values by a format. -/
def formatWith (t : Text) (vs : List Value) : Text := formatted (t.length + 1) ⟨vs, vs⟩ t

end Rollout.Program.Perl
