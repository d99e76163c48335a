import Rollout.Machine.Number.Rounded
import Rollout.Machine.Program.Input
import Rollout.Machine.Regex.Parser

/-!
Programs about numbers: counting from one to another, and evaluating expressions of arguments.
-/

namespace Rollout.Program

open Unix

/-! ### Counting -/

/-- A decimal number: so many units of a power of ten below one. -/
structure Decimal where
  /-- The units. -/
  units : Int
  /-- The number of places. -/
  places : Nat

namespace Decimal

/-- The number that a text denotes. -/
def read? (t : Text) : Option Decimal :=
  let (negative, t) := match t with
    | '-' :: t => (true, t)
    | '+' :: t => (false, t)
    | t => (false, t)
  let (whole, rest) := Rounded.digitsOf t
  let (part, rest) := match rest with
    | '.' :: rest => Rounded.digitsOf rest
    | rest => ([], rest)
  let (e, rest) := Rounded.powerAt 'e' rest
  if rest ≠ [] || (whole = [] && part = []) || e.natAbs > Rounded.maxExponent then none
  else
    let n : Int := (Text.toNat? (whole ++ part)).getD 0
    let places := (part.length : Int) - e
    let units := if places < 0 then n * (Rounded.tenTo (-places).toNat : Int) else n
    some ⟨if negative then -units else units, places.toNat⟩

/-- The number in units of so many places. -/
def scaled (d : Decimal) (places : Nat) : Int := d.units * (Rounded.tenTo (places - d.places) : Int)

/-- Units of so many places as a text. -/
def text (places : Nat) (units : Int) : Text :=
  (if units < 0 then ['-'] else []) ++ Rounded.withPoint places false units.natAbs

end Decimal

/-- The numbers from one to another, in steps. -/
def numbersFrom (first step last : Int) : List Int :=
  if step = 0 then []
  else
    let count := if 0 < step then (last - first).fdiv step + 1 else (first - last).fdiv (-step) + 1
    (List.range count.toNat).map fun (i : Nat) => first + step * (i : Int)

/-- The text before the first directive of a format, and what follows its sign. -/
def beforeDirective : Text → Text × Option Text
  | '%' :: '%' :: cs =>
    let (t, rest) := beforeDirective cs
    ('%' :: t, rest)
  | '%' :: cs => ([], some cs)
  | c :: cs =>
    let (t, rest) := beforeDirective cs
    (c :: t, rest)
  | [] => ([], none)

/-- The directive in a format: what stands in front of it, it, its letter, and what follows it; or what is wrong. -/
def directiveIn (format : Text) : Except Text (Text × Directive × Char × Text) :=
  let wrong (problem : Text) : Except Text (Text × Directive × Char × Text) :=
    .error ("format " ++ inQuotes format ++ ' ' :: problem)
  match beforeDirective format with
  | (_, none) => wrong "has no % directive"
  | (before, some t) =>
    let flags := t.takeWhile fun c => Directive.isFlag c || c = '\''
    let (width, t) := Rounded.digitsOf (t.drop flags.length)
    let (precision, t) := match t with
      | '.' :: t => (some ((Text.toNat? (Rounded.digitsOf t).1).getD 0), (Rounded.digitsOf t).2)
      | t => (none, t)
    match if t.head? = some 'L' then t.drop 1 else t with
    | [] => wrong "ends in %"
    | letter :: rest =>
      if !"efgaEFGA".toList.contains letter then wrong ("has unknown %" ++ letter :: " directive".toList)
      else match beforeDirective rest with
        | (after, none) => .ok (before, ⟨flags, (Text.toNat? width).getD 0, precision⟩, letter, after)
        | (_, some _) => wrong "has too many % directives"

/-- The arguments with everything from the first number on kept from being options. -/
def guardNumbers : List Text → List Text
  | ('-' :: c :: cs) :: ts =>
    if c.isDigit || c = '.' then ['-', '-'] :: ('-' :: c :: cs) :: ts
    else if (c = 's' || c = 'f') && cs = [] then match ts with
      | v :: ts => ['-', c] :: v :: guardNumbers ts
      | [] => [['-', c]]
    else ('-' :: c :: cs) :: guardNumbers ts
  | ts => ts

/-- Print numbers in order. -/
def seq : Routine := fun ts => do
  let a ← arguments [.valued 'f' "format", .valued 's' "separator", .plain 'w' "equal-width"] false 1
    (guardNumbers ts)
  if a.operands = [] then misused 1 "missing operand"
  if 3 < a.operands.length then misused 1 ("extra operand " ++ inQuotes (a.operands.getD 3 []))
  let directive ← match (a.value? "f").map directiveIn with
    | none => pure none
    | some (.ok d) => pure (some d)
    | some (.error e) => giveUp 1 e
  if directive.isSome && a.has "w" then
    misused 1 "format string may not be specified when printing equal width strings"
  let numbers ← a.operands.mapM fun t => match Decimal.read? t with
    | some d => pure d
    | none => misused 1 ("invalid floating point argument: " ++ inQuotes t)
  let one : Decimal := ⟨1, 0⟩
  let (first, step, last) ← match numbers with
    | [last] => pure (one, one, last)
    | [first, last] => pure (first, one, last)
    | [first, step, last] => pure (first, step, last)
    | _ => seeHelp 1
  if step.units = 0 then misused 1 ("invalid Zero increment value: " ++ inQuotes (a.operands.getD 1 []))
  let places := max first.places (max step.places last.places)
  let shownPlaces := max first.places step.places
  let shrink := Rounded.tenTo (places - shownPlaces)
  let units := numbersFrom (first.scaled places) (step.scaled places) (last.scaled places)
  let plain := units.map fun n => Decimal.text shownPlaces (n / (shrink : Int))
  let width := (plain.map List.length).foldl max
    (if a.has "w" then (Decimal.text shownPlaces (last.scaled places / (shrink : Int))).length else 0)
  let padded (t : Text) : Text := match t with
    | '-' :: ds => '-' :: Rounded.padDigits (width - 1) ds
    | ds => Rounded.padDigits width ds
  let texts : List Text := match directive with
    | some (before, d, letter, after) => units.map fun n =>
      before ++ d.real letter (Rounded.ofRatio .extended (n < 0) n.natAbs (Rounded.tenTo places)) ++ after
    | none => if a.has "w" then plain.map padded else plain
  if texts ≠ [] then sayLine (Text.join ((a.value? "s").getD ['\n']) texts)
  return 0

/-! ### Expressions -/

/-- The integer that a text denotes, if it denotes one. -/
def integer? (t : Text) : Option Int :=
  match t with
  | '-' :: ds => (Text.toNat? ds).map fun n => -(n : Int)
  | ds => (Text.toNat? ds).map fun n => (n : Int)

/-- Is the value nothing, or zero? -/
def isNull (t : Text) : Bool :=
  match t with
  | [] => true
  | '-' :: ds => ds ≠ [] && ds.all (· = '0')
  | ds => ds.all (· = '0')

/-- What is left of the arguments of an expression, the latest that was used, and whether values count. -/
structure ExprState where
  /-- The arguments that are left. -/
  rest : List Text
  /-- The argument before them. -/
  last : Text

/-- Evaluating an expression; an error is a message. -/
abbrev ExprM := StateT ExprState (Except Text)

/-- Take an argument if it is one of these. -/
def takeOne (wanted : List String) : ExprM (Option Text) := do
  let s ← get
  match s.rest with
  | t :: ts =>
    if (wanted.map String.toList).contains t then do
      set (ExprState.mk ts t)
      return some t
    else return none
  | [] => return none

/-- An argument that has to be there. -/
def needArgument : ExprM Unit := do
  let s ← get
  if s.rest = [] then throw ("syntax error: missing argument after " ++ inQuotes s.last)

/-- The operators of each level, from the loosest on. -/
def exprLevels : List (List String) :=
  [["|"], ["&"], ["<", "<=", "=", "==", "!=", ">=", ">"], ["+", "-"], ["*", "/", "%"], [":"]]

/-- What a pattern matches at the start of a text: its first group, or the number of characters. -/
def matchStart (t pattern : Text) : Except Text Text :=
  match Regex.compile Regex.lenient false false pattern with
  | .error e => .error e.message
  | .ok c =>
    let hasGroups := c.regex.groups ≠ 0
    match c.atStart t with
    | none => .ok (if hasGroups then [] else ['0'])
    | some m => .ok (if hasGroups then (m.group? 1).getD [] else Text.ofNat m.text.length)

/-- The value of an operation. -/
def operate (op a b : Text) : Except Text Text :=
  let truth (v : Bool) : Except Text Text := .ok (if v then ['1'] else ['0'])
  let order := match integer? a, integer? b with
    | some m, some n => compare m n
    | _, _ => if a < b then .lt else if b < a then .gt else .eq
  let number (f : Int → Int → Except Text Int) : Except Text Text :=
    match integer? a, integer? b with
    | some m, some n => (f m n).map Text.ofInt
    | _, _ => .error "non-integer argument"
  let divide (f : Int → Int → Int) (m n : Int) : Except Text Int :=
    if n = 0 then .error "division by zero" else .ok (f m n)
  match String.ofList op with
  | "|" => .ok (if !isNull a then a else if !isNull b then b else ['0'])
  | "&" => .ok (if isNull a || isNull b then ['0'] else a)
  | "=" => truth (order == .eq)
  | "==" => truth (order == .eq)
  | "!=" => truth (order != .eq)
  | "<" => truth (order == .lt)
  | "<=" => truth (order != .gt)
  | ">" => truth (order == .gt)
  | ">=" => truth (order != .lt)
  | "+" => number fun m n => .ok (m + n)
  | "-" => number fun m n => .ok (m - n)
  | "*" => number fun m n => .ok (m * n)
  | "/" => number (divide Int.tdiv)
  | "%" => number (divide Int.tmod)
  | _ => matchStart a b

mutual

/-- The value of operations of a level and of tighter ones; where values do not count, nothing is computed. -/
def exprLevel : Nat → Bool → List (List String) → ExprM Text
  | 0, _, _ => throw "too deep".toList
  | fuel + 1, counts, [] => exprPrimary fuel counts
  | fuel + 1, counts, level :: tighter => do
    let a ← exprLevel fuel counts tighter
    exprAfter fuel counts level tighter a

/-- The value of operations of a level after their first operand. -/
def exprAfter : Nat → Bool → List String → List (List String) → Text → ExprM Text
  | 0, _, _, _, _ => throw "too deep".toList
  | fuel + 1, counts, level, tighter, a => do
    match ← takeOne level with
    | none => return a
    | some op => do
      needArgument
      let decided := (op = ['|'] && !isNull a) || (op = ['&'] && isNull a)
      let b ← exprLevel fuel (counts && !decided) tighter
      let v ← if counts && !decided then liftM (operate op a b)
        else pure (if op = ['&'] && decided then ['0'] else a)
      exprAfter fuel counts level tighter v

/-- The value of an operand. -/
def exprPrimary : Nat → Bool → ExprM Text
  | 0, _ => throw "too deep".toList
  | fuel + 1, counts => do
    needArgument
    let s ← get
    let argument : ExprM Text := do
      needArgument
      exprPrimary fuel counts
    match ← takeOne ["+", "length", "match", "index", "substr", "(", ")"] with
    | none => match s.rest with
      | t :: ts => do
        set (ExprState.mk ts t)
        return t
      | [] => return []
    | some t => match String.ofList t with
      | "+" => do
        needArgument
        match (← get).rest with
        | t :: ts => do
          set (ExprState.mk ts t)
          return t
        | [] => return []
      | "(" => do
        let v ← exprLevel fuel counts exprLevels
        let s ← get
        match s.rest with
        | [] => throw ("syntax error: expecting ')' after " ++ inQuotes s.last)
        | t :: ts => do
          if t ≠ [')'] then throw ("syntax error: expecting ')' instead of " ++ inQuotes t)
          set (ExprState.mk ts t)
          return v
      | ")" => throw "syntax error: unexpected ')'".toList
      | "length" => do return Text.ofNat (← argument).length
      | "match" => do
        let a ← argument
        let b ← argument
        if counts then liftM (matchStart a b) else return []
      | "index" => do
        let a ← argument
        let set ← argument
        return match a.findIdx? set.contains with
          | some i => Text.ofNat (i + 1)
          | none => ['0']
      | _ => do
        let a ← argument
        let first ← argument
        let count ← argument
        return match integer? first, integer? count with
          | some i, some n => if i ≤ 0 || n ≤ 0 then [] else (a.drop (i.toNat - 1)).take n.toNat
          | _, _ => []

end

/-- Print the value of an expression. -/
def expr : Routine := fun ts => do
  Manual.tellAlone ts
  let ts := if ts.head? = some ['-', '-'] then ts.drop 1 else ts
  if ts = [] then misused 2 "missing operand"
  match (exprLevel (32 * (ts.length + 4)) true exprLevels).run ⟨ts, []⟩ with
  | .ok (v, ⟨[], _⟩) => do
    sayLine v
    return if isNull v then 1 else 0
  | .ok (_, ⟨t :: _, _⟩) => giveUp 2 ("syntax error: unexpected argument " ++ inQuotes t)
  | .error message => giveUp 2 message

/-! ### Factors -/

/-- The power of a number that is left over by another one. -/
def powerMod (m base exponent : Nat) : Nat :=
  (Nat.toDigits 2 exponent).foldl (fun r d => if d = '1' then r * r % m * base % m else r * r % m) (1 % m)

/-- How often two divides a number, at most so often, and what is left. -/
def splitTwos : Nat → Nat → Nat × Nat
  | 0, n => (0, n)
  | fuel + 1, n =>
    if n ≠ 0 && n % 2 = 0 then
      let (count, odd) := splitTwos fuel (n / 2)
      (count + 1, odd)
    else (0, n)

/-- Does the number behave like a prime number to a base? -/
def looksPrime (n base : Nat) : Bool :=
  let (twos, odd) := splitTwos (Nat.log2 n + 1) (n - 1)
  let squares := (List.range (twos - 1)).foldl (fun xs _ => (xs.headD 0 * xs.headD 0 % n) :: xs) [powerMod n base odd]
  squares.getLast? = some 1 || squares.contains (n - 1)

/-- The first primes. -/
def smallPrimes : List Nat := [2, 3, 5, 7, 11, 13, 17, 19, 23, 29, 31, 37, 41]

/-- Is it a prime number? -/
def isPrime (n : Nat) : Bool :=
  if n < 2 then false
  else if smallPrimes.any fun p => n % p = 0 then smallPrimes.contains n
  else smallPrimes.all (looksPrime n)

/-- The prime factors of a number from a divisor up to a greatest one, and what is left. -/
def smallFactors : Nat → Nat → Nat → List Nat × Nat
  | 0, _, n => ([], n)
  | fuel + 1, d, n =>
    if n < d * d then ([], n)
    else if n % d = 0 then
      let (fs, rest) := smallFactors fuel d (n / d)
      (d :: fs, rest)
    else smallFactors fuel (d + 1) n

/-- A divisor that two walks in a circle lead to, of which one is twice as fast. -/
def walk (n c : Nat) : Nat → Nat → Nat → Option Nat
  | 0, _, _ => none
  | fuel + 1, slow, fast =>
    let next (x : Nat) : Nat := (x * x + c) % n
    let slow := next slow
    let fast := next (next fast)
    let d := Nat.gcd (if slow < fast then fast - slow else slow - fast) n
    if d = 1 then walk n c fuel slow fast else if d = n then none else some d

/-- The most steps of a walk. -/
def maxWalk : Nat := 1000000

/-- The prime factors of a number that has no small ones. -/
def greatFactors : Nat → Nat → List Nat
  | 0, n => [n]
  | fuel + 1, n =>
    if n < 2 then []
    else if isPrime n then [n]
    else match [1, 2, 3, 5, 7, 11].findSome? fun c => walk n c maxWalk 2 2 with
      | some d => greatFactors fuel d ++ greatFactors fuel (n / d)
      | none => [n]

/-- How many divisors are tried one after another. -/
def triedDivisors : Nat := 4000

/-- The prime factors of a number in order. -/
def factorsOf (n : Nat) : List Nat :=
  let (small, rest) := smallFactors (triedDivisors + Nat.log2 n) 2 n
  small ++ (greatFactors (Nat.log2 n + 1) rest).mergeSort

/-- Print the prime factors of numbers. -/
def factor : Routine := fun ts => do
  let a ← arguments [] true 1 ts
  let numbers ← if a.operands = [] then do
      let t ← readAll
      pure ((Text.split ' ' (t.map fun c => if isWordBlankChar c then ' ' else c)).filter (· ≠ []))
    else pure a.operands
  forEach (fun t => do
    let digits := t.dropWhile (· = ' ')
    match Text.toNat? (if digits.head? = some '+' then digits.drop 1 else digits) with
    | some n => do
      sayLine (Text.ofNat n ++ ":" ++ (factorsOf n).flatMap fun f => ' ' :: Text.ofNat f)
      return 0
    | none => do
      grumble (inQuotes t ++ " is not a valid positive integer")
      return 1) numbers
where
  /-- Is the character a blank between numbers? -/
  isWordBlankChar (c : Char) : Bool := c = ' ' || c = '\t' || c = '\n'

end Rollout.Program
