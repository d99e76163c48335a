import Rollout.Machine.Program.Input
import Std.Data.HashMap

/-!
Putting lines in an order that is drawn. A draw takes as many bytes as it needs, and keeps what they say beyond it for
the next one, so that each choice is as likely as the others.
-/

namespace Rollout.Program

open Unix

/-! ### Drawing -/

/-- Where numbers are drawn from. -/
structure Urn where
  /-- The bytes that are left of a file. -/
  bytes : Text
  /-- The file; without it, bytes come in no order. -/
  file : Option Text
  /-- A number that is left from earlier draws. -/
  number : Nat
  /-- The greatest number that it could be. -/
  most : Nat

/-- Drawing numbers. -/
abbrev Drawing := StateT Urn Act

namespace Urn

/-- The next byte. -/
def byte : Drawing Nat := do
  let u ← get
  match u.file, u.bytes with
  | some _, c :: cs => do
    set { u with bytes := cs }
    return c.toNat
  | some path, [] => liftM (giveUp 1 (inQuotes path ++ ": end of file") : Act Nat)
  | none, _ => do
    let t ← liftM (readDevice .random 1)
    return (t.headD '\x00').toNat

/-- Take bytes until the number that is left could be as great as another one. -/
def fill (most : Nat) : Nat → Drawing Unit
  | 0 => return
  | fuel + 1 => do
    if (← get).most < most then
      let b ← byte
      modify fun u => { u with
        number := 256 * u.number + b
        most := 256 * u.most + 255 }
      fill most fuel

/-- A number up to another one, drawn again as long as it would not be fair. -/
def upTo (most : Nat) : Nat → Drawing Nat
  | 0 => return 0
  | fuel + 1 => do
    fill most 16
    let u ← get
    if u.most = most then
      set { u with
        number := 0
        most := 0 }
      return u.number
    let choices := most + 1
    let excess := u.most - most
    let unusable := excess % choices
    let last := u.most - unusable
    if u.number ≤ last then
      set { u with
        number := u.number / choices
        most := excess / choices }
      return u.number % choices
    set { u with
      number := u.number - last - 1
      most := unusable - 1 }
    upTo most fuel

/-- A number below another one. -/
def below (n : Nat) : Drawing Nat := upTo (n - 1) 1000

/-- So many different numbers below another one, in the order in which they are drawn; numbers that have been put in
the place of others are kept. -/
def different (n : Nat) : Nat → Nat → Std.HashMap Nat Nat → Drawing (List Nat)
  | 0, _, _ => return []
  | count + 1, i, moved => do
    let j := i + (← below (n - i))
    let chosen := (moved.get? j).getD j
    let other := (moved.get? i).getD i
    return chosen :: (← different n count (i + 1) (moved.insert j other))

/-- So many numbers below another one, which may be the same. -/
def many (n : Nat) : Nat → Drawing (List Nat)
  | 0 => return []
  | count + 1 => do
    let i ← below n
    return i :: (← many n count)

/-- As many of the items as there may be, each as likely as the others; later items take the places of earlier ones. A
place is drawn before it is known whether there is another item. -/
def sample (size : Nat) : Nat → Array Text → List Text → Drawing (Array Text)
  | i, kept, [] => do
    if size ≤ i then
      let _ ← below (i + 1)
    return kept
  | i, kept, t :: ts => do
    if i < size then sample size (i + 1) (kept.push t) ts
    else
      let j ← below (i + 1)
      sample size (i + 1) (kept.setIfInBounds j t) ts

end Urn

/-! ### The program -/

/-- The first and the last number of a range. -/
def numberRange? (t : Text) : Option (Nat × Nat) := do
  let first := t.takeWhile (· ≠ '-')
  let a ← Text.toNat? first
  let b ← Text.toNat? (t.drop (first.length + 1))
  if b + 1 < a || maxCount < a || maxCount < b then none else some (a, b)

/-- How many lines are written at most where they may be repeated. -/
def maxDraws : Nat := 10000

/-- Put lines in an order that is drawn. -/
def shuf : Routine := fun ts => do
  let a ← arguments [.plain 'e' "echo", .valued 'i' "input-range", .valued 'n' "head-count", .valued 'o' "output",
    .valuedWord "random-source", .plain 'r' "repeat", .plain 'z' "zero-terminated"] true 1 ts
  let range ← match a.values "i" with
    | [] => pure none
    | [t] => match numberRange? t with
      | some r => pure (some r)
      | none => giveUp 1 ("invalid input range: " ++ inQuotes t)
    | _ => giveUp 1 "multiple -i options specified"
  let counts ← (a.values "n").mapM fun t => match Text.toNat? t with
    | some n => return n
    | none => giveUp 1 ("invalid line count: " ++ inQuotes t)
  let same (values : List Text) (problem : Text) : Act (Option Text) := do
    if (values.any fun v => some v ≠ values.head?) then giveUp 1 problem else return values.head?
  let target ← same (a.values "o") "multiple output files specified"
  let source ← same (a.values "random-source") "multiple random sources specified"
  if a.has "e" && range.isSome then misused 1 "cannot combine -e and -i options"
  match if range.isSome then a.operands.head? else if a.has "e" then none else a.operands[1]? with
  | some t => misused 1 ("extra operand " ++ inQuotes t)
  | none => pure ()
  let stop := if a.has "z" then '\x00' else '\n'
  let head := counts.min?
  let path := a.operands.headD ['-']
  let isFile := path ≠ ['-'] || (match (← get).descriptors.lookup 0 with
    | some (.file _) => true
    | _ => false)
  let lines : List Text ←
    if head = some 0 || range.isSome then pure []
    else if a.has "e" then pure a.operands
    else match ← contentOf path with
      | .ok t => pure ((piecesEndingWith stop t).map (withoutEnd stop))
      | .error e =>
        giveUp 1 ((if (← get).isDir path then "read error".toList else nameOf path) ++ ": " ++ e)
  let bytes ← match source with
    | none => pure []
    | some f => match ← contentOf f with
      | .ok t => pure t
      | .error e => giveUp 1 (nameOf f ++ ": " ++ e)
  let first := (range.map (·.1)).getD 0
  let draw : Drawing (List Text) := do
    let sampled := range.isNone && !a.has "e" && !a.has "r" && !isFile && head.isSome
    let items ← if sampled then Urn.sample (head.getD 0) 0 #[] lines else pure lines.toArray
    let size := (range.map fun r => r.2 + 1 - r.1).getD items.size
    let shown (i : Nat) : Text := if range.isSome then Text.ofNat (first + i) else items.getD i []
    if head = some 0 then return []
    else if a.has "r" then
      if size = 0 then liftM (giveUp 1 "no lines to repeat" : Act Unit)
      return (← Urn.many size (min maxDraws (head.getD maxDraws))).map shown
    else return (← Urn.different size (min size (head.getD size)) 0 ∅).map shown
  let (chosen, _) ← draw.run ⟨bytes, source, 0, 0⟩
  let t := chosen.flatMap (· ++ [stop])
  match target with
  | none => say t
  | some f => match ← openForWriting false f with
    | .ok d => do
      let _ ← writeTo t d
    | .error e => giveUp 1 (nameOf f ++ ": " ++ e)
  return 0

end Rollout.Program
