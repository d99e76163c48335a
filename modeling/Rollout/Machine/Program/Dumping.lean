import Rollout.Machine.Number.Rounded
import Rollout.Machine.Program.Input

/-!
Showing bytes in other forms: as numbers of several sizes, as characters and as names, or the texts among them.
-/

namespace Rollout.Program

open Unix

/-! ### Forms -/

/-- How bytes are shown. -/
inductive DumpKind
  /-- By their names. -/
  | names
  /-- As characters. -/
  | chars
  /-- As numbers in a base. -/
  | number (base : Nat) (signed : Bool)
  /-- As real numbers of a machine. -/
  | real (p : Precision)
  deriving DecidableEq

/-- A form in which bytes are shown. -/
structure DumpForm where
  /-- How they are shown. -/
  kind : DumpKind
  /-- How many of them make one number. -/
  size : Nat
  /-- Do the characters stand at the end of the line? -/
  trailer : Bool

namespace DumpForm

/-- How wide a number is at most. -/
def width (f : DumpForm) : Nat :=
  let pick (one two four eight : Nat) : Nat :=
    if f.size = 1 then one else if f.size = 2 then two else if f.size = 4 then four else eight
  match f.kind with
  | .names => 3
  | .chars => 3
  | .real _ => pick 0 0 15 (if f.size = 8 then 24 else 29)
  | .number 8 _ => pick 3 6 11 22
  | .number 16 _ => pick 2 4 8 16
  | .number _ true => pick 4 6 11 20
  | .number _ false => pick 3 5 10 20

/-- The names of the characters that cannot be seen. -/
def controlNames : List String :=
  ["nul", "soh", "stx", "etx", "eot", "enq", "ack", "bel", "bs", "ht", "nl", "vt", "ff", "cr", "so", "si", "dle",
    "dc1", "dc2", "dc3", "dc4", "nak", "syn", "etb", "can", "em", "sub", "esc", "fs", "gs", "rs", "us", "sp"]

/-- A number with digits of a base, with zeros in front. -/
def zeroPadded (base width n : Nat) : Text :=
  let t := Nat.toDigits base n
  List.replicate (width - t.length) '0' ++ t

/-- A character, or its code. -/
def charText (c : Char) : Text :=
  match c with
  | '\x00' => ['\\', '0']
  | '\x07' => ['\\', 'a']
  | '\x08' => ['\\', 'b']
  | '\x0c' => ['\\', 'f']
  | '\n' => ['\\', 'n']
  | '\r' => ['\\', 'r']
  | '\t' => ['\\', 't']
  | '\x0b' => ['\\', 'v']
  | c => if Quotation.isPrinted c then [c] else zeroPadded 8 3 c.toNat

/-- The real number that bits stand for: behind the sign the power of two, and then the mantissa, whose first bit
only stands there if the number has 80 bits. -/
def realOf (p : Precision) (n : Nat) : Rounded :=
  let places := if p = .extended then p.bits else p.bits - 1
  let exponents := if p = .single then 8 else if p = .double then 11 else 15
  let mantissa := n % (1 <<< places)
  let power := (n >>> places) % (1 <<< exponents)
  let negative := (n >>> (places + exponents)) % 2 = 1
  if power + 1 = 1 <<< exponents then
    if mantissa % (1 <<< (p.bits - 1)) = 0 then .infinite negative else .nan negative
  else if power = 0 then .finite negative mantissa p.least
  else if p = .extended && !mantissa.testBit (p.bits - 1) then .nan negative
  else .finite negative (if p = .extended then mantissa else mantissa + 1 <<< places) (p.least + power - 1)

/-- The number of decimal digits that a number always keeps. -/
def keptDigits (p : Precision) : Nat := if p = .single then 6 else if p = .double then 15 else 18

/-- The shortest text from so many digits on that denotes the number. -/
def shortestFrom (p : Precision) (r : Rounded) : Nat → Nat → Text
  | 0, digits => r.text 'g' digits false
  | fuel + 1, digits =>
    let t := r.text 'g' digits false
    match r, Rounded.read p t with
    | .finite _ m e, some (.finite _ n f, _) =>
      if Rounded.ratio m e = Rounded.ratio n f || m * (Rounded.ratio n f).2 * (Rounded.ratio 1 e).1
          = (Rounded.ratio n f).1 * (Rounded.ratio 1 e).2 then t
      else shortestFrom p r fuel (digits + 1)
    | .finite .., _ => shortestFrom p r fuel (digits + 1)
    | _, _ => t

/-- A real number as it is shown. -/
def realText (p : Precision) (r : Rounded) : Text :=
  let isSmall := match r with
    | .finite _ m e => e = p.least && m < 1 <<< (p.bits - 1)
    | _ => false
  let t := shortestFrom p r 20 (if isSmall then 1 else keptDigits p)
  if r.isNegative then '-' :: t else t

/-- What is shown for bytes, of which the first counts least. -/
def cell (f : DumpForm) (cs : Text) : Text :=
  match f.kind with
  | .names =>
    let n := (cs.headD '\x00').toNat % 128
    if n = 127 then "del" else match controlNames[n]? with
      | some name => name.toList
      | none => [Char.ofNat n]
  | .chars => charText (cs.headD '\x00')
  | .real p => realText p (realOf p (cs.foldr (fun c n => 256 * n + c.toNat) 0))
  | .number base signed =>
    let n := cs.foldr (fun c n => 256 * n + c.toNat) 0
    if base ≠ 10 then zeroPadded base f.width n
    else
      let range := 1 <<< (8 * f.size)
      if signed && range ≤ 2 * n then '-' :: Text.ofNat (range - n) else Text.ofNat n

end DumpForm

/-- The text cut into pieces of a length. -/
def piecesOfSize (size : Nat) : Nat → Text → List Text
  | 0, _ => []
  | _, [] => []
  | fuel + 1, t => t.take size :: piecesOfSize size fuel (t.drop size)

/-- A line that shows bytes in a form, of which the first or the last counts least; the line has room for so many
bytes, and is so wide at least. -/
def dumpLine (f : DumpForm) (bigFirst : Bool) (room widest : Nat) (cs : Text) : Text :=
  let fields := room / f.size
  let pad := widest - (f.width + 1) * fields
  let cells := (piecesOfSize f.size (cs.length + 1) cs).map fun piece =>
    let filled := piece ++ List.replicate (f.size - piece.length) '\x00'
    f.cell (if bigFirst then filled.reverse else filled)
  let shown := (cells.zipIdx.map fun (cell, k) =>
    let i := fields - k
    padLeft (f.width + 1 + (pad * i / fields - pad * (i - 1) / fields)) cell).flatten
  if f.trailer then
    let blanks := (f.width + 1) * (fields - cells.length) + pad * (fields - cells.length) / fields
    shown ++ List.replicate blanks ' ' ++ "  >" ++ cs.map (fun c => if Quotation.isPrinted c then c else '.') ++ ['<']
  else shown

/-- How a dump is written. -/
structure Dump where
  /-- The forms. -/
  forms : List DumpForm
  /-- How many bytes a line shows. -/
  room : Nat
  /-- The base and the width of the places of lines, if these are written. -/
  radix : Option (Nat × Nat)
  /-- Are lines shown that are the same as the one before? -/
  all : Bool
  /-- Does the first byte of a number count most? -/
  bigFirst : Bool
  /-- What the first byte that is shown is called, besides its place. -/
  label : Option (Nat × Nat)

/-- The place of a line. -/
def Dump.address (d : Dump) (n : Nat) : Text :=
  let shown (base width n : Nat) : Text := DumpForm.zeroPadded base width n
  match d.radix, d.label with
  | some (base, width), none => shown base width n
  | some (base, width), some (start, name) => shown base width n ++ " (" ++ shown base width (n - start + name) ++ [')']
  | none, none => []
  | none, some _ => '(' :: shown 8 7 n ++ [')']

/-- The lines that show bytes from a place on; tells the bytes of the last line and whether there was a star. -/
def Dump.lines (d : Dump) : Nat → Nat → Option Text → Bool → Text → Text
  | 0, _, _, _, _ => []
  | fuel + 1, place, last, starred, cs =>
    let block := cs.take d.room
    if block = [] then (if d.radix.isSome || d.label.isSome then d.address place ++ ['\n'] else [])
    else if !d.all && some block = last then
      (if starred then [] else ['*', '\n']) ++ d.lines fuel (place + block.length) last true (cs.drop d.room)
    else
      let widest := (d.forms.map fun f => (f.width + 1) * (d.room / f.size)).foldl max 0
      let indent := List.replicate ((d.radix.map (·.2)).getD 0) ' '
      let shown := d.forms.zipIdx.flatMap fun (f, k) =>
        (if k = 0 then d.address place else indent) ++ dumpLine f d.bigFirst d.room widest block ++ ['\n']
      let kept := if block.length = d.room then some block else none
      shown ++ d.lines fuel (place + block.length) kept false (cs.drop d.room)

/-- The texts of so many characters at least that a null character ends, with their places, in what stands at a place;
they end before a place. -/
def Dump.strings (d : Dump) (least : Nat) (stop : Option Nat) : Nat → Nat → Text → Text
  | 0, _, _ => []
  | fuel + 1, place, cs =>
    if stop.any fun s => s ≤ place + least then []
    else
      let run := cs.takeWhile Quotation.isPrinted
      let shown (n : Nat) (t : Text) : Text := d.address n ++ (if d.radix.isSome then [' '] else []) ++ t ++ ['\n']
      let room := (stop.map (· - place)).getD (run.length + 1)
      if room ≤ run.length then shown ((place + maxCount) % (maxCount + 1)) (run.take room)
      else match cs.drop run.length with
        | [] => []
        | c :: rest =>
          (if c = '\x00' && least ≤ run.length then shown place run else [])
            ++ d.strings least stop fuel (place + run.length + 1) rest

/-! ### What is asked for -/

/-- The size and the precision of the real numbers that a letter stands for. -/
def realSizes : List (Nat × Precision) := [(4, .single), (8, .double), (16, .extended)]

/-- The form at the start of a text that describes forms, and what follows it; what is wrong is told. -/
def dumpForm (whole : Text) (c : Char) (cs : Text) : Except Text (DumpForm × Text) :=
  let wrong : Text := "invalid type string " ++ inQuotes whole
  let finish (kind : DumpKind) (size : Nat) (rest : Text) : Except Text (DumpForm × Text) :=
    let trailer := rest.head? = some 'z'
    .ok (⟨kind, size, trailer⟩, if trailer then rest.drop 1 else rest)
  let lacking (size : Text) (what : String) : Text :=
    wrong ++ ";\nthis system doesn't provide a " ++ size ++ "-byte " ++ what.toList ++ " type"
  let sized (letters : List (Char × Nat)) (usual : Nat) : Nat × Text × Text :=
    match cs.head?.bind fun c => letters.lookup c with
    | some n => (n, [], cs.drop 1)
    | none =>
      let digits := cs.takeWhile Char.isDigit
      ((Text.toNat? digits).getD usual, digits, cs.drop digits.length)
  let number (kind : DumpKind) : Except Text (DumpForm × Text) :=
    let (size, digits, rest) := sized [('C', 1), ('S', 2), ('I', 4), ('L', 8)] 4
    if maxCount < size then .error wrong
    else if [1, 2, 4, 8].contains size then finish kind size rest
    else .error (lacking (if digits.isEmpty then [] else Text.ofNat size) "integral")
  match c with
  | 'a' => finish .names 1 cs
  | 'c' => finish .chars 1 cs
  | 'd' => number (.number 10 true)
  | 'o' => number (.number 8 false)
  | 'u' => number (.number 10 false)
  | 'x' => number (.number 16 false)
  | 'f' =>
    let (size, _, rest) := sized [('F', 4), ('D', 8), ('L', 16)] 8
    if maxCount < size then .error wrong
    else match realSizes.lookup size with
      | some p => finish (.real p) size rest
      | none => .error (lacking (Text.ofNat size) "floating point")
  | c => .error ("invalid character '" ++ c :: "' in type string " ++ inQuotes whole)

/-- The forms that a text describes. -/
def dumpForms (whole : Text) : Nat → Text → Except Text (List DumpForm)
  | 0, _ => .ok []
  | _, [] => .ok []
  | fuel + 1, c :: cs => do
    let (f, rest) ← dumpForm whole c cs
    let fs ← dumpForms whole fuel rest
    return f :: fs

/-- What options of one letter stand for. -/
def dumpLetters : List (Char × String) :=
  [('a', "a"), ('b', "o1"), ('c', "c"), ('D', "u4"), ('d', "u2"), ('F', "fD"), ('e', "fD"), ('f', "fF"), ('X', "x4"),
    ('H', "x4"), ('i', "dI"), ('I', "dL"), ('L', "dL"), ('l', "dL"), ('O', "o4"), ('B', "o2"), ('o', "o2"),
    ('s', "d2"), ('h', "x2"), ('x', "x2")]

/-- The forms that options ask for; tells whether all are as they have to be. -/
def dumpFormsOf : List (Text × Text) → Act (List DumpForm × Bool)
  | [] => return ([], true)
  | (key, v) :: os => do
    let asked : Option Text := match key with
      | ['t'] => some v
      | [c] => (dumpLetters.lookup c).map String.toList
      | _ => none
    let own ← match asked with
      | none => pure (some [])
      | some t => match dumpForms t (t.length + 1) t with
        | .ok fs => pure (some fs)
        | .error e => do
          grumble e
          pure none
    let (fs, ok) ← dumpFormsOf os
    return (own.getD [] ++ fs, own.isSome && ok)

/-- The place that an operand of the old form stands for: octal unless it has a mark. -/
def oldPlace? (t : Text) : Option Nat :=
  let t := if t.head? = some '+' then t.drop 1 else t
  let (base, digits) : Nat × Text :=
    if "0x".toList.isPrefixOf t || "0X".toList.isPrefixOf t then (16, t.drop 2) else (8, t)
  let isDigit (c : Char) : Bool := if base = 16 then Rounded.isHex c else Rounded.hexValue c < base && c.isDigit
  let ds := digits.takeWhile isDigit
  let n := ds.foldl (fun n c => base * n + Rounded.hexValue c) 0
  if ds.isEmpty then none
  else match digits.drop ds.length with
    | [] => some n
    | ['b'] => some (512 * n)
    | ['B'] => some (1024 * n)
    | _ => none

/-- The files, the place of the first byte and its label, as operands of the old form may give them. -/
def oldOperands (traditional : Bool) (ts : List Text) : List Text × Option Nat × Option Nat :=
  let starts (digits : Bool) (t : Text) : Bool :=
    traditional || t.head?.any fun c => c = '+' || digits && c.isDigit
  match ts with
  | [t] => if starts false t && (oldPlace? t).isSome then ([], oldPlace? t, none) else (ts, none, none)
  | [t, u] =>
    if starts true u && (oldPlace? u).isSome then
      if traditional && (oldPlace? t).isSome then ([], oldPlace? t, oldPlace? u) else ([t], oldPlace? u, none)
    else (ts, none, none)
  | [t, u, v] =>
    if traditional && (oldPlace? u).isSome && (oldPlace? v).isSome then ([t], oldPlace? u, oldPlace? v)
    else (ts, none, none)
  | ts => (ts, none, none)

/-- The options of `od`. -/
def odFlags : List Flag :=
  ([.valued 'A' "address-radix", .valued 't' "format", .valued 'N' "read-bytes", .valued 'j' "skip-bytes",
    .plain 'v' "output-duplicates", ⟨some 'w', some "width".toList, .optional⟩, .valued 'S' "",
    ⟨none, some "strings".toList, .optional⟩, .wordOnly "traditional", .valuedWord "endian"] : List Flag)
    ++ dumpLetters.map fun (c, _) => ⟨some c, none, .none⟩

/-- Show the bytes of files. -/
def od : Routine := fun ts => do
  let a ← arguments odFlags true 1 ts
  let radix ← match a.value? "A" with
    | none => pure (some (8, 7))
    | some t => match t.head? with
      | some 'o' => pure (some (8, 7))
      | some 'd' => pure (some (10, 7))
      | some 'x' => pure (some (16, 6))
      | some 'n' => pure none
      | c => giveUp 1 ("invalid output address radix '" ++ c.toList ++ "'; it must be one character from [doxn]")
  let number (key : String) : Act (Option Nat) := match a.value? key with
    | none => return none
    | some t => return some (← optionCount ('-' :: key.toList) t)
  let skip ← number "j"
  let limit ← number "N"
  let least ← match a.last? ["S", "strings"] with
    | none => pure none
    | some ['S'] => number "S"
    | some _ => do
      let t := (a.value? "strings").getD []
      if t.isEmpty then pure (some 3) else pure (some (← optionCount "--strings" t))
  let (given, ok) ← dumpFormsOf a.options
  let width ← match a.value? "w" with
    | none => pure none
    | some [] => pure (some 32)
    | some t => match Text.toNat? t with
      | some n => if n = 0 then throw (.killed abortSignal) else pure (some n)
      | none =>
        let digits := t.takeWhile Char.isDigit
        giveUp 1 ((if digits.isEmpty then "invalid -w argument " else "invalid suffix in -w argument ").toList
          ++ inQuotes t)
  let bigFirst ← match a.value? "endian" with
    | none => pure false
    | some t => pure ((← choose 1 "--endian" [["little"], ["big"]] t) = "big")
  if !ok then return 1
  if least.isSome && !given.isEmpty then giveUp 1 "no type may be specified when dumping strings"
  let isModern := a.options.any fun o => ["A", "t", "N", "j", "v", "w", "S", "strings"].contains (String.ofList o.1)
  let traditional := a.has "traditional"
  let (paths, place, label) :=
    if traditional || !isModern then oldOperands traditional a.operands else (a.operands, none, none)
  if traditional then match paths with
    | _ :: extra :: _ => do
      grumble ("extra operand " ++ inQuotes extra)
      misused 1 "compatibility mode supports at most one file"
    | _ => pure ()
  let skip := (place.or skip).getD 0
  let forms := if given.isEmpty then [⟨.number 8 false, 2, false⟩] else given
  let size := forms.foldl (fun n f => max n f.size) 1
  let (files, status) ← contents 1 (orInput paths)
  if files.isEmpty then return status
  let all := joined files
  if all.length < skip then giveUp 1 "cannot skip past end of combined input"
  let room ← match width with
    | none => pure 16
    | some n =>
      if n % size = 0 then pure n
      else do
        grumble ("warning: invalid width " ++ Text.ofNat n ++ "; using " ++ Text.ofNat size ++ " instead")
        pure size
  let rest := all.drop skip
  let d : Dump := {
    forms := forms
    room := room
    radix := radix
    all := a.has "v"
    bigFirst := bigFirst
    label := label.map fun n => (skip, n) }
  match least with
  | some least => say (d.strings least (limit.map (skip + ·)) (rest.length + 1) skip rest)
  | none => do
    let shown := match limit with
      | some n => rest.take n
      | none => rest
    say (d.lines (shown.length + 2) skip none false shown)
  return status

end Rollout.Program
