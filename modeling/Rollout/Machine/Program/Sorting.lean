import Rollout.Machine.Number.Rounded
import Rollout.Machine.Program.Input
import Rollout.Machine.Version

/-!
Putting lines in order, by keys that are parts of them: from one position to another, compared as texts, numbers,
months or versions.
-/

namespace Rollout.Program

open Unix

/-! ### Comparing -/

/-- Is the character a blank of a line? -/
def isBlank (c : Char) : Bool := c = ' ' || c = '\t'

/-- Compare texts character by character. -/
def compareTexts (a b : Text) : Ordering := if a < b then .lt else if b < a then .gt else .eq

/-- A decimal number at the start of a text after blanks: its sign, its digits, and those behind the point. -/
def decimalAt (t : Text) : Bool × Text × Text :=
  let t := t.dropWhile isBlank
  let (negative, t) := match t with
    | '-' :: t => (true, t)
    | t => (false, t)
  let (whole, rest) := Rounded.digitsOf t
  let part := match rest with
    | '.' :: rest => (Rounded.digitsOf rest).1
    | _ => []
  (negative, whole, part)

/-- The decimal number at the start of a text, in units that so many places make. -/
def scaledAt (places : Nat) (t : Text) : Int :=
  let (negative, whole, part) := decimalAt t
  let digits := whole ++ part ++ List.replicate (places - part.length) '0'
  let n : Int := (Text.toNat? digits).getD 0
  if negative then -n else n

/-- Compare the decimal numbers at the start of texts. -/
def compareNumbers (a b : Text) : Ordering :=
  let places := max (decimalAt a).2.2.length (decimalAt b).2.2.length
  compare (scaledAt places a) (scaledAt places b)

/-- The power of a thousand that the letter after a number stands for. -/
def unitPower (t : Text) : Nat :=
  let rest := (t.dropWhile isBlank).dropWhile fun c => c = '-' || c.isDigit || c = '.'
  match rest.head? with
  | some c => match "KMGTPEZYRQ".toList.idxOf? c with
    | some i => i + 1
    | none => if c = 'k' then 1 else 0
  | none => 0

/-- Compare numbers with letters for powers of a thousand. -/
def compareUnits (a b : Text) : Ordering :=
  let sign (t : Text) : Int := if scaledAt 20 t < 0 then -1 else if scaledAt 20 t = 0 then 0 else 1
  let order (s : Int) (o : Ordering) : Ordering := if s < 0 then o.swap else o
  (compare (sign a) (sign b)).then
    ((order (sign a) (compare (unitPower a) (unitPower b))).then (compareNumbers a b))

/-- The place of a real number among others, as a quotient with a sign. -/
def compareReals (a b : Text) : Ordering :=
  match Rounded.read .extended a, Rounded.read .extended b with
  | none, none => .eq
  | none, some _ => .lt
  | some _, none => .gt
  | some (x, _), some (y, _) =>
    let rank (r : Rounded) : Int := match r with
      | .nan _ => -2
      | .infinite true => -1
      | .finite .. => 0
      | .infinite false => 1
    let value (r : Rounded) : Int × Nat := match r with
      | .finite negative m e =>
        let (n, d) := Rounded.ratio m e
        (if negative then -(n : Int) else n, d)
      | _ => (0, 1)
    (compare (rank x) (rank y)).then
      (compare ((value x).1 * ((value y).2 : Int)) ((value y).1 * ((value x).2 : Int)))

/-- The number of a month that a text starts with. -/
def monthOf (t : Text) : Nat :=
  let start := ((t.dropWhile isBlank).take 3).map Char.toUpper
  match ["JAN", "FEB", "MAR", "APR", "MAY", "JUN", "JUL", "AUG", "SEP", "OCT", "NOV", "DEC"].idxOf?
      (String.ofList start) with
  | some i => i + 1
  | none => 0

/-! ### Keys -/

/-- A part of lines by which they are compared. -/
structure SortKey where
  /-- The number of fields before it. -/
  field : Nat
  /-- The number of characters before it in its first field. -/
  char : Nat
  /-- The number of fields before the end, and the characters of the field at the end that belong to it; without
  these the whole field does. -/
  finish : Option (Nat × Nat)
  /-- Letters for how it is compared. -/
  letters : Text
  /-- Letters that stand behind its end. -/
  finishLetters : Text

/-- What follows a number of fields. -/
def afterFields (separator : Option Char) : Nat → Text → Text
  | 0, t => t
  | n + 1, t => match separator with
    | some s => afterFields separator n ((t.dropWhile (· ≠ s)).drop 1)
    | none => afterFields separator n ((t.dropWhile isBlank).dropWhile (!isBlank ·))

/-- What follows fields of which the last keeps its separator out. -/
def afterLastField (separator : Option Char) (n : Nat) (t : Text) : Text :=
  match separator, n with
  | some s, n + 1 => (afterFields separator n t).dropWhile (· ≠ s)
  | _, n => afterFields separator n t

/-- The part of a line that a key is. -/
def SortKey.part (k : SortKey) (separator : Option Char) (line : Text) : Text :=
  let skip (on : Bool) (t : Text) : Text := if on then t.dropWhile isBlank else t
  let start := (skip (k.letters.contains 'b') (afterFields separator k.field line)).drop k.char
  let rest := match k.finish with
    | none => []
    | some (field, 0) => afterLastField separator (field + 1) line
    | some (field, n) => (skip (k.finishLetters.contains 'b') (afterFields separator field line)).drop n
  start.take (start.length - rest.length)

/-- Compare parts of lines as letters say. -/
def compareBy (letters : Text) (a b : Text) : Ordering :=
  let prepare (t : Text) : Text :=
    let t := if letters.contains 'd' then t.filter fun c => c.isAlphanum || isBlank c
      else if letters.contains 'i' then t.filter Quotation.isPrinted else t
    if letters.contains 'f' then t.map Char.toUpper else t
  if letters.contains 'n' then compareNumbers a b
  else if letters.contains 'h' then compareUnits a b
  else if letters.contains 'g' then compareReals a b
  else if letters.contains 'M' then compare (monthOf a) (monthOf b)
  else if letters.contains 'V' then (Version.compare a b).then (compareTexts a b)
  else compareTexts (prepare a) (prepare b)

/-- Compare lines by keys, the first that tells them apart. -/
def compareKeys (separator : Option Char) (ks : List SortKey) (a b : Text) : Ordering :=
  match ks with
  | [] => .eq
  | k :: ks =>
    let order := compareBy k.letters (k.part separator a) (k.part separator b)
    (if k.letters.contains 'r' then order.swap else order).then (compareKeys separator ks a b)

/-- Why a text describes no key: what is said, and about which part. -/
abbrev KeyFault := String × Text

/-- A number at the start of a text, and what follows. -/
def keyNumber (problem : String) (t : Text) : Except KeyFault (Nat × Text) :=
  let (digits, rest) := Rounded.digitsOf t
  match Text.toNat? digits with
  | some n => .ok (n, rest)
  | none => .error (problem ++ ": invalid count at start of ", t)

/-- The letters at the start of a text that say how keys are compared, and what follows. -/
def keyLetters (t : Text) : Text × Text :=
  let letters := t.takeWhile "bdfghiMnRrV".toList.contains
  (letters, t.drop letters.length)

/-- The start or the end of a key: a field, a character in it if one is given, letters, and what follows. -/
def keyPosition (problem : String) (whole t : Text) : Except KeyFault (Nat × Option Nat × Text × Text) := do
  let (field, rest) ← keyNumber problem t
  if field = 0 then throw ("field number is zero: invalid field specification ", whole)
  let (char, rest) ← match rest with
    | '.' :: rest => do
      let (char, rest) ← keyNumber "invalid number after '.'" rest
      pure (some char, rest)
    | rest => pure (none, rest)
  return (field, char, keyLetters rest)

/-- The key that a text describes; letters that stand for all keys count if it has none of its own. -/
def readKey (common : Text) (t : Text) : Except KeyFault SortKey := do
  let given (own : Text) : Text := if own = [] then common else own
  let (field, char, letters, rest) ← keyPosition "invalid number at field start" t t
  if char = some 0 then throw ("character offset is zero: invalid field specification ", t)
  let start (finish : Option (Nat × Nat)) (letters finishLetters : Text) : SortKey :=
    ⟨field - 1, char.getD 1 - 1, finish, letters, finishLetters⟩
  match rest with
  | [] => return start none (given letters) []
  | ',' :: rest => do
    let (last, lastChar, lastLetters, rest) ← keyPosition "invalid number after ','" t rest
    if rest ≠ [] then throw ("stray character in field spec: invalid field specification ", t)
    let own := letters ++ lastLetters
    -- a blank that is left out counts for one end only
    let without (other : Text) : Text := if other.contains 'b' then own else own.filter (· ≠ 'b')
    if own = [] then return start (some (last - 1, lastChar.getD 0)) common common
    return start (some (last - 1, lastChar.getD 0)) (without letters) (without lastLetters)
  | _ => throw ("stray character in field spec: invalid field specification ", t)

/-- Letters that cannot be obeyed together, if there are any among those of a key. -/
def contradiction? (letters : Text) : Option Text :=
  let has (c : Char) : Nat := if letters.contains c then 1 else 0
  let last := (letters.reverse.find? fun c => c = 'd' || c = 'i').toList
  let other := if letters.contains 'V' || letters.contains 'R' || last ≠ [] then 1 else 0
  if 1 < has 'n' + has 'g' + has 'h' + has 'M' + other then
    some ("dfghiMnRV".toList.filter fun c => if c = 'd' || c = 'i' then last.contains c else letters.contains c)
  else none

/-- Arguments in which the old form of keys is replaced: a plus sign before a start, a dash before an end. -/
def withKeys : List Text → List Text
  | [] => []
  | ['-', '-'] :: ts => ['-', '-'] :: ts
  | ('+' :: c :: cs) :: ts =>
    let position (t : Text) : Nat × Nat × Text :=
      let (field, rest) := Rounded.digitsOf t
      let (char, rest) := match rest with
        | '.' :: rest => Rounded.digitsOf rest
        | rest => ([], rest)
      ((Text.toNat? field).getD 0, (Text.toNat? char).getD 0, rest)
    if !c.isDigit then ('+' :: c :: cs) :: withKeys ts
    else
      let (field, char, letters) := position (c :: cs)
      let start := Text.ofNat (field + 1) ++ '.' :: Text.ofNat (char + 1) ++ letters
      match ts with
      | ('-' :: d :: ds) :: rest =>
        if d.isDigit then
          let (last, lastChar, lastLetters) := position (d :: ds)
          let finish := if lastChar = 0 then Text.ofNat (max last 1)
            else Text.ofNat (last + 1) ++ '.' :: Text.ofNat lastChar
          ['-', 'k'] :: (start ++ ',' :: finish ++ lastLetters) :: withKeys rest
        else ['-', 'k'] :: start :: withKeys (('-' :: d :: ds) :: rest)
      | rest => ['-', 'k'] :: start :: withKeys rest
  | t :: ts => t :: withKeys ts
  termination_by ts => ts.length

/-- The options of sorting. -/
def sortFlags : List Flag :=
  [.plain 'b' "ignore-leading-blanks", .plain 'd' "dictionary-order", .plain 'f' "ignore-case",
    .plain 'g' "general-numeric-sort", .plain 'h' "human-numeric-sort", .plain 'i' "ignore-nonprinting",
    .plain 'M' "month-sort", .plain 'n' "numeric-sort", .plain 'r' "reverse", .plain 'V' "version-sort",
    .plain 'R' "random-sort", .plain 'c' "", .plain 'C' "", ⟨none, some "check".toList, .optional⟩, .valued 'k' "key",
    .plain 'm' "merge", .valued 'o' "output", .plain 's' "stable", .valued 'S' "buffer-size",
    .valued 't' "field-separator", .valued 'T' "temporary-directory", .plain 'u' "unique",
    .plain 'z' "zero-terminated", .valuedWord "parallel", .valuedWord "sort", .valuedWord "files0-from",
    .valuedWord "batch-size", .valuedWord "compress-program", .wordOnly "debug", .valuedWord "random-source"]

/-- The first of each run of equal lines. -/
def firstOfEach (same : Text → Text → Bool) : List Text → List Text
  | a :: b :: rest => if same a b then firstOfEach same (a :: rest) else a :: firstOfEach same (b :: rest)
  | ts => ts
  termination_by ts => ts.length

/-- The number of the first line that does not belong behind the one before it, counted from 2. -/
def disorder (ok : Text → Text → Bool) : Nat → List Text → Option (Nat × Text)
  | n, a :: b :: rest => if ok a b then disorder ok (n + 1) (b :: rest) else some (n, b)
  | _, _ => none

/-- The lines of the files that are sorted, file by file; the first that cannot be read ends the process. -/
def sortInput (stop : Char) (checking : Bool) : List Text → Act (List (List Text))
  | [] => return []
  | path :: paths => do
    match ← contentOf path with
    | .ok t =>
      let lines := (piecesEndingWith stop t).map (withoutEnd stop)
      return lines :: (← sortInput stop checking paths)
    | .error e =>
      let problem : String := if e = "Is a directory".toList then "read failed: "
        else if checking then "open failed: " else "cannot read: "
      giveUp 2 (problem ++ nameOf path ++ ": " ++ e)

/-- Write the lines of files in order. -/
def sort : Routine := fun ts => do
  let a ← arguments sortFlags true 2 (withKeys ts)
  let checks ← (a.values "check").mapM fun t =>
    if t = [] then pure 1 else chooseGroup 1 "--check" [["quiet", "silent"], ["diagnose-first"]] t
  let sorts ← (a.values "sort").mapM fun t => do
    let word ← choose 1 "--sort"
      [["general-numeric"], ["human-numeric"], ["month"], ["numeric"], ["random"], ["version"]] t
    return ((word.toList.take 1).map fun c => if c = 'm' then 'M' else if c = 'r' then 'R' else if c = 'v' then 'V' else c)
  let quiet := a.has "C" || checks.contains 0
  let loud := a.has "c" || checks.contains 1
  if quiet && loud then giveUp 2 "options '-cC' are incompatible"
  let common := (a.options.flatMap fun o => if "bdfghiMnRrV".toList.contains (o.1.headD ' ') && o.1.length = 1
    then o.1 else []) ++ sorts.flatten
  let separators ← (a.values "t").mapM fun t => match t with
    | [c] => pure c
    | ['\\', '0'] => pure '\x00'
    | [] => giveUp 2 "empty tab"
    | t => giveUp 2 ("multi-character tab " ++ inQuotes t)
  let separator := separators.head?
  if separators.any (some · ≠ separator) then giveUp 2 "incompatible tabs"
  let outputs := a.values "o"
  if outputs.any (some · ≠ outputs.head?) then giveUp 2 "multiple output files specified"
  let keys ← (a.values "k").mapM fun t => match readKey common t with
    | .ok k => pure k
    | .error (problem, part) => giveUp 2 (problem ++ inQuotes part)
  let keys := if keys = [] then [⟨0, 0, none, common, []⟩] else keys
  match keys.findSome? fun k => contradiction? k.letters with
  | some letters => giveUp 2 ("options '-" ++ letters ++ "' are incompatible")
  | none => pure ()
  let operands ← match a.value? "files0-from" with
    | none => pure a.operands
    | some list => do
      let named ← namedFiles 2 list a.operands
      if named = [] then giveUp 2 ("no input from " ++ inShellQuotes list)
      match named.find? fun n => (nameFault? list n).isSome with
      | some wrong => giveUp 2 ((nameFault? list wrong).getD [])
      | none => pure (named.map Prod.snd)
  match operands with
  | _ :: extra :: _ =>
    if loud || quiet then
      giveUp 2 ("extra operand " ++ inQuotes extra ++ " not allowed with -" ++ (if loud then ['c'] else ['C']))
  | _ => pure ()
  let unique := a.has "u"
  let byKeys := compareKeys separator keys
  let whole (x y : Text) : Ordering := if common.contains 'r' then (compareTexts x y).swap else compareTexts x y
  let order (x y : Text) : Ordering := if unique || a.has "s" then byKeys x y else (byKeys x y).then (whole x y)
  let stop := if a.has "z" then '\x00' else '\n'
  let files ← sortInput stop (loud || quiet) (orInput operands)
  if loud || quiet then
    match disorder (fun x y => if unique then order x y == .lt else order x y != .gt) 2 files.flatten with
    | none => return 0
    | some (n, line) => do
      if loud then
        grumble (operands.head?.getD ['-'] ++ ":" ++ Text.ofNat n ++ ": disorder: " ++ line)
      return 1
  else do
    let before (x y : Text) : Bool := order x y != .gt
    let sorted := if a.has "m" then files.foldl (fun xs ys => xs.merge ys before) []
      else files.flatten.mergeSort before
    let shown := if unique then firstOfEach (fun x y => byKeys x y == .eq) sorted else sorted
    let out := shown.flatMap (· ++ [stop])
    match outputs.head? with
    | none => say out
    | some path => match ← openForWriting false path with
      | .ok d => let _ ← writeTo out d
      | .error e => giveUp 2 ("open failed: " ++ nameOf path ++ ": " ++ e)
    return 0

end Rollout.Program
