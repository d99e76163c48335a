import Rollout.Machine.Program.Blocks
import Rollout.Machine.Unix.Executable
import Rollout.Machine.Unix.Signal

/-!
Splitting a file into parts, each of which becomes a file: after so many lines or bytes, or into a number of parts.
-/

namespace Rollout.Program

open Unix

/-! ### Where files are cut -/

/-- How lines are dealt out to a number of parts. -/
inductive Dealing
  /-- By bytes, wherever lines end. -/
  | bytes
  /-- As whole lines, about as many bytes to each part. -/
  | lines
  /-- As whole lines, one after another to each part. -/
  | turns
  deriving DecidableEq

/-- Where a file is cut. -/
inductive Cut
  /-- After so many lines. -/
  | lines (n : Nat)
  /-- After so many bytes. -/
  | bytes (n : Nat)
  /-- After as many whole lines as have at most so many bytes. -/
  | records (n : Nat)
  /-- Into a number of parts, of which only one may be wanted. -/
  | parts (how : Dealing) (wanted : Option Nat) (n : Nat)

namespace Cut

/-- The items in groups of a size. -/
def groupsOf {α : Type} (size : Nat) : Nat → List α → List (List α)
  | 0, _ => []
  | _, [] => []
  | fuel + 1, xs => xs.take size :: groupsOf size fuel (xs.drop size)

/-- The pieces of a text with at most so many bytes, which end with lines as long as lines have no more. -/
def recordsOf (stop : Char) (size : Nat) : Nat → Text → List Text
  | 0, _ => []
  | _, [] => []
  | fuel + 1, t =>
    let window := t.take size
    let upToLine := (window.reverse.dropWhile (· ≠ stop)).reverse
    let piece := if (t.drop size).isEmpty || upToLine.isEmpty then window else upToLine
    piece :: recordsOf stop size fuel (t.drop piece.length)

/-- A number of parts, of which the last has what is left. -/
def evenParts (size : Nat) : Nat → Text → List Text
  | 0, _ => []
  | 1, t => [t]
  | n + 1, t => t.take size :: evenParts size n (t.drop size)

/-- Lines with the numbers of the parts in which they start, where each has a size. -/
def placed (size n : Nat) : Nat → List Text → List (Nat × Text)
  | _, [] => []
  | start, l :: ls => (min (n - 1) (start / size), l) :: placed size n (start + l.length) ls

/-- The parts that numbered lines make. -/
def collected (n : Nat) (lines : List (Nat × Text)) : List Text :=
  (List.range n).map fun i => (lines.filter fun l => l.1 = i).flatMap (·.2)

/-- The parts of a text, whose lines end with a character. -/
def apply (stop : Char) (t : Text) : Cut → List Text
  | lines n => (groupsOf n (t.length + 1) (piecesEndingWith stop t)).map List.flatten
  | bytes n => Copying.piecesOf n t
  | records n => recordsOf stop n t.length t
  | parts how _ n =>
    let size := max t.length n / n
    match how with
    | .bytes => evenParts size n t
    | .lines => collected n (placed size n 0 (piecesEndingWith stop t))
    | .turns => collected n ((piecesEndingWith stop t).zipIdx.map fun (l, i) => (i % n, l))

/-- The number that an option has, not below one and not above a greatest one. -/
def number (what : String) (most : Nat) (n : Option Nat) (t : Text) : Act Nat := do
  let about : Text := "invalid " ++ what.toList ++ ": " ++ inQuotes t
  match n with
  | none => giveUp 1 about
  | some n =>
    if maxCount < n then giveUp 1 (about ++ ": Value too large for defined data type")
    else if n = 0 || most < n then giveUp 1 (about ++ ": Numerical result out of range")
    else return n

/-- Parts as a text asks for them. -/
def partsFrom (t : Text) : Act Cut := do
  let t := t.dropWhile fun c => c = ' ' || ('\t' ≤ c && c ≤ '\r')
  let (how, t) : Dealing × Text := match t with
    | 'r' :: '/' :: t => (.turns, t)
    | 'l' :: '/' :: t => (.lines, t)
    | t => (.bytes, t)
  let count (t : Text) : Act Nat := number "number of chunks" maxCount (Text.toNat? t) t
  let first := t.takeWhile (· ≠ '/')
  if first.length = t.length then return parts how none (← count t)
  else
    let n ← count (t.drop (first.length + 1))
    return parts how (some (← number "chunk number" n (Text.toNat? first) first)) n

end Cut

/-! ### Names of parts -/

/-- How parts are named. -/
structure PartNames where
  /-- What stands in front. -/
  stem : Text
  /-- The digits of the number. -/
  digits : Text
  /-- How many digits there are. -/
  length : Nat
  /-- Do later numbers have more digits? -/
  grows : Bool
  /-- The first number. -/
  first : Nat
  /-- What stands behind. -/
  ending : Text

namespace PartNames

/-- A number with so many digits. -/
def numeral (digits : Text) : Nat → Nat → Text
  | 0, _ => []
  | k + 1, n => numeral digits k (n / digits.length) ++ [digits.getD (n % digits.length) 'a']

/-- The digits of a number where more of them follow the last digit when the others are used up. -/
def growing (digits : Text) : Nat → Nat → Nat → Text
  | 0, k, n => numeral digits k n
  | fuel + 1, k, n =>
    let room := (digits.length - 1) * Nat.pow digits.length (k - 1)
    if n < room then numeral digits k n
    else digits.getLast?.toList ++ growing digits fuel (k + 1) (n - room)

/-- The name of the part with a number, unless there are no more names. -/
def name? (names : PartNames) (i : Nat) : Option Text :=
  let n := names.first + i
  if names.grows then some (names.stem ++ growing names.digits 64 names.length n ++ names.ending)
  else if n < Nat.pow names.digits.length names.length then
    some (names.stem ++ numeral names.digits names.length n ++ names.ending)
  else none

/-- How many digits are needed for numbers up to one. -/
def needed (base : Nat) : Nat → Nat → Nat
  | 0, _ => 1
  | fuel + 1, n => if n < base then 1 else needed base fuel (n / base) + 1

/-- The names that options ask for, for so many parts if their number is known. -/
def ofArguments (a : Arguments) (stem : Text) (parts : Option Nat) : Act PartNames := do
  let key := a.last? ["d", "x", "numeric-suffixes", "hex-suffixes"]
  let digits : Text := match key.map String.ofList with
    | none => "abcdefghijklmnopqrstuvwxyz"
    | some "x" => "0123456789abcdef"
    | some "hex-suffixes" => "0123456789abcdef"
    | some _ => "0123456789"
  let start := ((key.bind fun k => a.value? (String.ofList k)).getD []).dropWhile (· = '0')
  let given := (key.bind fun k => a.value? (String.ofList k)).getD []
  if !given.all digits.contains then
    misused 1 (inQuotes given ++ ": invalid start value for "
      ++ (if digits.length = 10 then "numerical".toList else "hexadecimal") ++ " suffix")
  let first := start.foldl (fun n c => digits.length * n + (digits.idxOf? c).getD 0) 0
  let wanted ← match a.value? "a" with
    | none => pure 0
    | some t => match Text.toNat? t with
      | some n => pure n
      | none => giveUp 1 ("invalid suffix length: " ++ inQuotes t)
  let last := parts.map fun n => n - 1 + if first < n then first else 0
  let least := (last.map (needed digits.length 64)).getD 0
  if 0 < wanted && wanted < least then
    giveUp 1 ("the suffix length needs to be at least " ++ Text.ofNat least)
  let length := if 0 < wanted then wanted else max 2 least
  if length < start.length then
    giveUp 1 "numerical suffix start value is too large for the suffix length"
  let ending := (a.value? "additional-suffix").getD []
  if ending.contains '/' then
    misused 1 ("invalid suffix " ++ inQuotes ending ++ ", contains directory separator")
  return ⟨stem, digits, length, wanted = 0 && parts.isNone && given.isEmpty, first, ending⟩

end PartNames

/-! ### Writing parts -/

/-- How parts are written. -/
structure PartWriting where
  /-- The file that is split. -/
  source : Text
  /-- The names of the parts. -/
  names : PartNames
  /-- The command that gets each part instead of its file. -/
  filter : Option Text
  /-- Are parts without content left out? -/
  elides : Bool
  /-- Is each part told? -/
  verbose : Bool

/-- Is the path the same file as the one that is read? -/
def isInput (p : Process) (source path : Text) : Bool :=
  let input : Option Nat :=
    if source ≠ ['-'] then (p.find? source).map (·.about.node)
    else match p.descriptors.lookup 0 with
      | some (.file i) => (p.handles[i]?).map (·.node)
      | _ => none
  input.isSome && (p.find? path).map (·.about.node) = input

/-- Write a part to its file, or give it to the command. -/
def PartWriting.write (run : Runner) (w : PartWriting) (i : Nat) (t : Text) : Act Unit := do
  match w.names.name? i with
  | none => giveUp 1 "output file suffixes exhausted"
  | some name => match w.filter with
    | some line => do
      if w.verbose then sayLine ("executing with FILE=" ++ inQuotes name)
      flush
      let env := (← get).env
      modify fun p => { p with env := p.env.insert "FILE" name }
      let stream ← openStream (.ofText t)
      let status ← runLine run "sh" line [(0, .reader stream)]
      modify fun p => { p with env := env }
      if 256 ≤ status then
        giveUp 1 ("with FILE=" ++ name ++ ", signal " ++ Signal.name (status - 256) ++ " from command: " ++ line)
      else if status ≠ 0 then
        giveUp 1 ("with FILE=" ++ name ++ ", exit " ++ Text.ofNat status ++ " from command: " ++ line)
    | none => do
      if w.verbose then sayLine ("creating file " ++ inQuotes name)
      if isInput (← get) w.source name then giveUp 1 (inQuotes name ++ " would overwrite input; aborting")
      match ← openForWriting false name with
      | .error e => giveUp 1 (nameOf name ++ ": " ++ e)
      | .ok d => match ← writeTo t d with
        | some e => giveUp 1 (nameOf name ++ ": " ++ e)
        | none => return

/-! ### The program -/

/-- The options of `split`. -/
def splitFlags : List Flag :=
  ([.valued 'a' "suffix-length", .valuedWord "additional-suffix", .valued 'b' "bytes", .valued 'C' "line-bytes",
    .plain 'd' "", ⟨none, some "numeric-suffixes".toList, .optional⟩, .plain 'x' "",
    ⟨none, some "hex-suffixes".toList, .optional⟩, .plain 'e' "elide-empty-files", .valuedWord "filter",
    .valued 'l' "lines", .valued 'n' "number", .valued 't' "separator", .plain 'u' "unbuffered",
    .wordOnly "verbose"] : List Flag) ++ "0123456789".toList.map fun c => ⟨some c, none, .optional⟩

/-- Where a file is cut after one more option. -/
def cutAfter (cut : Option Cut) (o : Text × Text) : Act (Option Cut) := do
  let only (c : Act Cut) : Act (Option Cut) := do
    if cut.isSome then misused 1 "cannot split in more than one way"
    return some (← c)
  match String.ofList o.1 with
  | "l" => only do return .lines (← Cut.number "number of lines" maxCount (Text.toNat? o.2) o.2)
  | "b" => only do return .bytes (← Cut.number "number of bytes" maxCopied (sizeOf? o.2) o.2)
  | "C" => only do return .records (← Cut.number "number of bytes" maxCopied (sizeOf? o.2) o.2)
  | "n" => only (Cut.partsFrom o.2)
  | _ => match Text.toNat? (o.1 ++ o.2) with
    | some n => only do
      if n = 0 then giveUp 1 "invalid number of lines: '0'"
      return .lines n
    | none => return cut

/-- The character at the end of lines that options ask for. -/
def separatorFrom (values : List Text) : Act Char := do
  let stops ← values.mapM fun t => match t with
    | [] => giveUp 1 "empty record separator"
    | [c] => return c
    | ['\\', '0'] => return '\x00'
    | t => giveUp 1 ("multi-character separator " ++ inQuotes t)
  match stops with
  | [] => return '\n'
  | c :: cs => if cs.all (· = c) then return c else giveUp 1 "multiple separator characters specified"

/-- Split a file into parts. -/
def split (run : Runner) : Routine := fun ts => do
  let a ← arguments splitFlags true 1 ts
  let stop ← separatorFrom (a.values "t")
  let cut := (← a.options.foldlM cutAfter none).getD (.lines 1000)
  let (source, stem) : Text × Text ← match a.operands with
    | [] => pure (['-'], ['x'])
    | [f] => pure (f, ['x'])
    | [f, s] => pure (f, s)
    | _ :: _ :: t :: _ => misused 1 ("extra operand " ++ inQuotes t)
  let (parts, wanted) : Option Nat × Option Nat := match cut with
    | .parts _ wanted n => (some n, wanted)
    | _ => (none, none)
  let names ← PartNames.ofArguments a stem parts
  let filter := a.value? "filter"
  if filter.isSome && wanted.isSome then misused 1 "--filter does not process a chunk extracted to stdout"
  let p ← get
  match cut with
  | .parts .turns .. => pure ()
  | .parts .. =>
    let unsized := match source, p.descriptors.lookup 0 with
      | ['-'], some (.file _) => false
      | ['-'], _ => true
      | _, _ => false
    if unsized then giveUp 1 (source ++ ": cannot determine file size")
  | _ => pure ()
  let opened := match p.look source with
    | .error e => some e
    | .ok _ => none
  match if source = ['-'] then none else opened with
  | some e => giveUp 1 ("cannot open " ++ inShellQuotes source ++ " for reading: " ++ e)
  | none => match ← contentOf source with
    | .error e => giveUp 1 (nameOf source ++ ": " ++ e)
    | .ok t => do
      let pieces := cut.apply stop t
      match wanted with
      | some k => say (pieces.getD (k - 1) [])
      | none =>
        let pieces := if a.has "e" then pieces.filter (!·.isEmpty) else pieces
        let w : PartWriting := ⟨source, names, filter, a.has "e", a.has "verbose"⟩
        pieces.zipIdx.forM fun (t, i) => w.write run i t
      return 0

end Rollout.Program
