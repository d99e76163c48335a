import Rollout.Machine.Calendar.Format
import Rollout.Machine.Number.Rounded
import Rollout.Machine.Unix.Quotation
import Rollout.Text.Basic

/-!
Printing by formats: characters behind a backslash, and directives that take arguments. Formats have three
manners, which differ in the escapes they know and in what they say about arguments.
-/

namespace Rollout.Unix.Format

open Escape (isOctal isHex digitsValue encoded)

/-- The manners of formats. -/
inductive Manner
  /-- That of the plain dialect. -/
  | plain
  /-- That of the rich dialect. -/
  | rich
  /-- That of a program. -/
  | program
  deriving DecidableEq

/-- The clock that a format may show: the zone, the moment, and the moment at which the process was started. -/
structure Clock where
  /-- The zone. -/
  zone : Calendar.Zone
  /-- The moment. -/
  now : Int
  /-- When the process was started. -/
  started : Int

/-! ### Escapes -/

/-- Where an escape stands. -/
inductive Context
  /-- In a format. -/
  | format
  /-- In an argument of a format. -/
  | argument
  /-- In an argument that is printed in a row with others. -/
  | row
  deriving DecidableEq

/-- What a letter behind a backslash stands for. -/
def control? (m : Manner) (w : Context) : Char → Option Char
  | 'a' => some '\x07'
  | 'b' => some '\x08'
  | 'e' => some '\x1b'
  | 'E' => if m = .rich then some '\x1b' else none
  | 'f' => some '\x0c'
  | 'n' => some '\n'
  | 'r' => some '\r'
  | 't' => some '\t'
  | 'v' => some '\x0b'
  | '\\' => some '\\'
  | '"' => if w = .format && m ≠ .plain || w = .argument && m = .program then some '"' else none
  | '\'' => if m = .rich && w = .format then some '\'' else none
  | '?' => if m = .rich && w = .format then some '?' else none
  | _ => none

/-- What an escape came to. -/
structure Escaped where
  /-- What is printed for it. -/
  text : Text
  /-- What follows it. -/
  rest : Text
  /-- What is wrong with it. -/
  complaint : Option Text
  /-- Does printing go on? -/
  goesOn : Bool

/-- May no name be made of the number of a character? -/
def isUnnamed (n : Nat) : Bool := (n ≤ 0x9f && !([0x24, 0x40, 0x60].contains n)) || (0xd800 ≤ n && n ≤ 0xdfff)

/-- What the text behind a backslash starts with. -/
def escape (m : Manner) (w : Context) (t : Text) : Escaped :=
  match t with
  | [] => ⟨['\\'], [], none, true⟩
  | c :: cs =>
    let unknown : Escaped := ⟨['\\', c], cs, none, true⟩
    let lacking (what : String) : Escaped :=
      if w = .row then unknown
      else if m = .program then ⟨[], cs, some "missing hexadecimal number in escape", false⟩
      else { unknown with complaint := some ("missing " ++ what.toList ++ " digit for \\" ++ [c]) }
    let byte (n : Nat) : Text := [Char.ofNat (n % 256)]
    if isOctal c && !(m = .rich && w = .row) then
      let ds := ((c :: cs).take 3).takeWhile isOctal
      ⟨byte (digitsValue 8 ds), (c :: cs).drop ds.length, none, true⟩
    else if m ≠ .plain && c = 'x' then
      let ds := (cs.take 2).takeWhile isHex
      if ds = [] then lacking "hex" else ⟨byte (digitsValue 16 ds), cs.drop ds.length, none, true⟩
    else if (c = 'u' || c = 'U') && (m = .rich || m = .program && w ≠ .row) then
      let most := if c = 'u' then 4 else 8
      let ds := (cs.take most).takeWhile isHex
      let n := digitsValue 16 ds
      if ds = [] || (m = .program && ds.length < most) then lacking "unicode"
      else if m = .program && isUnnamed n then
        ⟨[], cs, some ("invalid universal character name \\" ++ c :: Escape.hexDigits most n), false⟩
      else ⟨encoded n, cs.drop ds.length, none, true⟩
    else match control? m w c with
      | some e => ⟨[e], cs, none, true⟩
      | none => unknown

/-- A text with escapes as it is printed, what is wrong with them, and whether printing goes on after it. Octal
numbers may have a zero in front. -/
def escaped (m : Manner) (w : Context) : Nat → Text → Text × List Text × Bool
  | 0, _ => ([], [], true)
  | _, [] => ([], [], true)
  | _ + 1, '\\' :: 'c' :: _ => ([], [], false)
  | fuel + 1, '\\' :: '0' :: cs =>
    let ds := (cs.take 3).takeWhile isOctal
    let (t, complaints, goesOn) := escaped m w fuel (cs.drop ds.length)
    (Char.ofNat (digitsValue 8 ds % 256) :: t, complaints, goesOn)
  | fuel + 1, '\\' :: cs =>
    let e := escape m w cs
    if !e.goesOn then (e.text, e.complaint.toList, false)
    else
      let (t, complaints, goesOn) := escaped m w fuel e.rest
      (e.text ++ t, e.complaint.toList ++ complaints, goesOn)
  | fuel + 1, c :: cs =>
    let (t, complaints, goesOn) := escaped m w fuel cs
    (c :: t, complaints, goesOn)

/-- A text with escapes as it is printed. -/
def unescape (m : Manner) (w : Context) (t : Text) : Text × List Text × Bool := escaped m w (t.length + 1) t

/-! ### Arguments in a row -/

/-- Is it an option of printing arguments in a row? -/
def isOption : Text → Bool
  | '-' :: c :: cs => (c :: cs).all "neE".toList.contains
  | _ => false

/-- What is printed for arguments in a row, and a newline unless it is not wanted. -/
def echo (m : Manner) (arguments : List Text) : Text :=
  let print (escapes newline : Bool) (ts : List Text) : Text :=
    let t := Text.join [' '] ts
    let (t, _, goesOn) := if escapes then unescape m .row t else (t, [], true)
    if goesOn && newline then t ++ ['\n'] else t
  match m with
  | .plain => match arguments with
    | ['-', 'n'] :: ts => print true false ts
    | ts => print true true ts
  | _ =>
    let options := arguments.takeWhile isOption
    let letters := options.flatten.filter (· ≠ '-')
    let escapes := (letters.reverse.find? fun c => c = 'e' || c = 'E') = some 'e'
    print escapes (!letters.contains 'n') (arguments.drop options.length)

/-! ### Directives -/

/-- What printing has come to. -/
structure Printed where
  /-- What is printed, the latest first. -/
  texts : List Text
  /-- The arguments that are left. -/
  arguments : List Text
  /-- What was wrong with arguments. -/
  complaints : List Text
  /-- The status. -/
  status : Nat
  /-- Does printing go on? -/
  goesOn : Bool
  /-- The variables that get the number of characters printed before. -/
  counts : List (Text × Nat)

/-- All that is printed. -/
def Printed.text (r : Printed) : Text := r.texts.reverse.flatten

/-- Add a text. -/
def Printed.add (r : Printed) (t : Text) : Printed := { r with texts := t :: r.texts }

/-- Complain about something. -/
def Printed.complain (r : Printed) (status : Nat) (t : Text) : Printed :=
  { r with complaints := r.complaints ++ [t], status := max status r.status }

/-- The end of printing after a complaint. -/
def Printed.stop (r : Printed) (status : Nat) (t : Text) : Printed := { r.complain status t with goesOn := false }

/-- What may be wrong with a number. -/
inductive Flaw
  | noNumber
  | partly
  | outOfRange
  | surplus
  deriving DecidableEq

/-- What is said about a flaw of a number, and the status. -/
def Flaw.message (m : Manner) (t : Text) : Flaw → Text × Nat
  | .noNumber => match m with
    | .plain => (t ++ ": expected numeric value", 1)
    | .rich => (t ++ ": invalid number", 1)
    | .program => (inQuotes t ++ ": expected a numeric value", 1)
  | .partly => match m with
    | .plain => (t ++ ": not completely converted", 1)
    | .rich => (t ++ ": invalid number", 1)
    | .program => (inQuotes t ++ ": value not completely converted", 1)
  | .outOfRange => match m with
    | .plain => (t ++ ": Numerical result out of range", 1)
    | .rich => ("warning: " ++ t ++ ": Numerical result out of range", 0)
    | .program => (inQuotes t ++ ": Numerical result out of range", 1)
  | .surplus => ("warning: " ++ t.drop 2 ++ ": character(s) following character constant have been ignored", 0)

/-- The integer at the start of a text, and what follows it. -/
def integerAt (t : Text) : Option (Int × Text) :=
  let t := t.dropWhile fun c => c = ' ' || ('\t' ≤ c && c ≤ '\r')
  let (negative, digits) := match t with
    | '-' :: ds => (true, ds)
    | '+' :: ds => (false, ds)
    | ds => (false, ds)
  let read (base skipped : Nat) (isDigit : Char → Bool) : Option (Int × Text) :=
    let ds := (digits.drop skipped).takeWhile isDigit
    let n : Int := digitsValue base ds
    some (if negative then -n else n, digits.drop (skipped + ds.length))
  match digits with
  | '0' :: x :: c :: _ => if (x = 'x' || x = 'X') && isHex c then read 16 2 isHex else read 8 0 isOctal
  | '0' :: _ => read 8 0 isOctal
  | c :: _ => if c.isDigit then read 10 0 Char.isDigit else none
  | [] => none

/-- The code of the character behind a quotation mark. -/
def codeOf? : Text → Option Nat
  | '"' :: cs => some ((cs.head?.map Char.toNat).getD 0)
  | '\'' :: cs => some ((cs.head?.map Char.toNat).getD 0)
  | _ => none

/-- What is wrong with a character behind a quotation mark. -/
def codeFlaw (m : Manner) (t : Text) : Option Flaw :=
  if m ≠ .program then none
  else if t.length = 1 then some .noNumber
  else if 2 < t.length then some .surplus
  else none

/-- The integer that an argument denotes, and what is wrong with it. -/
def integerOf (m : Manner) (unsigned : Bool) (t : Text) : Int × Option Flaw :=
  match codeOf? t with
  | some n => (n, codeFlaw m t)
  | none =>
    if t = [] then (0, none)
    else match integerAt t with
      | none => (0, some .noNumber)
      | some (n, rest) =>
        let least : Int := if unsigned then -18446744073709551615 else -9223372036854775808
        let most : Int := if unsigned then 18446744073709551615 else 9223372036854775807
        let flaw := if rest ≠ [] then some Flaw.partly else none
        if n < least then (if unsigned then most else least, some .outOfRange)
        else if most < n then (most, some .outOfRange)
        else (n, flaw)

/-- The real number that an argument denotes, and what is wrong with it. -/
def realOf (p : Precision) (t : Text) : Rounded × Option Flaw :=
  match codeOf? t with
  | some n => (Rounded.ofInt p n, none)
  | none =>
    if t = [] then (.finite false 0 0, none)
    else match Rounded.read p t with
      | none => (.finite false 0 0, some .noNumber)
      | some (r, rest) => (r, if rest ≠ [] then some .partly else none)

/-- The printing after a flaw of a number was noticed. -/
def Printed.note (r : Printed) (m : Manner) (t : Text) : Option Flaw → Printed
  | none => r
  | some f =>
    let (said, status) := f.message m t
    r.complain status said

/-- Take an integer from the arguments. -/
def Printed.takeInteger (r : Printed) (m : Manner) (unsigned : Bool) : Int × Printed :=
  match r.arguments with
  | [] => (0, r)
  | t :: ts =>
    let (n, flaw) := integerOf m unsigned t
    (n, ({ r with arguments := ts }).note m t flaw)

/-- Take a real number from the arguments. -/
def Printed.takeReal (r : Printed) (m : Manner) : Rounded × Printed :=
  match r.arguments with
  | [] => (.finite false 0 0, r)
  | t :: ts =>
    let (n, flaw) := realOf (if m = .plain then .double else .extended) t
    (n, ({ r with arguments := ts }).note m t flaw)

/-- Read a width from a directive, or take it from the arguments. -/
def takeWidth (m : Manner) (t : Text) (r : Printed) : Int × Text × Printed :=
  match t with
  | '*' :: t =>
    let (n, r) := r.takeInteger m false
    (n, t, r)
  | t =>
    let ds := t.takeWhile Char.isDigit
    ((Text.toNat? ds).getD 0, t.drop ds.length, r)

/-- The greatest width that is filled up. -/
def maxWidth : Nat := 4000000

/-- Read the flags, the width and the precision of a directive. -/
def directive (m : Manner) (t : Text) (r : Printed) : Directive × Text × Printed :=
  let flags := t.takeWhile fun c => Directive.isFlag c || (m ≠ .plain && c = '\'')
  let (width, t, r) := takeWidth m (t.drop flags.length) r
  let flags := if width < 0 then '-' :: flags else flags
  let width := min width.natAbs maxWidth
  match t with
  | '.' :: t =>
    let (precision, t, r) := takeWidth m t r
    (⟨flags, width, if precision < 0 then none else some (min precision.toNat maxWidth)⟩, t, r)
  | t => (⟨flags, width, none⟩, t, r)

/-- A text as it is written in the rich dialect so that it is read back. -/
def richQuoted (t : Text) : Text :=
  if t = [] then ['\'', '\'']
  else if t.any fun c => !Quotation.isPrinted c then
    "$'".toList ++ (t.flatMap fun c =>
      if c = '\'' || c = '\\' then ['\\', c]
      else if c = '\x1b' then ['\\', 'E']
      else if Quotation.isPrinted c then [c] else '\\' :: Quotation.escape c) ++ ['\'']
  else
    let isPlain (c : Char) : Bool := c.isAlphanum || "%+-./:=@_".toList.contains c
    match t with
    | [] => []
    | c :: cs =>
      let show1 (first : Bool) (c : Char) : Text :=
        if isPlain c || (!first && (c = '#' || c = '~')) then [c] else ['\\', c]
      show1 true c ++ cs.flatMap (show1 false)

/-- May the marks of a directive stand in front of the letter? -/
def suits (m : Manner) (d : Directive) (letter : Char) : Bool :=
  m ≠ .program
    || !((d.has '\'' && "aAceEosxX".toList.contains letter) || (d.has '#' && "cdisu".toList.contains letter)
      || (d.has '0' && (letter = 'c' || letter = 's')) || (d.precision.isSome && letter = 'c'))

/-- Has the directive nothing but a letter? -/
def isBare (d : Directive) : Bool := d.flags.isEmpty && d.width = 0 && d.precision.isNone

/-- Print one value for the letter of a directive; there may be no such letter. -/
def value (m : Manner) (d : Directive) (letter : Char) (r : Printed) : Option Printed :=
  let argument := r.arguments.head?.getD []
  let left := { r with arguments := r.arguments.drop 1 }
  match letter with
  | 's' => some (left.add (d.text argument))
  | 'c' => some (left.add (d.text (if argument = [] then ['\x00'] else argument.take 1)))
  | 'b' =>
    let (t, complaints, goesOn) := unescape m .argument argument
    let status := if m = .program && !complaints.isEmpty then 1 else 0
    if m = .program && !isBare d then none
    else some { complaints.foldl (·.complain status) (left.add (d.text t)) with goesOn := goesOn }
  | 'q' => match m with
    | .plain => none
    | .rich => some (left.add (d.text (richQuoted argument)))
    | .program => if isBare d then some (left.add (nameOf argument)) else none
  | 'Q' =>
    if m ≠ .rich then none
    else
      let shown := (d.precision.map argument.take).getD argument
      some (left.add ({ d with precision := none }.text (richQuoted shown)))
  | 'n' =>
    if m ≠ .rich then none
    else some { left with counts := left.counts ++ r.arguments.head?.toList.map fun name => (name, r.text.length) }
  | letter =>
    if "di".toList.contains letter then
      let (n, r) := r.takeInteger m false
      some (r.add (d.integer letter n))
    else if "ouxX".toList.contains letter then
      let (n, r) := r.takeInteger m true
      some (r.add (d.integer letter n))
    else if "feEgGFaA".toList.contains letter then
      let (x, r) := r.takeReal m
      some (r.add (d.real letter x))
    else none

/-- What stands up to the closing parenthesis, and what follows that. -/
def parenthesized : Nat → Text → Option (Text × Text)
  | _, [] => none
  | depth, c :: cs =>
    if c = ')' && depth = 0 then some ([], cs)
    else
      let depth := if c = '(' then depth + 1 else if c = ')' then depth - 1 else depth
      (parenthesized depth cs).map fun (t, rest) => (c :: t, rest)

/-- Print a moment by a format of its own. -/
def moment (k : Clock) (d : Directive) (format : Text) (r : Printed) : Printed :=
  let (n, r) := match r.arguments with
    | [] => (-1, r)
    | _ => r.takeInteger .rich false
  let at_ := if n = -1 then k.now else if n = -2 then k.started else n * Calendar.second
  r.add (d.text (Calendar.format (.ofMoment k.zone at_) (if format = [] then "%X" else format)))

/-- Print a format once; a directive that means nothing ends it. -/
def once (m : Manner) (k : Clock) : Nat → Text → Printed → Printed
  | 0, _, r => r
  | _, [], r => r
  | fuel + 1, '\\' :: cs, r =>
    if m = .program && cs.head? = some 'c' then { r with goesOn := false }
    else
      let e := escape m .format cs
      match e.complaint with
      | none => once m k fuel e.rest (r.add e.text)
      | some t => if e.goesOn then once m k fuel e.rest ((r.complain 0 t).add e.text) else r.stop 1 t
  | fuel + 1, '%' :: '%' :: cs, r => once m k fuel cs (r.add ['%'])
  | fuel + 1, '%' :: cs, r =>
    let (d, rest, r) := directive m cs r
    let rest := if m = .plain then rest else rest.dropWhile "hjlLtz".toList.contains
    match rest with
    | [] => match m with
      | .plain => r.stop 2 "missing format character"
      | .rich => r.stop 1 "`%': missing format character"
      | .program => r.stop 1 ('%' :: cs ++ ": invalid conversion specification")
    | letter :: rest =>
      match if m = .rich && letter = '(' then parenthesized 0 rest else none with
      | some (format, 'T' :: rest) => once m k fuel rest (moment k d format r)
      | some (_, rest) =>
        let found : Text := (rest.head?.getD '$') :: "': invalid time format specification".toList
        once m k fuel cs ((r.complain 0 ("warning: `" ++ found)).add ['%'])
      | none => match if suits m d letter then value m d letter r else none with
        | none =>
          let written := '%' :: cs.take (cs.length - rest.length)
          match m with
          | .plain => r.stop 2 (written ++ ": invalid directive")
          | .rich => r.stop 1 ("`" ++ letter :: "': invalid format character".toList)
          | .program => r.stop 1 (written ++ ": invalid conversion specification")
        | some r => if r.goesOn then once m k fuel rest r else r
  | fuel + 1, c :: cs, r => once m k fuel cs (r.add [c])

/-- Print a format as often as it takes to use the arguments. -/
def repeated (m : Manner) (k : Clock) (format : Text) : Nat → Printed → Printed
  | 0, r => r
  | fuel + 1, r =>
    let next := once m k (format.length + 1) format r
    if next.goesOn && next.arguments.length < r.arguments.length && !next.arguments.isEmpty then
      repeated m k format fuel next
    else next

/-- Print a format with arguments. -/
def format (m : Manner) (k : Clock) (t : Text) (arguments : List Text) : Printed :=
  repeated m k t (arguments.length + 1) ⟨[], arguments, [], 0, true, []⟩

end Rollout.Unix.Format
