import Rollout.Machine.Program.Listing

/-!
What is known of a file: its kind and its permissions, whom it belongs to, how large it is, and when it was changed.
-/

namespace Rollout.Program

open Unix

/-! ### Facts -/

/-- The number of the kind and the permissions. -/
def rawMode (t : FileTree) : Nat :=
  (match t with
    | .file .. => 0o100000
    | .dir .. => 0o040000
    | .link .. => 0o120000
    | .device .pipe _ => 0o010000
    | .device .. => 0o020000) + modeOf t

/-- Something that is known of a file: a text, a number to a base, or a time. -/
inductive Fact
  | text (t : Text)
  | number (base n : Nat)
  | time (moment : Int)

/-- What a letter of a format stands for. -/
def fact? (p : Process) (path : Text) (t : FileTree) (letter : Char) : Option Fact :=
  let about := t.about
  let date (moment : Int) : Text := Calendar.format (.ofMoment (zoneOf p) moment) "%Y-%m-%d %H:%M:%S.%N %z"
  let device : Nat × Nat := match t with
    | .device d _ => deviceNumbers d
    | _ => (0, 0)
  match letter with
  | 'n' => some (.text path)
  | 'N' => some (.text (match t with
    | .link target _ => inShellQuotes path ++ " -> " ++ inShellQuotes target
    | _ => inShellQuotes path))
  | 's' => some (.number 10 (sizeOfTree t))
  | 'F' => some (.text (kindName t))
  | 'a' => some (.number 8 (modeOf t))
  | 'A' => some (.text (kindLetter t :: modeText (modeOf t)))
  | 'f' => some (.number 16 (rawMode t))
  | 'U' => some (.text (if userNumbers.any (·.2 = about.owner) then userName about.owner else "UNKNOWN".toList))
  | 'G' => some (.text (if groupNumbers.any (·.2 = about.group) then groupName about.group else "UNKNOWN".toList))
  | 'u' => some (.number 10 about.owner)
  | 'g' => some (.number 10 about.group)
  | 'h' => some (.number 10 (nameCount p.root t))
  | 'b' => some (.number 10 (blocksOf t * 2))
  | 'B' => some (.number 10 512)
  | 'o' => some (.number 10 4096)
  | 't' => some (.number 16 device.1)
  | 'T' => some (.number 16 device.2)
  | 'r' => some (.number 10 (256 * device.1 + device.2))
  | 'R' => some (.number 16 (256 * device.1 + device.2))
  | 'i' => some (.number 10 about.node)
  | 'd' => some (.number 10 1)
  | 'D' => some (.number 16 1)
  | 'X' => some (.time about.used)
  | 'Y' => some (.time about.changed)
  | 'Z' => some (.time about.changed)
  | 'W' => some (.time about.changed)
  | 'x' => some (.text (date about.used))
  | 'y' => some (.text (date about.changed))
  | 'z' => some (.text (date about.changed))
  | 'w' => some (.text (date about.changed))
  | 'm' => some (.text ['/'])
  | 'C' => some (.text ['?'])
  | _ => none

/-- A fact as it is shown with flags and, if it is a time, so many places. -/
def Fact.shown (flags : Text) (width : Nat) (places : Option Nat) : Fact → Text
  | .text t => padded flags (match places with
    | some n => t.take n
    | none => t)
  | .number base n =>
    let lead : Text := if !flags.contains '#' || n = 0 then [] else if base = 8 then ['0'] else if base = 16 then ['0', 'x'] else []
    filled (lead ++ Nat.toDigits base n)
  | .time moment =>
    let whole := Text.ofInt (moment / Calendar.second)
    filled (match places with
      | none => whole
      | some 0 => whole
      | some n =>
        let nanos := Text.ofNat (moment % Calendar.second).toNat
        let digits := List.replicate (9 - nanos.length) '0' ++ nanos ++ List.replicate (n - 9) '0'
        whole ++ '.' :: digits.take n)
where
  /-- The text at least as long as wanted, on one of two sides. -/
  padded (flags t : Text) : Text := if flags.contains '-' then padRight width t else padLeft width t
  /-- The same, or with zeros in front. -/
  filled (t : Text) : Text :=
    if flags.contains '0' && !flags.contains '-' then List.replicate (width - t.length) '0' ++ t else padded flags t

/-! ### Formats -/

/-- The character that a letter behind a backslash stands for. -/
def formatEscape? (c : Char) : Option Char :=
  [('a', '\x07'), ('b', '\x08'), ('e', '\x1b'), ('f', '\x0c'), ('n', '\n'), ('r', '\r'), ('t', '\t'), ('v', '\x0b'),
    ('"', '"'), ('\\', '\\')].lookup c

/-- What a format says about something, and what is said about the format. -/
def byFormat (p : Process) (escapes : Bool) (path : Text) (t : FileTree) : Nat → Text → Text × List Text
  | 0, _ => ([], [])
  | _, [] => ([], [])
  | fuel + 1, '%' :: cs =>
    let flags := cs.takeWhile "-+ 0#'".toList.contains
    let digits := (cs.drop flags.length).takeWhile Char.isDigit
    let rest := cs.drop (flags.length + digits.length)
    let (places, rest) : Option Nat × Text := match rest with
      | '.' :: more =>
        let ds := more.takeWhile Char.isDigit
        (some ((Text.toNat? ds).getD 9), more.drop ds.length)
      | rest => (none, rest)
    match rest with
    | [] => (['%'], [])
    | '%' :: rest =>
      let (u, warnings) := byFormat p escapes path t fuel rest
      ('%' :: u, warnings)
    | c :: rest =>
      let (c, rest) := match c, rest with
        | 'H', 'd' :: more => ('t', more)
        | 'L', 'd' :: more => ('d', more)
        | 'H', 'r' :: more => ('t', more)
        | 'L', 'r' :: more => ('T', more)
        | c, rest => (c, rest)
      let width := (Text.toNat? digits).getD 0
      let shown := match fact? p path t c with
        | some f => f.shown flags width places
        | none => ['?']
      let (u, warnings) := byFormat p escapes path t fuel rest
      (shown ++ u, warnings)
  | fuel + 1, '\\' :: cs =>
    if !escapes then
      let (u, warnings) := byFormat p escapes path t fuel cs
      ('\\' :: u, warnings)
    else
      let digits := (cs.take 3).takeWhile fun d => '0' ≤ d && d ≤ '7'
      let isHex (d : Char) : Bool := d.isDigit || ('a' ≤ d.toLower && d.toLower ≤ 'f')
      let value (base : Nat) (ds : Text) : Char :=
        Char.ofNat (ds.foldl (fun n d => base * n + (if d.isDigit then d.toNat - 48 else d.toLower.toNat - 87)) 0 % 256)
      let (shown, more, warning) : Text × Text × Option Text :=
        if digits ≠ [] then ([value 8 digits], cs.drop digits.length, none)
        else match cs with
          | [] => (['\\'], [], some "warning: backslash at end of format")
          | 'x' :: ds =>
            let hex := (ds.take 2).takeWhile isHex
            if hex = [] then (['x'], ds, some "warning: unrecognized escape '\\x'") else ([value 16 hex], ds.drop hex.length, none)
          | c :: rest => match formatEscape? c with
            | some d => ([d], rest, none)
            | none => ([c], rest, some ("warning: unrecognized escape '\\" ++ c :: ['\'']))
      let (u, warnings) := byFormat p escapes path t fuel more
      (shown ++ u, warning.toList ++ warnings)
  | fuel + 1, c :: cs =>
    let (u, warnings) := byFormat p escapes path t fuel cs
    (c :: u, warnings)

/-- The format that is used when none is given. -/
def usualFormat (path : Text) (t : FileTree) : Text :=
  let mode := octalText (modeOf t)
  let plain (t : Text) : Text := t.flatMap fun c => if c = '%' then ['%', '%'] else [c]
  "  File: " ++ (match t with
    | .link target _ => plain path ++ " -> " ++ plain target
    | _ => plain path) ++ "\n  Size: %-10s\tBlocks: %-10b IO Block: %-6o %F\nDevice: 0,%d\tInode: %-11i Links: " ++ (match t with
    | .device .pipe _ => "%h"
    | .device .. => "%-5h Device type: %t,%T"
    | _ => "%h") ++ "\nAccess: (" ++ List.replicate (4 - mode.length) '0' ++ mode
    ++ "/%A)  Uid: (%5u/%8U)   Gid: (%5g/%8G)\nAccess: %x\nModify: %y\nChange: %z\n Birth: %w\n"

/-- Tell what is known of files. -/
def stat : Routine := fun ts => do
  let a ← arguments [.valued 'c' "format", .valuedWord "printf", .plain 'L' "dereference", .plain 't' "terse",
    .plain 'f' "file-system", .valuedWord "cached"] true 1 ts
  if a.operands = [] then misused 1 "missing operand"
  let p ← get
  let terse : Text := "%n %s %b %f %u %g %D %i %h %t %T %X %Y %Z %W %o"
  forEach (fun path => do
    let found := if a.has "L" || path = ['-'] then p.look (if path = ['-'] then "/dev/stdin" else path)
      else (p.entry path).map (·.2)
    match found with
    | .error e => do
      let what : Text := if path = ['-'] then "cannot stat standard input" else "cannot statx ".toList ++ inShellQuotes path
      grumble (what ++ ": " ++ e)
      return 1
    | .ok t => do
      let (escapes, format, ending) : Bool × Text × Text := match a.last? ["c", "printf"] with
        | some ['c'] => (false, (a.value? "c").getD [], ['\n'])
        | some _ => (true, (a.value? "printf").getD [], [])
        | none => if a.has "t" then (false, terse, ['\n']) else (false, usualFormat path t, [])
      let (shown, warnings) := byFormat p escapes path t (format.length + 1) format
      warnings.forM fun w => grumble w
      say (shown ++ ending)
      if (Text.occursIn "%C" format) then do
        grumble ("failed to get security context of " ++ inShellQuotes path ++ ": No data available")
        return 1
      return 0) a.operands

end Rollout.Program
