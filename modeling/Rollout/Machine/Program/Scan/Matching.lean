import Rollout.Machine.Program.Scan.Value
import Rollout.Machine.Regex.Parser

/-!
Expressions of scripts that scan records: how they are read, how texts are cut where they match, and how matches are
replaced.
-/

namespace Rollout.Program.Scan

open Escape (isOctal isHex digitsValue)

/-! ### Reading -/

/-- The character that a text behind a backslash starts with, and what follows. -/
def escaped (t : Text) : Text × Text :=
  match t with
  | [] => (['\\'], [])
  | c :: rest =>
    let octal := (t.take 3).takeWhile isOctal
    let hex := (rest.take 2).takeWhile isHex
    if octal ≠ [] then ([Char.ofNat (digitsValue 8 octal % 256)], t.drop octal.length)
    else if c = 'x' && hex ≠ [] then ([Char.ofNat (digitsValue 16 hex)], rest.drop hex.length)
    else match c with
      | 'n' => (['\n'], rest)
      | 't' => (['\t'], rest)
      | 'f' => (['\x0c'], rest)
      | 'b' => (['\x08'], rest)
      | 'r' => (['\r'], rest)
      | 'a' => (['\x07'], rest)
      | 'v' => (['\x0b'], rest)
      | '\\' => (['\\'], rest)
      | '"' => (['"'], rest)
      | c => (['\\', c], rest)

/-- A text in which characters behind backslashes have been replaced. -/
def unescaped : Nat → Text → Text
  | fuel + 1, '\\' :: cs =>
    let (t, rest) := escaped cs
    t ++ unescaped fuel rest
  | fuel + 1, c :: cs => c :: unescaped fuel cs
  | _, t => t

/-- The members of a set in brackets, up to its end: parts that stand for themselves, and what follows the set. -/
def setMembers : Nat → Bool → Text → List Text × Text
  | 0, _, t => ([], t)
  | _, _, [] => ([], [])
  | fuel + 1, first, c :: cs =>
    let one : Text × Text := match c, cs with
      | '\\', d :: rest =>
        let (t, left) := escaped cs
        if t.length = 1 then (t, left) else ([d], rest)
      | '[', ':' :: rest =>
        let name := rest.takeWhile Char.isAlpha
        match rest.drop name.length with
        | ':' :: ']' :: left => ("[:" ++ name ++ ":]", left)
        | _ => (['['], cs)
      | c, cs => ([c], cs)
    if c = ']' && !first then ([], c :: cs)
    else
      let (more, rest) := setMembers fuel false one.2
      (one.1 :: more, rest)

/-- The ranges and characters of a set, with what has a meaning in sets where it has none. -/
def setBody (members : List Text) : Text :=
  let rec ranges : List Text → List Text
    | [a] :: ['-'] :: [b] :: rest => [a, '-', b] :: ranges rest
    | m :: rest => m :: ranges rest
    | [] => []
  let parts := ranges members
  let has (c : Char) : Bool := parts.contains [c]
  let plain := parts.filter fun m => !([[']'], ['['], ['-'], ['^']].contains m)
  (if has ']' then [']'] else []) ++ plain.flatten ++ (if has '[' then ['['] else [])
    ++ (if has '^' then (if plain = [] && !has ']' && !has '[' then "[.^.]".toList else ['^']) else [])
    ++ (if has '-' then ['-'] else [])

/-- An expression of a script in the extended form, where braces mean themselves. -/
def extendedForm : Nat → Text → Text
  | 0, t => t
  | _, [] => []
  | fuel + 1, c :: cs => match c with
    | '\\' =>
      let (t, rest) := escaped cs
      let literal : Text := match t with
        | ['\\', c] => if c.isAlphanum || c = '/' then [c] else ['\\', c]
        | [c] => if "\\^$.[]|()*+?\x7b\x7d".toList.contains c then ['\\', c] else [c]
        | t => t
      literal ++ extendedForm fuel rest
    | '\x7b' => '\\' :: '\x7b' :: extendedForm fuel cs
    | '\x7d' => '\\' :: '\x7d' :: extendedForm fuel cs
    | '[' =>
      let (turned, body) := match cs with
        | '^' :: rest => (true, rest)
        | rest => (false, rest)
      let (members, rest) := setMembers (body.length + 1) true body
      '[' :: (if turned then ['^'] else []) ++ setBody members ++ extendedForm fuel rest
    | c => c :: extendedForm fuel cs

/-- What is said about a text that is no expression. -/
def describeFault : Regex.Fault → Text
  | .open_ => "missing ')'"
  | .close => "missing '('"
  | .bracket => "bad class -- [], [^] or ["
  | .pattern => "bad class -- [], [^] or ["
  | .size => "resource exhaustion -- regular expression too large"
  | _ => "missing operand"

/-- Is there an alternative without anything in it? -/
def lacksOperand : Char → Text → Bool
  | before, [] => before = '|'
  | before, '\\' :: _ :: cs => lacksOperand 'a' cs || before = '\\'
  | before, c :: cs =>
    let opens (c : Char) : Bool := c = '(' || c = '|'
    ((c = '|' || c = ')') && opens before) || lacksOperand c cs

/-- Read an expression. -/
def readExpression (t : Text) : Except Text Regex.Compiled :=
  let form := extendedForm (t.length + 1) t
  let wrong (e : Text) : Except Text Regex.Compiled :=
    .error ("regular expression compile failed (" ++ e ++ ")\n" ++ t)
  match Regex.compile Regex.extended false false form with
  | .error e => wrong (describeFault e)
  | .ok c => if !t.contains '[' && t ≠ [] && lacksOperand (if t.head? = some '|' then '|' else 'a') t then
      wrong "missing operand" else .ok c

/-! ### Cutting -/

/-- What separates the parts of a text. -/
inductive Separator
  /-- Blanks. -/
  | blanks
  /-- Nothing: every character is a part. -/
  | nothing
  /-- A character. -/
  | char (c : Char)
  /-- What an expression matches. -/
  | expression (c : Regex.Compiled)

/-- The separator that a text stands for. -/
def Separator.ofText? (t : Text) : Except Text Separator :=
  match t with
  | [] => .ok .nothing
  | [' '] => .ok .blanks
  | [c] => .ok (.char c)
  | t => (readExpression t).map .expression

/-- The words between blanks. -/
def words : Nat → Text → List Text
  | 0, _ => []
  | fuel + 1, t =>
    let t := t.dropWhile isBlank
    if t = [] then []
    else
      let word := t.takeWhile (!isBlank ·)
      word :: words fuel (t.drop word.length)

/-- The parts between matches of an expression that are not empty. -/
def cutByMatches (c : Regex.Compiled) (t : Text) : Nat → Nat → Nat → List Text
  | 0, start, _ => [t.drop start]
  | fuel + 1, start, after =>
    match c.search t after with
    | none => [t.drop start]
    | some m =>
      if m.text = [] then
        if m.start < t.length then cutByMatches c t fuel start (m.start + 1) else [t.drop start]
      else (t.drop start).take (m.start - start) :: cutByMatches c t fuel m.finish m.finish

/-- The parts of a text. -/
def Separator.cut (s : Separator) (t : Text) : List Text :=
  if t = [] then []
  else match s with
    | .blanks => words (t.length + 1) t
    | .nothing => t.map fun c => [c]
    | .char c => Text.split c t
    | .expression c => cutByMatches c t (t.length + 2) 0 0

/-! ### Records -/

/-- What separates records: the same, or empty lines. -/
inductive RecordEnd
  /-- Lines that are empty. -/
  | emptyLines
  /-- A separator. -/
  | separator (s : Separator)

/-- What separates records if a text says so. -/
def RecordEnd.ofText? (t : Text) : Except Text RecordEnd :=
  match t with
  | [] => .ok .emptyLines
  | [c] => .ok (.separator (.char c))
  | t => (readExpression t).map fun c => .separator (.expression c)

/-- The text up to an empty line, and what follows it. -/
def toEmptyLine : Text → Text × Text
  | '\n' :: '\n' :: rest => ([], rest)
  | ['\n'] => ([], [])
  | c :: rest =>
    let (t, rest) := toEmptyLine rest
    (c :: t, rest)
  | [] => ([], [])

/-- The first record of a text, and what follows it. -/
def RecordEnd.take? (e : RecordEnd) (t : Text) : Option (Text × Text) :=
  match e with
  | .emptyLines =>
    let t := t.dropWhile (· = '\n')
    if t = [] then none
    else
      let (record, rest) := toEmptyLine t
      some (record, rest.dropWhile (· = '\n'))
  | .separator s =>
    if t = [] then none
    else match s with
      | .char c =>
        let record := t.takeWhile (· ≠ c)
        some (record, t.drop (record.length + 1))
      | .expression c =>
        let rec found (fuel after : Nat) : Option Regex.Match := match fuel with
          | 0 => none
          | fuel + 1 => match c.search t after with
            | some m => if m.text ≠ [] then some m else if m.start < t.length then found fuel (m.start + 1) else none
            | none => none
        match found (t.length + 1) 0 with
        | some m => some (t.take m.start, t.drop m.finish)
        | none => some (t, [])
      | _ => some (t, [])

/-! ### Replacing -/

/-- What a match is replaced by: an ampersand stands for the match unless it is behind a backslash. -/
def replacement (matched : Text) : Text → Text
  | '\\' :: '\\' :: '&' :: cs => '\\' :: matched ++ replacement matched cs
  | '\\' :: '&' :: cs => '&' :: replacement matched cs
  | '&' :: cs => matched ++ replacement matched cs
  | c :: cs => c :: replacement matched cs
  | [] => []

/-- Replace the first match. -/
def replaceFirst (c : Regex.Compiled) (new t : Text) : Option Text :=
  (c.search t 0).map fun m => t.take m.start ++ replacement m.text new ++ t.drop m.finish

/-- Replace all matches from a place on; an empty one right behind another match does not count. -/
def replaceFrom (c : Regex.Compiled) (new t : Text) : Nat → Nat → Option Nat → Nat × List Text
  | 0, start, _ => (0, [t.drop start])
  | fuel + 1, start, last =>
    match c.search t start with
    | none => (0, [t.drop start])
    | some m =>
      let before := (t.drop start).take (m.start - start)
      if m.text = [] then
        let counts := last ≠ some m.start
        let here : Text := if counts then replacement [] new else []
        let (n, ts) :=
          if m.start < t.length then replaceFrom c new t fuel (m.start + 1) none else (0, [])
        (n + (if counts then 1 else 0), before :: here :: (t.drop m.start).take 1 :: ts)
      else
        let (n, ts) := replaceFrom c new t fuel m.finish (some m.finish)
        (n + 1, before :: replacement m.text new :: ts)

/-- Replace all matches; gives their number, too. -/
def replaceAll (c : Regex.Compiled) (new t : Text) : Nat × Text :=
  let (n, ts) := replaceFrom c new t (t.length + 2) 0 none
  (n, ts.flatten)

end Rollout.Program.Scan
