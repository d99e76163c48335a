import Rollout.Machine.Shell.Token
import Rollout.Text.Basic

/-!
The regions of a text in which the pieces of words stand, and what of commands is read without reading the
commands inside of them: names, operators, assignments and given texts.
-/

namespace Rollout.Shell

namespace Parser

open Escape

/-! ### Pieces of words -/

/-- The surroundings in which pieces stand. -/
inductive Region
  /-- Outside of quotes, up to the next token. -/
  | bare
  /-- Between double quotes. -/
  | quotes
  /-- Between braces, which may stand between quotes; some marks may end it, too. -/
  | braces (quoted : Bool) (marks : Text)
  /-- In an arithmetic expression, with so many open parentheses. -/
  | sum (depth : Nat)
  /-- In an arithmetic expression up to a mark, with so many open parentheses. -/
  | clause (depth : Nat) (mark : Char)
  /-- Between parentheses in a pattern. -/
  | alternatives
  /-- In a regular expression, with so many open parentheses. -/
  | expression (depth : Nat)
  /-- Between brackets after a name, with so many of them open. -/
  | subscript (depth : Nat)
  /-- A text that is given in the commands. -/
  | document
  deriving DecidableEq

namespace Region

/-- Do characters mean themselves? -/
def quoted : Region → Bool
  | .bare => false
  | .braces q _ => q
  | .alternatives => false
  | .expression _ => false
  | .subscript _ => false
  | _ => true

/-- The number of characters that end the region here. -/
def closing? : Region → Text → Option Nat
  | .bare, c :: _ => if " \t\n;&|()<>".toList.contains c then some 0 else none
  | .expression 0, c :: _ => if " \t\n".toList.contains c then some 0 else none
  | .quotes, '"' :: _ => some 1
  | .braces _ marks, c :: _ => if c = '\x7d' then some 1 else if marks.contains c then some 0 else none
  | .sum 0, ')' :: ')' :: _ => some 2
  | .clause 0 mark, c :: _ => if c = mark then some 0 else if c = ')' then some 0 else none
  | .alternatives, ')' :: _ => some 1
  | .subscript 0, ']' :: _ => some 1
  | _, _ => none

/-- The mark that is missing, and what is said about it, when the text ends inside of the region. -/
def unfinished : Region → Option (Text × Text)
  | .quotes => some (['"'], "Unterminated quoted string")
  | .braces .. => some (['\x7d'], "Missing '\x7d'")
  | .sum _ => some ([')'], "Missing '))'")
  | .clause .. => some ([')'], "Missing '))'")
  | .alternatives => some ([')'], "Missing ')'")
  | .subscript _ => some ([']'], "Missing ']'")
  | _ => none

/-- The region after a character. -/
def after : Region → Char → Region
  | .sum n, '(' => .sum (n + 1)
  | .sum n, ')' => .sum (n - 1)
  | .clause n m, '(' => .clause (n + 1) m
  | .clause n m, ')' => .clause (n - 1) m
  | .expression n, '(' => .expression (n + 1)
  | .expression n, ')' => .expression (n - 1)
  | .subscript n, '[' => .subscript (n + 1)
  | .subscript n, ']' => .subscript (n - 1)
  | r, _ => r

/-- Do double quotes mean themselves? -/
def keepsQuotes (d : Dialect) : Region → Bool
  | .document => true
  | .sum _ => d = .plain
  | _ => false

/-- Is the region an arithmetic expression? -/
def isSum : Region → Bool
  | .sum _ => true
  | .clause .. => true
  | .subscript _ => true
  | _ => false

/-- May a backslash take the meaning of the character away? -/
def escapes : Region → Char → Bool
  | .bare, _ => true
  | .braces false _, _ => true
  | .alternatives, _ => true
  | .expression _, _ => true
  | .subscript _, _ => true
  | .quotes, c => "$`\"\\".toList.contains c
  | .braces true _, c => "$`\"\\\x7d".toList.contains c
  | _, c => "$`\\".toList.contains c

end Region

/-- Characters with a meaning in some region. -/
def isActive (c : Char) : Bool := " \t\n;&|()<>\"'`$\\\x7d[]/:?*+@!".toList.contains c

/-- Put characters in front of pieces. -/
def addText (t : Text) (quoted : Bool) : List Piece → List Piece
  | .text u q :: ps => if q = quoted then .text (t ++ u) q :: ps else .text t quoted :: .text u q :: ps
  | ps => .text t quoted :: ps

/-- Pieces in front of others. -/
def addPieces : List Piece → List Piece → List Piece
  | [], rest => rest
  | [.text t q], rest => addText t q rest
  | p :: ps, rest => p :: addPieces ps rest

/-- The characters up to a backquote that has its meaning, and what follows it. -/
def backquoted (quoted : Bool) : Text → Option (Text × Text)
  | [] => none
  | '`' :: cs => some ([], cs)
  | '\\' :: c :: cs =>
    (backquoted quoted cs).map fun (t, rest) =>
      (if "$`\\".toList.contains c || (quoted && c = '"') then c :: t else '\\' :: c :: t, rest)
  | c :: cs => (backquoted quoted cs).map fun (t, rest) => (c :: t, rest)

/-- Parameters whose names are single marks. -/
def isMark (c : Char) : Bool := "@*#?$!-".toList.contains c

/-- Read the name of a parameter between braces. -/
def parameterName : Parser Text := do
  match (← get).rest with
  | c :: _ =>
    if isNameStart c then takeWhile isNameChar
    else if c.isDigit then takeWhile Char.isDigit
    else if isMark c then do
      skip 1
      return [c]
    else return []
  | [] => return []

/-- The kind of a fallback by its mark. -/
def fallbackKind? : Char → Option Fallback
  | '-' => some .use
  | '=' => some .assign
  | '?' => some .fail
  | '+' => some .instead
  | _ => none

/-! ### Escapes -/

/-- The text between quotes in which backslashes have all their meanings, and what follows the quotes; an
escaped null character ends the text. -/
def escapedQuote : Nat → Text → Option (Text × Text)
  | 0, _ => none
  | _, [] => none
  | fuel + 1, c :: cs =>
    let put (t rest : Text) : Option (Text × Text) := (escapedQuote fuel rest).map fun (u, r) =>
      (if t = ['\x00'] then [] else t ++ u, r)
    let number (base least : Nat) (isDigit : Char → Bool) (most : Nat) (rest : Text) (wide : Bool)
        (letter : Char) : Option (Text × Text) :=
      let ds := (rest.take most).takeWhile isDigit
      if ds.length < least then put ['\\', letter] rest
      else
        let n := digitsValue base ds
        put (if wide then encoded n else [Char.ofNat (n % 256)]) (rest.drop ds.length)
    if c = '\'' then some ([], cs)
    else match c, cs with
      | '\\', d :: rest =>
        if isOctal d then number 8 1 isOctal 3 (d :: rest) false d
        else if d = 'x' then number 16 1 isHex 2 rest false d
        else if d = 'u' then number 16 1 isHex 4 rest true d
        else if d = 'U' then number 16 1 isHex 8 rest true d
        else if d = 'c' then match rest with
          | e :: rest => put [Char.ofNat (e.toUpper.toNat % 32)] rest
          | [] => none
        else match escapeOf? d with
          | some e => put [e] rest
          | none => if "\\'\"?".toList.contains d then put [d] rest else put ['\\', d] rest
      | c, cs => put [c] cs

/-! ### Tokens -/

/-- The operator at the start of a text. -/
def operatorAt (d : Dialect) (t : Text) : Option Text :=
  let plain := ["&&", "||", ";;", ";", "&", "|", "(", ")"]
  let known := match d with
    | .plain => plain
    | .rich => [";;&", ";&", "|&"] ++ plain
  (known.map String.toList).find? (·.isPrefixOf t)

/-- The operator that changes a descriptor at the start of a text. -/
def redirectionAt (d : Dialect) (t : Text) : Option Text :=
  let plain := ["<<-", "<<", "<&", "<>", "<", ">>", ">&", ">|", ">"]
  let known := match d with
    | .plain => plain
    | .rich => ["<<<", "&>>", "&>"] ++ plain
  (known.map String.toList).find? (·.isPrefixOf t)

/-- The name of a variable between braces in front of an operator that changes a descriptor, and the operator. -/
def namedChange? (t : Text) : Option (Text × Text) :=
  match t with
  | '\x7b' :: rest =>
    let inner := rest.takeWhile fun c => c ≠ '\x7d' && c ≠ '\n'
    let name := inner.takeWhile isNameChar
    let index := inner.drop name.length
    let fits := isName name && (index = [] || (index.head? = some '[' && index.getLast? = some ']'))
    match rest.drop inner.length with
    | '\x7d' :: after => if fits then (redirectionAt .rich after).map (inner, ·) else none
    | _ => none
  | _ => none

/-- The descriptor that an operator changes when none is written. -/
def defaultDescriptor (op : Text) : Nat := if op.head? = some '<' then 0 else 1

/-- The text of a word without expansions. -/
def plainText (w : Word) : Text := w.flatMap fun
  | .text t _ => t
  | _ => []

/-- The characters up to the bracket that closes the innermost of so many further ones, and what follows it; or how
many brackets are still open after them. -/
def closingBracket : Nat → Text → (Text × Text) ⊕ Nat
  | depth, [] => .inr depth
  | depth, c :: cs =>
    if c = ']' && depth = 0 then .inl ([], cs)
    else match closingBracket (if c = '[' then depth + 1 else if c = ']' then depth - 1 else depth) cs with
      | .inl (a, b) => .inl (c :: a, b)
      | .inr n => .inr n

/-- The pieces up to a closing bracket outside of quotes, and what follows it, with so many further brackets open. -/
def upToBracket (depth : Nat) : Word → Option (Word × Word)
  | [] => none
  | .text t false :: ps => match closingBracket depth t with
    | .inl (before, rest) =>
      some (if before = [] then [] else [.text before false], if rest = [] then ps else .text rest false :: ps)
    | .inr depth => (upToBracket depth ps).map fun (a, b) => (.text t false :: a, b)
  | p :: ps => (upToBracket depth ps).map fun (a, b) => (p :: a, b)

/-- What stands in front of the brackets at the start of a text that may have anything between them. -/
def beforeKey? (keyed : Keyed) (t : Text) : Option Text :=
  match keyed with
  | .never => none
  | .bare => if t.head? = some '[' then some [] else none
  | .named =>
    let name := t.takeWhile isNameChar
    if isName name && (t.drop name.length).head? = some '[' then some name else none

/-- What follows a sign of assignment at the start of a word, and whether it adds to a value. -/
def afterSign (d : Dialect) : Word → Option (Bool × Word)
  | .text ('=' :: t) false :: ps => some (false, if t = [] then ps else .text t false :: ps)
  | .text ('+' :: '=' :: t) false :: ps =>
    if d = .rich then some (true, if t = [] then ps else .text t false :: ps) else none
  | _ => none

/-- What a word assigns. -/
def assignment? (d : Dialect) : Word → Option Assignment
  | .text t false :: ps =>
    let name := t.takeWhile isNameChar
    let rest := t.drop name.length
    if !isName name then none
    else match d, rest with
      | .rich, '[' :: more => do
        let (index, after) ← upToBracket 0 (if more = [] then ps else .text more false :: ps)
        let (extend, value) ← afterSign d after
        return .mk name (some index) extend value
      | _, _ => do
        let (extend, value) ← afterSign d (if rest = [] then ps else .text rest false :: ps)
        return .mk name none extend value
  | _ => none

/-! ### Homes -/

/-- The pieces of an unquoted text at whose start a tilde stands for a home; a mark ends its user's name. -/
def homeAt (stops : Text) (isLast : Bool) (t : Text) : Option (Piece × Text) :=
  match t with
  | '~' :: rest =>
    let user := rest.takeWhile (!stops.contains ·)
    if user.length < rest.length || isLast then some (.home user, rest.drop user.length) else none
  | _ => none

/-- The word with its first tilde made a home. -/
def withHome (stops : Text) : Word → Word
  | .text t false :: ps => match homeAt stops (ps.isEmpty) t with
    | some (p, []) => p :: ps
    | some (p, rest) => p :: .text rest false :: ps
    | none => .text t false :: ps
  | w => w

/-- The pieces of an unquoted text in which a tilde stands for a home at the start and after colons. -/
def homesIn (isLast : Bool) : Nat → Bool → Text → List Piece
  | 0, _, t => if t = [] then [] else [.text t false]
  | fuel + 1, atStart, t =>
    match if atStart then homeAt ['/', ':'] isLast t else none with
    | some (p, rest) => p :: homesIn isLast fuel false rest
    | none =>
      let part := t.takeWhile (· ≠ ':')
      if part.length < t.length then
        addText (part ++ [':']) false (homesIn isLast fuel true (t.drop (part.length + 1)))
      else if t = [] then [] else [.text t false]

/-- The word with tildes made homes after colons, and perhaps at its start. -/
def homesFrom : Bool → Word → Word
  | _, [] => []
  | atStart, .text t false :: ps =>
    homesIn ps.isEmpty (t.length + 1) atStart t ++ homesFrom (t.getLast? = some ':') ps
  | _, p :: ps => p :: homesFrom false ps

/-- The value of an assignment with its tildes made homes. -/
def withHomes (w : Word) : Word := homesFrom true w

/-- The word with tildes made homes in its value, if it looks like an assignment. -/
def withLaterHomes (w : Word) : Word :=
  match w, assignment? .rich w with
  | .text t false :: _, some (.mk name none false value) =>
    if (name ++ ['=']).isPrefixOf t then .text (name ++ ['=']) false :: withHomes value else w
  | w, _ => w

/-- The assignment with the tildes in its value made homes. -/
def homely : Assignment → Assignment
  | .mk name index extend value => .mk name index extend (withHomes value)

/-! ### Given texts -/

/-- The given text at the start of lines, up to its delimiter, the lines after it, and whether the delimiter
was there. -/
def cutDocument (dropTabs : Bool) (delimiter : Text) : List Text → Text × List Text × Bool
  | [] => ([], [], false)
  | line :: lines =>
    let line := if dropTabs then line.dropWhile (· = '\t') else line
    if line = delimiter then ([], lines, true)
    else
      let (body, rest, found) := cutDocument dropTabs delimiter lines
      (line ++ (if lines = [] then [] else ['\n']) ++ body, rest, found)

/-- Take a given text, which starts on the next line. -/
def takeDocument (dropTabs : Bool) (delimiter : Text) : Parser Text := do
  let s ← get
  let here := s.rest.takeWhile (· ≠ '\n')
  let next := s.rest.drop (here.length + 1)
  let lines := if here.length < s.rest.length then Text.split '\n' next else []
  let (body, rest, found) := cutDocument dropTabs delimiter lines
  let left := Text.join ['\n'] rest
  let said : Text := "here-document at line " ++ Text.ofNat s.line ++ " delimited by end-of-file (wanted `"
    ++ delimiter ++ "')"
  let warnings := if found || s.dialect = .plain then [] else [(s.lastLine - 1, said)]
  set { s with
    rest := if here.length < s.rest.length then here ++ '\n' :: left else here
    ahead := s.ahead + (next.count '\n' - left.count '\n')
    warnings := s.warnings ++ warnings }
  return body

/-- What an operator attaches to a descriptor. -/
def attachment (op : Text) : Attachment :=
  match String.ofList op with
  | "<" => .read
  | "<>" => .update
  | ">>" => .extend
  | "<&" => .duplicate true
  | ">&" => .duplicate false
  | ">|" => .write true
  | "<<" => .document
  | "<<-" => .document
  | "<<<" => .word
  | _ => .write false

end Parser

end Rollout.Shell
