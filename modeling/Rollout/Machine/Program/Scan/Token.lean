import Rollout.Machine.Program.Scan.Syntax

/-!
The tokens of scripts that scan records. A slash starts an expression where nothing stands before it that could be
divided; a closing brace ends a statement, and newlines count for nothing where a statement has to go on.
-/

namespace Rollout.Program.Scan

/-- What a token is. -/
inductive Kind
  /-- A number. -/
  | number (x : Float)
  /-- A text between quotation marks. -/
  | string (t : Text)
  /-- A regular expression between slashes. -/
  | regex (t : Text)
  /-- A name. -/
  | name
  /-- A name right before a parenthesis. -/
  | call
  /-- The name of a function that every script knows. -/
  | builtin
  /-- The name of a function that needs no arguments, without any. -/
  | length
  /-- A word with a meaning of its own. -/
  | keyword
  /-- One or two signs. -/
  | mark
  /-- The end of a line. -/
  | newline
  /-- A semicolon, which may stand for what a brace ends. -/
  | semicolon
  /-- The end of the script. -/
  | finish
  /-- A character that means nothing. -/
  | unexpected
  /-- Something that is to be said, which may be the last. -/
  | remark (last : Bool)

/-- A token. -/
structure Token where
  /-- What it is. -/
  kind : Kind
  /-- How it is shown. -/
  text : Text
  /-- The file in which it stands, if there is one. -/
  file : Option Text
  /-- Its line. -/
  line : Nat
  /-- How many parentheses are open. -/
  parens : Nat
  /-- How many braces are open. -/
  braces : Nat

/-- Words with a meaning of their own. -/
def keywords : List String :=
  ["BEGIN", "END", "if", "else", "while", "for", "do", "break", "continue", "next", "nextfile", "exit", "return",
    "delete", "print", "printf", "getline", "in", "function"]

/-- The state between two tokens. -/
structure Lexing where
  /-- What is left of the text. -/
  rest : Text
  /-- The line. -/
  line : Nat
  /-- How many parentheses are open. -/
  parens : Nat
  /-- How many braces are open. -/
  braces : Nat
  /-- Can what stands before be divided? -/
  divides : Bool
  /-- Has a statement just ended? -/
  ended : Bool

/-- Is it part of a name? -/
def isNameChar (c : Char) : Bool := c.isAlphanum || c = '_'

/-- What follows newlines, blanks and comments, and how many lines have ended. -/
def skipLines : Nat → Nat → Text → Text × Nat
  | 0, n, t => (t, n)
  | fuel + 1, n, t => match t with
    | '\n' :: rest => skipLines fuel (n + 1) rest
    | '#' :: rest => skipLines fuel n (rest.dropWhile (· ≠ '\n'))
    | '\\' :: rest =>
      match rest.dropWhile fun c => c ≠ '\n' && isBlank c with
      | '\n' :: rest => skipLines fuel (n + 1) rest
      | _ => (t, n)
    | c :: rest => if isBlank c then skipLines fuel n rest else (t, n)
    | [] => ([], n)

/-- The text up to a quotation mark, and what follows it; `none` after it if it is not there. -/
def quotedText : Text → Text × Option Text
  | '\\' :: '\n' :: cs => quotedText cs
  | '\\' :: c :: cs =>
    let (t, rest) := quotedText cs
    ('\\' :: c :: t, rest)
  | '"' :: cs => ([], some cs)
  | '\n' :: _ => ([], none)
  | c :: cs =>
    let (t, rest) := quotedText cs
    (c :: t, rest)
  | [] => ([], none)

/-- The text up to a slash outside of brackets, and what follows it; `none` after it if it is not there. -/
def slashedText : Option Nat → Text → Text × Option Text
  | inside, '\\' :: '/' :: cs =>
    let (t, rest) := slashedText (inside.map fun _ => 1) cs
    ('/' :: t, rest)
  | inside, '\\' :: c :: cs =>
    if c = '\n' then (['\\'], none)
    else
      let (t, rest) := slashedText (inside.map fun _ => 1) cs
      ('\\' :: c :: t, rest)
  | _, '\n' :: _ => ([], none)
  | none, '/' :: cs => ([], some cs)
  | none, '[' :: '^' :: cs =>
    let (t, rest) := slashedText (some 0) cs
    ('[' :: '^' :: t, rest)
  | none, '[' :: cs =>
    let (t, rest) := slashedText (some 0) cs
    ('[' :: t, rest)
  | some n, c :: cs =>
    let (t, rest) := slashedText (if c = ']' && n ≠ 0 then none else some 1) cs
    (c :: t, rest)
  | inside, c :: cs =>
    let (t, rest) := slashedText inside cs
    (c :: t, rest)
  | _, [] => ([], none)

/-- The numeral at the start of a text. -/
def numeralAt (t : Text) : Text :=
  let whole := t.takeWhile Char.isDigit
  let rest := t.drop whole.length
  let part := match rest with
    | '.' :: cs => '.' :: cs.takeWhile Char.isDigit
    | _ => []
  let power := match rest.drop part.length with
    | e :: cs =>
      let sign := (cs.take 1).filter fun c => c = '+' || c = '-'
      let ds := (cs.drop sign.length).takeWhile Char.isDigit
      if (e = 'e' || e = 'E') && ds ≠ [] then e :: sign ++ ds else []
    | [] => []
  if whole = [] && part.length ≤ 1 then [] else whole ++ part ++ power

/-- The signs of two characters. -/
def pairs : List String :=
  ["++", "--", "+=", "-=", "*=", "%=", "^=", "==", "!=", "!~", "<=", ">=", ">>", "&&", "||"]

/-- The tokens of a text. -/
def tokensOf (file : Option Text) : Nat → Lexing → List Token × Lexing
  | 0, s => ([], s)
  | fuel + 1, s =>
    let make (kind : Kind) (t : Text) : Token := ⟨kind, t, file, s.line, s.parens, s.braces⟩
    let go (token : Token) (next : Lexing) : List Token × Lexing :=
      let (ts, last) := tokensOf file fuel next
      (token :: ts, last)
    let plain (kind : Kind) (t : Text) (divides : Bool) (rest : Text) : List Token × Lexing :=
      go (make kind t) { s with
        rest := rest
        divides := divides
        ended := false }
    let andLines (token : Token) (ended : Bool) (next : Lexing) : List Token × Lexing :=
      let (rest, n) := skipLines (next.rest.length + 1) 0 next.rest
      go token { next with
        rest := rest
        line := next.line + n
        divides := false
        ended := ended }
    let fatal (t : Text) : List Token × Lexing := ([make (.remark true) t], s)
    match s.rest with
    | [] => ([], s)
    | '\n' :: rest => andLines (make .newline "end of line") true { s with
        rest := rest
        line := s.line + 1 }
    | '#' :: rest => tokensOf file fuel { s with rest := rest.dropWhile (· ≠ '\n') }
    | '\\' :: rest =>
      match rest.dropWhile fun c => c ≠ '\n' && isBlank c with
      | '\n' :: rest => tokensOf file fuel { s with
        rest := rest
        line := s.line + 1 }
      | _ => plain .unexpected ['\\'] false rest
    | ';' :: rest => andLines (make .semicolon [';']) true { s with rest := rest }
    | '\x7b' :: rest => andLines (make .mark ['\x7b']) false { s with
        rest := rest
        braces := s.braces + 1 }
    | '\x7d' :: rest =>
      let lone (t : Text) : Text := match t.dropWhile fun c => c ≠ '\n' && isBlank c with
        | ';' :: rest => rest
        | _ => t
      if s.braces = 0 then go (make (.remark false) "extra '\x7d'") { s with rest := lone rest }
      else if !s.ended then go (make .semicolon ['\x7d']) { s with ended := true }
      else
        let braces := s.braces - 1
        andLines (make .mark ['\x7d']) true { s with
          rest := if braces = 0 then lone rest else rest
          braces := braces }
    | '(' :: rest => go (make .mark ['(']) { s with
        rest := rest
        parens := s.parens + 1
        divides := false
        ended := false }
    | ')' :: rest =>
      if s.parens = 0 then go (make (.remark false) "extra ')'") { s with rest := rest }
      else go { make .mark [')'] with parens := s.parens - 1 } { s with
        rest := rest
        parens := s.parens - 1
        divides := true
        ended := false }
    | ',' :: rest => andLines (make .mark [',']) false { s with rest := rest }
    | '"' :: rest =>
      let (t, after) := quotedText rest
      match after with
      | some after => plain (.string (unescaped (t.length + 1) t)) t true after
      | none => fatal ("runaway string constant \"" ++ t.take 10 ++ " ...")
    | c :: rest =>
      let two := String.ofList (s.rest.take 2)
      if c = '/' && !s.divides then
        let (t, after) := slashedText none rest
        match after with
        | some after => plain (.regex t) t true after
        | none => fatal ("runaway regular expression /" ++ t.take 10 ++ " ...")
      else if two = "/=" then plain .mark "/=" false (rest.drop 1)
      else if two = "&&" || two = "||" then andLines (make .mark two.toList) false { s with rest := rest.drop 1 }
      else if pairs.contains two then plain .mark two.toList (two = "++" || two = "--") (rest.drop 1)
      else if "+-*/%^=!<>~|?:[]$".toList.contains c then plain .mark [c] (c = ']') rest
      else if isBlank c then tokensOf file fuel { s with rest := rest }
      else if c.isDigit || c = '.' then
        let numeral := numeralAt s.rest
        if numeral = [] then plain .unexpected [c] false rest
        else
          let x := numberIn numeral
          let after := s.rest.drop numeral.length
          let digits := numeral.takeWhile fun c => c ≠ 'e' && c ≠ 'E'
          let odd (t : String) : List Token × Lexing :=
            let (ts, last) := plain (.number x) numeral true after
            (make (.remark false) (numeral ++ " : decimal " ++ t.toList) :: ts, last)
          if Rounded.ofFloat x = .infinite false then odd "overflow"
          else if x == 0 && digits.any (fun c => c.isDigit && c ≠ '0') then odd "underflow"
          else plain (.number x) numeral true after
      else if isNameChar c then
        let word := s.rest.takeWhile isNameChar
        let after := s.rest.drop word.length
        let called := (after.dropWhile fun c => c ≠ '\n' && isBlank c).head? = some '('
        if keywords.contains (String.ofList word) then plain .keyword word (word = "getline".toList) after
        else if word = "length".toList && !called then plain .length word false after
        else if builtins.any (·.1.toList = word) then plain .builtin word false after
        else if after.head? = some '(' then plain .call word false after
        else plain .name word true after
      else plain .unexpected [c] false rest

/-- The tokens of the pieces of a script, each of which may be the content of a file. -/
def tokensOfAll : Nat → List (Option Text × Text) → List Token
  | line, [] => [⟨.finish, "end of file", none, line, 0, 0⟩]
  | _, pieces =>
    let read (s : Lexing) (piece : Option Text × Text) : List Token × Lexing :=
      let t := if piece.2.getLast? = some '\n' then piece.2 else piece.2 ++ ['\n']
      let (rest, n) := skipLines (t.length + 1) 0 t
      let (rest, n) := if s.braces = 0 then (rest, n) else (t, 0)
      tokensOf piece.1 (2 * t.length + 4) { s with
        rest := rest
        line := n + 1 }
    let (ts, s) := pieces.foldl (fun (ts, s) piece =>
      let (more, s) := read s piece
      (ts ++ more, s)) (([] : List Token), Lexing.mk [] 1 0 0 false true)
    ts ++ [⟨.finish, "end of file", pieces.getLast?.bind (·.1), s.line, s.parens, s.braces⟩]

end Rollout.Program.Scan
