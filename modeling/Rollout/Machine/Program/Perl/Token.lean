import Rollout.Machine.Program.Perl.Syntax

/-!
The characters of scripts: blanks and comments, words and numbers, and texts between delimiters, which may also stand
on the lines that follow.
-/

namespace Rollout.Program.Perl

/-! ### Reading -/

/-- A script that is read. -/
structure Source where
  /-- What is left of it. -/
  rest : Text
  /-- The line. -/
  line : Nat
  /-- How many lines have been read that stand behind this one. -/
  ahead : Nat
  /-- The file. -/
  file : Text
  /-- What was left at the last token and at the one before it. -/
  before : Text × Text
  /-- The functions that are known. -/
  known : List Text
  /-- The functions that take no arguments. -/
  constant : List Text
  /-- The functions whose first argument is a block. -/
  blockTaking : List Text
  /-- The package. -/
  package : Text
  /-- Is there a function that prints lines? -/
  speaks : Bool
  /-- What stands behind the end of the script. -/
  data : Option Text

/-- What is wrong with a script. -/
structure Mistake where
  /-- What is said. -/
  message : Text
  /-- Is said that the script is not carried out? -/
  aborts : Bool

/-- Reading of a part of a script. -/
def Parser (α : Type) := Source → Except Mistake (α × Source)

namespace Parser

/-- Read nothing. -/
@[noinline] protected def pure {α : Type} (a : α) : Parser α := fun s => .ok (a, s)

/-- Read one part after another. -/
@[noinline] protected def bind {α β : Type} (p : Parser α) (f : α → Parser β) : Parser β := fun s =>
  match p s with
  | .ok (a, s) => f a s
  | .error e => .error e

/-- Read the part from a script. -/
def run {α : Type} (p : Parser α) (s : Source) : Except Mistake (α × Source) := p s

end Parser

instance : Monad Parser where
  pure := Parser.pure
  bind := Parser.bind

instance : MonadStateOf Source Parser where
  get := fun s => .ok (s, s)
  set s := fun _ => .ok ((), s)
  modifyGet f := fun s => .ok (f s)

instance : MonadExceptOf Mistake Parser where
  throw e := fun _ => .error e
  tryCatch p f := fun s => match p s with
    | .error e => f e s
    | r => r

/-- What is said of a place in a script. -/
def placeText (file : Text) (line : Nat) : Text := " at " ++ file ++ " line " ++ Text.ofNat line

/-- A mistake in the script of which is said where it is. -/
def wrongHere {α : Type} (message : Text) : Parser α := do
  let s ← get
  throw ⟨message ++ placeText s.file s.line ++ ['.'], false⟩

/-- The script makes no sense here. -/
def wrong {α : Type} : Parser α := do
  let s ← get
  if s.rest.isEmpty then throw ⟨"syntax error" ++ placeText s.file s.line ++ ", at EOF", true⟩
  let near := (if s.before.2.isEmpty then s.rest else s.before.2).take 200
  throw ⟨"syntax error" ++ placeText s.file s.line ++ ", near \"" ++ near ++ ['"'], true⟩

/-- Go on with what is left. -/
def goOn (rest : Text) : Parser Unit := modify fun s => { s with rest := rest }

/-- Read a newline, behind which the lines may be read already. -/
def newline : Parser Unit := modify fun s => { s with
  line := s.line + 1 + s.ahead
  ahead := 0 }

/-- What follows a text for readers in a script. -/
def skipReaderText : Nat → Text → Nat × Text
  | 0, t => (0, t)
  | fuel + 1, t =>
    let line := t.takeWhile (· ≠ '\n')
    let rest := t.drop (line.length + 1)
    if t.isEmpty then (0, [])
    else if "=cut".toList.isPrefixOf line then (1, rest)
    else
      let (n, rest) := skipReaderText fuel rest
      (n + 1, rest)

/-- Leave out blanks and comments. -/
def skipBlanks : Nat → Parser Unit
  | 0 => return
  | fuel + 1 => do
    let s ← get
    match s.rest with
    | '\n' :: '=' :: c :: rest => do
      newline
      if c.isAlpha then
        let (n, rest) := skipReaderText rest.length ('=' :: c :: rest)
        modify fun s => { s with
          rest := rest
          line := s.line + n }
      else goOn ('=' :: c :: rest)
      skipBlanks fuel
    | '\n' :: rest => do
      newline
      goOn rest
      skipBlanks fuel
    | '#' :: rest => do
      goOn (rest.dropWhile (· ≠ '\n'))
      skipBlanks fuel
    | c :: rest => do
      if isBlank c then
        goOn rest
        skipBlanks fuel
      else return
    | [] => return

/-- Leave out blanks and comments. -/
def skip : Parser Unit := do skipBlanks ((← get).rest.length + 1)

/-- The next character behind blanks. -/
def peek : Parser (Option Char) := do
  skip
  return (← get).rest.head?

/-- Remember where a token starts. -/
def mark : Parser Unit := do
  skip
  modify fun s => { s with before := (s.rest, s.before.1) }

/-- Does the text stand next, behind blanks? -/
def isNext (t : String) : Parser Bool := do
  skip
  return t.toList.isPrefixOf (← get).rest

/-- Read a text if it stands next. -/
def accept (t : String) : Parser Bool := do
  if ← isNext t then
    mark
    modify fun s => { s with rest := s.rest.drop t.length }
    return true
  else return false

/-- Read a text that has to stand next. -/
def expect (t : String) : Parser Unit := do
  if !(← accept t) then
    if (← get).rest.isEmpty && (t = "\x7d" || t = "]") then
      let s ← get
      let place := placeText s.file s.line
      throw ⟨"Missing right curly or square bracket" ++ place ++ ", at end of line\nsyntax error" ++ place ++ ", at EOF", true⟩
    wrong

/-! ### Words -/

/-- May the character stand in a word? -/
def isWordChar (c : Char) : Bool := c.isAlphanum || c = '_'

/-- May a word start with the character? -/
def startsWord (c : Char) : Bool := c.isAlpha || c = '_'

/-- The word at the start of a text, which may have several parts, and what follows. -/
def wordAt : Nat → Text → Text × Text
  | 0, t => ([], t)
  | fuel + 1, t =>
    let part := t.takeWhile isWordChar
    match t.drop part.length with
    | ':' :: ':' :: rest =>
      if part.isEmpty && !(rest.head?.any startsWord) then ([], t)
      else
        let (more, rest) := wordAt fuel rest
        (part ++ ':' :: ':' :: more, rest)
    | rest => (part, rest)

/-- The word that stands next, which is not read. -/
def peekWord : Parser Text := do
  skip
  let t := (← get).rest
  if t.head?.any startsWord then return (wordAt t.length t).1 else return []

/-- Read the word that stands next. -/
def readWord : Parser Text := do
  let w ← peekWord
  if w.isEmpty then wrong
  mark
  modify fun s => { s with rest := s.rest.drop w.length }
  return w

/-- Read a word if it stands next. -/
def acceptWord (w : String) : Parser Bool := do
  if (← peekWord) = w.toList then
    let _ ← readWord
    return true
  else return false

/-- Is a text followed by an arrow that makes it a key? -/
def arrowFollows (t : Text) : Bool :=
  let rest := t.dropWhile isBlank
  "=>".toList.isPrefixOf rest

/-! ### Numbers -/

/-- The number that a script's text starts with, and what follows. -/
def literalAt (t : Text) : Number × Text :=
  let digits (base : Nat) (rest : Text) : Number × Text :=
    let ds := rest.takeWhile fun c => c = '_' || (Rounded.isHex c && Rounded.hexValue c < base)
    let n := (ds.filter (· ≠ '_')).foldl (fun n c => base * n + Rounded.hexValue c) 0
    (.ofInt (n : Nat), rest.drop ds.length)
  match t with
  | '0' :: 'x' :: rest => digits 16 rest
  | '0' :: 'X' :: rest => digits 16 rest
  | '0' :: 'b' :: rest => digits 2 rest
  | '0' :: 'B' :: rest => digits 2 rest
  | '0' :: c :: rest =>
    if c.isDigit || c = '_' then digits 8 (c :: rest) else decimal ('0' :: c :: rest)
  | t => decimal t
where
  decimal (t : Text) : Number × Text :=
    let isDigit (c : Char) : Bool := c.isDigit || c = '_'
    let whole := t.takeWhile isDigit
    let rest := t.drop whole.length
    let (fraction, rest) : Text × Text := match rest with
      | '.' :: '.' :: _ => ([], rest)
      | '.' :: after =>
        let ds := after.takeWhile isDigit
        ('.' :: ds, after.drop ds.length)
      | rest => ([], rest)
    let (exponent, rest) : Text × Text := match rest with
      | e :: after =>
        let sign := after.takeWhile fun c => c = '-' || c = '+'
        let ds := (after.drop sign.length).takeWhile Char.isDigit
        if (e = 'e' || e = 'E') && sign.length < 2 && !ds.isEmpty then
          ('e' :: sign ++ ds, after.drop (sign.length + ds.length))
        else ([], rest)
      | [] => ([], [])
    let plain := (whole ++ fraction ++ exponent).filter (· ≠ '_')
    if fraction.isEmpty && exponent.isEmpty then (.ofInt ((Text.toNat? plain).getD 0 : Nat), rest)
    else (match Rounded.read .double plain with
      | some (r, _) => .real r.toFloat
      | none => .int 0, rest)

/-! ### Delimited texts -/

/-- The character that closes what another one opens. -/
def closing (c : Char) : Char :=
  match c with
  | '(' => ')'
  | '[' => ']'
  | '\x7b' => '\x7d'
  | '<' => '>'
  | c => c

/-- The text up to the closing delimiter and what follows, if it is there. -/
def delimitedAt (opens closes : Char) : Nat → Text → Option (Text × Text)
  | _, [] => none
  | depth, '\\' :: c :: rest => do
    let (t, after) ← delimitedAt opens closes depth rest
    some ('\\' :: c :: t, after)
  | depth, c :: rest =>
    if c = closes then
      match depth with
      | 0 => some ([], rest)
      | depth + 1 => do
        let (t, after) ← delimitedAt opens closes depth rest
        some (c :: t, after)
    else do
      let (t, after) ← delimitedAt opens closes (if c = opens then depth + 1 else depth) rest
      some (c :: t, after)

/-- What is said if a delimiter is missing. -/
def unterminated (what : Char) : Parser Text := do
  return match what with
    | '"' => "Can't find string terminator '\"' anywhere before EOF"
    | '/' => "Search pattern not terminated"
    | c => "Can't find string terminator \"" ++ c :: "\" anywhere before EOF"

/-- Read a text behind its opening delimiter. -/
def delimited (opens : Char) : Parser Text := do
  let s ← get
  match delimitedAt opens (closing opens) 0 s.rest with
  | some (t, rest) => do
    set { s with
      rest := rest
      line := s.line + (t.filter (· = '\n')).length + (if t.contains '\n' then s.ahead else 0)
      ahead := if t.contains '\n' then 0 else s.ahead }
    return t
  | none => wrongHere (← unterminated (closing opens))

/-- Read an opening delimiter and the text up to the closing one. -/
def quoted : Parser (Char × Text) := do
  let s ← get
  let spaced := s.rest.head?.any isBlank
  skip
  match (← get).rest with
  | c :: rest => do
    if spaced && c = '#' then wrong
    goOn rest
    return (c, ← delimited c)
  | [] => wrong

/-- Read the second text of two, which has delimiters of its own if the first ones are brackets. -/
def secondQuoted (opens : Char) : Parser (Char × Text) := do
  if closing opens ≠ opens then
    skip
    quoted
  else return (opens, ← delimited opens)

/-- The letters right behind a text. -/
def lettersBehind : Parser Text := do
  let s ← get
  let letters := s.rest.takeWhile Char.isAlpha
  set { s with rest := s.rest.drop letters.length }
  return letters

/-- A text between single quotes, in which a backslash is only for the delimiters and for itself. -/
def plainText (opens : Char) : Text → Text
  | '\\' :: c :: rest =>
    if c = '\\' || c = opens || c = closing opens then c :: plainText opens rest
    else '\\' :: c :: plainText opens rest
  | c :: rest => c :: plainText opens rest
  | [] => []

/-- The words of a text. -/
def wordsOf (t : Text) : List Text :=
  (Text.split ' ' (t.map fun c => if isBlank c then ' ' else c)).filter (!·.isEmpty)

/-- Cut lines up to one that is a word out of a text; gives them and what is left. -/
def linesUpTo (word : Text) (indented : Bool) : Nat → Text → Option (List Text × Text)
  | 0, _ => none
  | fuel + 1, t =>
    if t.isEmpty then none
    else
      let line := t.takeWhile (· ≠ '\n')
      let rest := t.drop (line.length + 1)
      if (if indented then line.dropWhile isBlank else line) = word then some ([], rest)
      else (linesUpTo word indented fuel rest).map fun (ls, rest) => (line :: ls, rest)

/-- The lines less the blanks that all of them start with. -/
def unindented (ls : List Text) : List Text :=
  let depth := ((ls.filter fun l => l.any (!isBlank ·)).map fun l => (l.takeWhile isBlank).length).foldl min 1000
  ls.map (·.drop (min depth 1000))

/-- Read the text on the lines behind this one, up to a word. -/
def textBehind (word : Text) (indented : Bool) : Parser Text := do
  let s ← get
  let line := s.rest.takeWhile (· ≠ '\n')
  match linesUpTo word indented (s.rest.length + 1) (s.rest.drop (line.length + 1)) with
  | none => wrongHere ("Can't find string terminator \"" ++ word ++ "\" anywhere before EOF")
  | some (ls, rest) => do
    set { s with
      rest := line ++ '\n' :: rest
      ahead := s.ahead + ls.length + 1 }
    return (if indented then unindented ls else ls).flatMap (· ++ ['\n'])

end Rollout.Program.Perl
