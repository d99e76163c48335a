import Rollout.Dict
import Rollout.Machine.Shell.Command

/-!
The tokens of the command language, what is left to read of a text, and the errors that reading may end in.
-/

namespace Rollout.Shell

/-- What a text of commands is read as. -/
inductive Token
  /-- The end of the text. -/
  | finish
  /-- The end of a line. -/
  | newline
  /-- An operator between commands. -/
  | operator (t : Text)
  /-- An operator that changes a descriptor, as it is written. -/
  | redirection (slot : Option Slot) (t : Text) (source : Text)
  /-- A word, as it is written. -/
  | word (pieces : Word) (source : Text)

namespace Token

/-- Words that close a list of commands. -/
def closingWords : List Text :=
  ["then", "else", "elif", "fi", "do", "done", "esac", "\x7d"].map String.toList

/-- Words with a meaning of their own where a command may start. -/
def keywords (d : Dialect) : List Text :=
  let more := match d with
    | .plain => []
    | .rich => ["function", "select", "time", "coproc", "[["]
  closingWords ++ (["!", "case", "for", "if", "in", "until", "while", "\x7b"] ++ more).map String.toList

/-- The text of a token that is a plain word. -/
def plain? : Token → Option Text
  | .word [.text t false] _ => some t
  | _ => none

/-- Is it this keyword? -/
def isKeyword (t : Token) (k : String) : Bool := t.plain? = some k.toList

/-- Is it this operator? -/
def isOperator : Token → String → Bool
  | .operator t, k => t = k.toList
  | _, _ => false

/-- Does the token close a list of commands? -/
def closes (t : Token) : Bool :=
  t.isOperator ")" || t.isOperator ";;" || t.isOperator ";&" || t.isOperator ";;&"
    || (t.plain?.map (closingWords.contains ·)).getD false

/-- The token as the plain dialect calls it in errors. -/
def describe (t : Token) : Text :=
  match t with
  | .finish => "end of file"
  | .newline => "newline"
  | .operator o => '"' :: o ++ ['"']
  | .redirection .. => "redirection"
  | .word .. => match t.plain? with
    | some k => if (keywords .plain).contains k then '"' :: k ++ ['"'] else "word"
    | none => "word"

/-- The token as it is written. -/
def source : Token → Text
  | .finish => []
  | .newline => "newline"
  | .operator o => o
  | .redirection _ _ t => t
  | .word _ t => t

end Token

/-- Where a word may have brackets with anything between them at its start. -/
inductive Keyed
  /-- Nowhere. -/
  | never
  /-- After a name. -/
  | named
  /-- At once. -/
  | bare
  deriving DecidableEq

/-- What is left of a text of commands. -/
structure Source where
  /-- The dialect. -/
  dialect : Dialect
  /-- Do patterns know groups of alternatives? -/
  groups : Bool
  /-- Texts in place of words that name commands. -/
  aliases : Dict Text
  /-- Where the next word may have brackets with anything between them. -/
  keyed : Keyed
  /-- Words that have been replaced, each until only so many characters are left. -/
  spent : List (Text × Nat)
  /-- Is the word after so many characters replaced, too? -/
  alsoAfter : Option Nat
  /-- Is the text read from a file while its commands are run? -/
  fromFile : Bool
  /-- The whole text. -/
  whole : Text
  /-- The number of its first line. -/
  firstLine : Nat
  /-- The characters that are left. -/
  rest : Text
  /-- The number of the line that follows the text. -/
  lastLine : Nat
  /-- The number of lines that have been taken from behind the line that has been reached. -/
  ahead : Nat
  /-- A token that was read but not used. -/
  pending : Option Token
  /-- The line on which the latest token starts. -/
  tokenLine : Nat
  /-- Lines that are to be said when the commands are run. -/
  warnings : List (Nat × Text)

/-- How texts are read. -/
structure Reading where
  /-- The dialect. -/
  dialect : Dialect
  /-- Do patterns know groups of alternatives? -/
  groups : Bool
  /-- Texts in place of words that name commands. -/
  aliases : Dict Text

/-- The text as it is read: the rich dialect ends the last line if it has no end. -/
def Reading.complete (r : Reading) (t : Text) : Text :=
  match r.dialect, t.getLast? with
  | .rich, some c => if c = '\n' then t else t ++ ['\n']
  | _, _ => t

/-- Commands, the first line of which has that number. -/
def Source.ofLines (r : Reading) (t : Text) (firstLine : Nat) : Source where
  dialect := r.dialect
  groups := r.groups
  aliases := r.aliases
  keyed := .never
  spent := []
  alsoAfter := none
  fromFile := false
  whole := t
  firstLine := firstLine
  rest := t
  lastLine := firstLine + t.count '\n'
  ahead := 0
  pending := none
  tokenLine := firstLine
  warnings := []

/-- A text of commands, the first line of which has that number. -/
def Source.ofText (r : Reading) (t : Text) (firstLine : Nat) : Source := Source.ofLines r (r.complete t) firstLine

/-- A file of commands. -/
def Source.ofFile (r : Reading) (t : Text) : Source := { Source.ofText r t 1 with fromFile := true }

/-- The source with other ways to read. -/
def Source.readAs (s : Source) (r : Reading) : Source :=
  { s with dialect := r.dialect, groups := r.groups, aliases := r.aliases }

/-- How the source is read. -/
def Source.reading (s : Source) : Reading := ⟨s.dialect, s.groups, s.aliases⟩

/-- The number of the line that has been reached. -/
def Source.line (s : Source) : Nat := s.lastLine - s.rest.count '\n' - s.ahead

/-- Is nothing left? -/
def Source.isFinished (s : Source) : Bool :=
  match s.pending with
  | none => s.rest.isEmpty
  | some .finish => true
  | some _ => false

/-- A line of the whole text. -/
def Source.lineText (s : Source) (n : Nat) : Text := (Text.split '\n' s.whole)[n - s.firstLine]?.getD []

/-- A text is not made of commands. -/
structure SyntaxError where
  /-- The number of the line that was reached. -/
  line : Nat
  /-- What is said about it, line by line. -/
  messages : List Text

/-- Is a mark missing at the end of the text? -/
def SyntaxError.isCut (e : SyntaxError) : Bool := e.messages.any fun m => "unexpected EOF".toList.isPrefixOf m

/-- Reading from a source. -/
abbrev Parser := StateT Source (Except SyntaxError)

namespace Parser

/-- Refuse what has been read. -/
def fail {α : Type} (message : Text) : Parser α := do
  throw ⟨(← get).line, [message]⟩

/-- Refuse what has been read because a mark is missing. -/
def unmatched {α : Type} (line : Nat) (mark message : Text) : Parser α := do
  match (← get).dialect with
  | .plain => fail message
  | .rich =>
    let said : Text := "unexpected EOF while looking for matching " ++ '`' :: mark ++ ['\'']
    throw ⟨line, [said]⟩

/-- Refuse a token in the rich dialect. -/
def strange {α : Type} (t : Token) : Parser α := do
  let s ← get
  match t with
  | .finish =>
    let line := s.firstLine + s.whole.count '\n' + (if s.whole.getLast? = some '\n' then 0 else 1)
    throw ⟨line, ["syntax error: unexpected end of file".toList]⟩
  | t =>
    let quoted (u : Text) : Text := '`' :: u ++ ['\'']
    throw ⟨s.tokenLine, ["syntax error near unexpected token " ++ quoted t.source, quoted (s.lineText s.tokenLine)]⟩

/-- Refuse a token. -/
def unexpected {α : Type} (t : Token) : Parser α := do
  match (← get).dialect with
  | .plain => fail (t.describe ++ " unexpected")
  | .rich => strange t

/-- Refuse a token where another one had to stand. -/
def unexpectedFor {α : Type} (t : Token) (wanted : Text) : Parser α := do
  match (← get).dialect with
  | .plain => fail (t.describe ++ " unexpected (expecting " ++ wanted ++ ")")
  | .rich => strange t

/-- Skip so many characters. -/
def skip (n : Nat) : Parser Unit := modify fun s => { s with rest := s.rest.drop n }

/-- Take the characters that pass a test. -/
def takeWhile (p : Char → Bool) : Parser Text := do
  let t := (← get).rest.takeWhile p
  skip t.length
  return t

/-- Forget the token that was read but not used. -/
def consume : Parser Unit := modify fun s => { s with pending := none }

/-- Is it the rich dialect? -/
def isRich : Parser Bool := do return (← get).dialect = .rich

end Parser

end Rollout.Shell
