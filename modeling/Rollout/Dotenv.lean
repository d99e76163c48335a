import Rollout.Dict
import Rollout.Text.Alphanumeric
import Rollout.Text.Basic

/-!
Files of variables. An entry is a name, an equals sign and a value; it may go on over several lines inside
quotes. Values are unquoted, or quoted in parts, and outside single quotes they may refer to variables of
the environment and to entries above.
-/

namespace Rollout.Dotenv

/-- The file is no file of variables. -/
structure Malformed where
  deriving DecidableEq

/-! ### Entries over several lines -/

/-- What the reader is inside of when it looks for the end of an entry. -/
inductive Span | complete | escape | strong | strongEscape | weak | weakEscape | blank | comment
  deriving DecidableEq

/-- What the reader is inside of after a character. -/
def Span.next : Span → Char → Span
  | .blank, '#' => .comment
  | .blank, '\\' => .escape
  | .blank, '"' => .weak
  | .blank, '\'' => .strong
  | .blank, _ => .complete
  | .escape, _ => .complete
  | .complete, '\n' => .complete
  | .complete, '\r' => .complete
  | .complete, '\\' => .escape
  | .complete, '"' => .weak
  | .complete, '\'' => .strong
  | .complete, c => if Text.isBlank c then .blank else .complete
  | .weak, '\\' => .weakEscape
  | .weak, '"' => .complete
  | .weak, _ => .weak
  | .weakEscape, _ => .weak
  | .strong, '\\' => .strongEscape
  | .strong, '\'' => .complete
  | .strong, _ => .strong
  | .strongEscape, _ => .strong
  | .comment, _ => .comment

/-- What the reader is inside of at the end of a line, and the line up to a comment. -/
def scanLine : Span → Text → Span × Text
  | s, [] => (s, [])
  | s, c :: cs =>
    if s.next c = .comment then (.comment, [])
    else let (e, kept) := scanLine (s.next c) cs; (e, c :: kept)

/-- The lines of a file, each with the newline that ends it. -/
def rawLines (t : Text) : List Text :=
  match Text.split '\n' t with
  | [] => []
  | pieces => (pieces.dropLast.map (· ++ ['\n'])) ++ (pieces.getLast?.toList.filter (· ≠ []))

/-- The line without the newline, or carriage return and newline, that end it. -/
def dropLineEnd (line : Text) : Text :=
  if line.getLast? = some '\n' then Text.dropReturn line.dropLast else line

/-- The entries of a file as texts, of which `read` is the beginning of one. A line that starts with a
number sign, also inside quotes, ends an entry and makes it void. -/
def entryTexts : Span → Text → List Text → Except Malformed (List Text)
  | .complete, _, [] => .ok []
  | _, _, [] => .error {}
  | s, read, line :: lines =>
    if (Text.trimStart (read ++ line)).head? = some '#' then (entryTexts .complete [] lines).map ([] :: ·)
    else match scanLine s line with
      | (.complete, _) => (entryTexts .complete [] lines).map (dropLineEnd (read ++ line) :: ·)
      | (.comment, kept) => (entryTexts .complete [] lines).map ((read ++ kept) :: ·)
      | (s, _) => entryTexts s (read ++ line) lines

/-! ### Values -/

/-- What the reader of a value is inside of; `weak` tells whether double quotes are open. -/
inductive ValueMode
  /-- Text that stands for itself. -/
  | plain (weak : Bool)
  /-- Right after a backslash. -/
  | escaped (weak : Bool)
  /-- Single quotes. -/
  | strong
  /-- The name of a variable. -/
  | name (weak : Bool) (read : Text)
  /-- The name of a variable between braces. -/
  | braced (weak : Bool) (read : Text)
  /-- Behind the value. -/
  | ended

/-- The character that a character behind a backslash stands for. -/
def escape? (c : Char) : Option Char :=
  if c = '\\' ∨ c = '\'' ∨ c = '"' ∨ c = '$' ∨ c = ' ' then some c
  else if c = 'n' then some '\n'
  else none

/-- Read a value, with `look` for the values of variables; `out` is what was read so far. -/
def value (look : Text → Text) : ValueMode → Text → Text → Except Malformed Text
  | .plain false, out, [] => .ok out
  | .escaped false, out, [] => .ok out
  | .name false n, out, [] => .ok (out ++ look n)
  | .ended, out, [] => .ok out
  | _, _, [] => .error {}
  | .ended, out, c :: cs =>
    if c = ' ' ∨ c = '\t' then value look .ended out cs
    else if c = '#' then .ok out
    else .error {}
  | .escaped weak, out, c :: cs =>
    match escape? c with
    | some x => value look (.plain weak) (out ++ [x]) cs
    | none => .error {}
  | .strong, out, c :: cs =>
    if c = '\'' then value look (.plain false) out cs else value look .strong (out ++ [c]) cs
  | .name weak n, out, c :: cs =>
    if Text.isAlphanumeric c then value look (.name weak (n ++ [c])) out cs
    else if c = '\x7b' ∧ n = [] then value look (.braced weak []) out cs
    else if c = '$' then value look (.name weak []) (out ++ look n) cs
    else value look (.plain weak) (out ++ look n ++ [c]) cs
  | .braced weak n, out, c :: cs =>
    if c = '\x7d' then value look (.plain weak) (out ++ look n) cs
    else value look (.braced weak (n ++ [c])) out cs
  | .plain weak, out, c :: cs =>
    if c = '$' then value look (.name weak []) out cs
    else if c = '\\' then value look (.escaped weak) out cs
    else if c = '"' then value look (.plain (!weak)) out cs
    else if weak then value look (.plain weak) (out ++ [c]) cs
    else if c = '\'' then value look .strong out cs
    else if c = ' ' ∨ c = '\t' then value look .ended out cs
    else value look (.plain weak) (out ++ [c]) cs

/-! ### Entries -/

/-- Letters and the underscore may start a name. -/
def startsName (c : Char) : Bool := c.isAlpha || c = '_'

/-- Digits and dots may follow in a name. -/
def continuesName (c : Char) : Bool := c.isAlphanum || c = '_' || c = '.'

/-- A name and what follows it. -/
def readName : Text → Except Malformed (Text × Text)
  | [] => .error {}
  | c :: cs =>
    if startsName c then .ok (c :: cs.takeWhile continuesName, cs.dropWhile continuesName) else .error {}

/-- What follows an equals sign. -/
def readEquals : Text → Except Malformed Text
  | '=' :: cs => .ok cs
  | _ => .error {}

/-- The name of an entry and what follows the equals sign. The name may stand behind the word `export`,
which may also be the name. -/
def readAssignment (t : Text) : Except Malformed (Text × Text) := do
  let (name, rest) ← readName t
  if name = "export".toList then
    match readEquals (Text.trimStart rest) with
    | .ok rest => return (name, rest)
    | .error _ =>
      let (name, rest) ← readName (Text.trimStart rest)
      return (name, ← readEquals (Text.trimStart rest))
  else return (name, ← readEquals (Text.trimStart rest))

/-- The entry that a text makes, if it is not void. -/
def readEntry (look : Text → Text) (t : Text) : Except Malformed (Option (Text × Text)) := do
  let t := Text.trim t
  if t = [] ∨ t.head? = some '#' then return none
  let (name, rest) ← readAssignment t
  let rest := Text.trimStart rest
  if rest = [] ∨ rest.head? = some '#' then return some (name, [])
  return some (name, ← value look (.plain false) [] rest)

/-- The value of a variable: that of the environment, else that of the entries above, else nothing. -/
def lookUp (env above : Dict Text) (name : Text) : Text :=
  match env.get? name with
  | some v => v
  | none => (above.get? name).getD []

/-- The entries that texts make, in order, below those of `above`. -/
def readEntries (env : Dict Text) : Dict Text → List Text → Except Malformed (Dict Text)
  | above, [] => .ok above
  | above, t :: ts => do
    match ← readEntry (lookUp env above) t with
    | none => readEntries env above ts
    | some (name, v) => readEntries env (above.insert name v) ts

/-- The variables that a file sets. -/
def parse (env : Dict Text) (t : Text) : Except Malformed (Dict Text) := do
  readEntries env .empty (← entryTexts .complete [] (rawLines t))

end Rollout.Dotenv
