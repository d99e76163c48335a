import Rollout.Upfile.Parser

/-!
The grammar of an Upfile, line by line. A comment starts at a `#` that is at the start of its line
or comes right after a space or a tab; what precedes it decides whether the line is blank, a line of
a body or the header of the next command. `declared` reads the lines of a text in their order and
stops at the first error.
-/

namespace Rollout.Upfile

/-! ### Lines without their comments -/

/-- The lines of a text, the pieces between newlines and carriage returns. -/
def sourceLines (t : Text) : List Text := t.splitOnP isLineEnd

/-- The part of a line before its first comment, knowing whether a comment may start right here. -/
def codeFrom : Bool → Text → Text
  | _, [] => []
  | fresh, c :: cs => if fresh ∧ c = '#' then [] else c :: codeFrom (c = ' ' || c = '\t') cs

/-- The part of a line before its first comment. -/
def code (line : Text) : Text := codeFrom true line

/-- A word of a line is made of the characters other than spaces and tabs. -/
def isInked (c : Char) : Bool := c ≠ ' ' && c ≠ '\t'

/-- The words of a text without tabs. -/
def words (t : Text) : List Text := (t.splitOnP (· = ' ')).filter (· ≠ [])

/-! ### What a line does -/

/-- What has been read of an Upfile between two of its lines. -/
structure Reading where
  /-- The commands that are complete. -/
  commands : Dict Command
  /-- The name of the first command. -/
  first : Option Text
  /-- The command that is being read, with its name. -/
  current : Option (Text × Command)
  deriving DecidableEq

namespace Reading

/-- Nothing has been read. -/
def start : Reading := ⟨.empty, none, none⟩

/-- The commands with the one being read, which must have a line to run. -/
def close (r : Reading) : Except ParseError (Dict Command) :=
  match r.current with
  | none => .ok r.commands
  | some (name, command) =>
    if command.lines = [] then .error (.nothingToRun name) else .ok (r.commands.insert name command)

/-- Read a header: the name of a command and its guards. The last line of a text is not ended, and a
header must be. -/
def header (r : Reading) (c : Text) (last : Bool) : Except ParseError Reading := do
  let commands ← r.close
  let name := c.takeWhile isInked
  if name = "inventory".toList then throw .inlineInventory
  else if commands.contains name then throw (.duplicateCommand name)
  else if '\t' ∈ c then throw (.strayInHeader ['\t'] name)
  else if last then throw (.unexpectedEnd name)
  else return ⟨commands, some (r.first.getD name), some (name, ⟨words (c.dropWhile isInked), []⟩)⟩

/-- The command with a line more, which loses the blanks at its end and counts for nothing without
anything else. -/
def appendLine (command : Command) (text : Text) : Command :=
  if Text.trimEnd text = [] then command
  else { command with lines := command.lines ++ [Text.trimEnd text] }

/-- Read a line of a body, with the text between its tab and its comment. -/
def bodyLine (name : Text) (command : Command) (line text : Text) : Except ParseError Command :=
  if text = [] ∨ line.all (· = '\t') then .ok command
  else if text.head? = some '\t' then .error (.doubleIndent name)
  else .ok (appendLine command text)

/-- Read a line with its code, knowing whether it is the last one. -/
def readCode (r : Reading) (line c : Text) (last : Bool) : Except ParseError Reading :=
  if c.all (· = ' ') then .ok r
  else match c, r.current with
    | '\t' :: _, none => .error (.indentedHeader ['\t'])
    | ' ' :: cs, none => .error (.indentedHeader (' ' :: cs.takeWhile (· = ' ')))
    | ' ' :: _, some (name, _) => .error (.spaceIndent name)
    | '\t' :: text, some (name, command) => do
      return { r with current := some (name, ← bodyLine name command line text) }
    | c, _ => r.header c last

/-- Read the lines of a text up to its end. -/
def readLines (r : Reading) : List Text → Except ParseError Reading
  | [] => .ok r
  | line :: lines => r.readCode line (code line) lines.isEmpty >>= (readLines · lines)

/-- The Upfile that has been read. Every guard must be the name of another command; among several
bad ones the first bad guard of the first command, in the order of names, is told. -/
def finish (r : Reading) : Except ParseError Upfile := do
  let commands ← r.close
  match r.first, tableFault commands with
  | none, _ => throw .noCommands
  | some _, some e => throw e
  | some first, none => return ⟨commands, first⟩

end Reading

/-- What the lines of a text declare. -/
def declared (t : Text) : Except ParseError Upfile :=
  Reading.start.readLines (sourceLines t) >>= Reading.finish

end Rollout.Upfile
