import Rollout.Text.Basic

/-!
The command language in which lines are written, as trees: words with the expansions that stand in them, and
commands put together from words. There are two dialects of it, of which one has more forms.
-/

namespace Rollout.Shell

/-- A dialect of the command language. -/
inductive Dialect
  /-- The plain one. -/
  | plain
  /-- The one with more forms. -/
  | rich
  deriving DecidableEq

/-- When a parameter is replaced by a word, and what else happens then. -/
inductive Fallback
  /-- The word stands in for a missing value. -/
  | use
  /-- The word also becomes the value. -/
  | assign
  /-- The word is the message of an error. -/
  | fail
  /-- The word stands in for a value that is there. -/
  | instead
  deriving DecidableEq

/-- Which parts of a value are replaced. -/
inductive Replacing
  | first
  | every
  | atStart
  | atEnd
  deriving DecidableEq

/-- What stands for a descriptor after a redirection. -/
inductive Attachment
  /-- A file that is read. -/
  | read
  /-- A file that is written from its start; one that is there may be kept. -/
  | write (force : Bool)
  /-- A file that is written at its end. -/
  | extend
  /-- A file that is read or written. -/
  | update
  /-- Another descriptor. -/
  | duplicate (reads : Bool)
  /-- The text that is given. -/
  | document
  /-- The text of a word. -/
  | word
  deriving DecidableEq

/-- Which descriptor is changed. -/
inductive Slot
  /-- The one with a number. -/
  | fixed (n : Nat)
  /-- One that is free, whose number a variable gets. -/
  | free (name : Text)
  deriving DecidableEq

/-- How an arm of a choice ends. -/
inductive ArmEnd
  /-- The choice is made. -/
  | done
  /-- The next arm is run, too. -/
  | fallThrough
  /-- The next arms are tried, too. -/
  | tryMore
  deriving DecidableEq

mutual

/-- A part of a word. Inside quotes the characters of an expansion have no further meaning. -/
inductive Piece
  /-- Characters as they are. -/
  | text (t : Text) (quoted : Bool)
  /-- What is made of the value of a parameter. -/
  | parameter (parameter : Parameter) (modifier : Modifier) (quoted : Bool)
  /-- What commands write. -/
  | output (commands : List Command) (quoted : Bool)
  /-- The value of an arithmetic expression. -/
  | arithmetic (expression : List Piece) (quoted : Bool)
  /-- A file that stands for a stream from or to commands. -/
  | channel (reads : Bool) (commands : List Command)
  /-- The home of a user, or of the current one. -/
  | home (user : Text)
  /-- The elements of an array, some with the indices for them. -/
  | elements (values : List (Option (List Piece) × List Piece))
  /-- An expansion that means nothing. -/
  | meaningless (source : Text)

/-- A parameter: by its name, perhaps one element or all of them, or the one that its value names. -/
inductive Parameter
  | mk (name : Text) (subscript : Option Subscript) (indirect : Bool)

/-- Which element of an array is meant. -/
inductive Subscript
  /-- All of them, perhaps joined to one text. -/
  | all (joined : Bool)
  /-- The one with this index. -/
  | one (index : List Piece)

/-- What is made of a value. -/
inductive Modifier
  /-- The value itself. -/
  | plain
  /-- Its length. -/
  | length
  /-- A word in some cases; an empty value may count as missing. -/
  | fallback (kind : Fallback) (orEmpty : Bool) (word : List Piece)
  /-- The value less what a pattern covers at one of its ends. -/
  | trimmed (atEnd longest : Bool) (pattern : List Piece)
  /-- A part of the value. -/
  | slice (start : List Piece) (count : Option (List Piece))
  /-- The value with something in place of what a pattern covers. -/
  | replaced (which : Replacing) (pattern replacement : List Piece)
  /-- The value with letters of another case where a pattern covers them. -/
  | recased (upper every : Bool) (pattern : List Piece)
  /-- Another form of the value, known by a letter. -/
  | transformed (letter : Char)
  /-- The names of variables, or of the indices of an array, instead of values. -/
  | names

/-- A change of a descriptor. -/
inductive Redirection
  | mk (line : Nat) (slot : Slot) (attachment : Attachment) (target : List Piece)

/-- A value for a variable or for an element of it, which may be added to what is there. -/
inductive Assignment
  | mk (name : Text) (index : Option (List Piece)) (extend : Bool) (value : List Piece)

/-- A condition in brackets. -/
inductive Question
  /-- A question about a word. -/
  | one (op : Text) (w : List Piece)
  /-- A question about two words. -/
  | two (op : Text) (a b : List Piece)
  /-- The contrary. -/
  | negated (q : Question)
  /-- Both. -/
  | both (a b : Question)
  /-- One of them. -/
  | either (a b : Question)

/-- A command. -/
inductive Command
  /-- Assignments, and words that name what is run and its arguments; also how all is written. -/
  | simple (line : Nat) (assignments : List Assignment) (words : List (List Piece))
      (redirections : List Redirection) (written : Text)
  /-- Commands each of which reads what the one before writes; the status may be turned around. -/
  | pipeline (negated : Bool) (stages : List Command)
  /-- The second command only if the first succeeds. -/
  | both (first second : Command)
  /-- The second command only if the first fails. -/
  | either (first second : Command)
  /-- A command that nobody waits for. -/
  | background (command : Command)
  /-- Commands whose changes of the process are forgotten. -/
  | subshell (line : Nat) (body : List Command)
  /-- Commands together. -/
  | group (body : List Command)
  /-- One of two lists of commands. -/
  | branch (condition body otherwise : List Command)
  /-- Commands that are repeated as long as a condition succeeds, or fails. -/
  | loop (whileSuccess : Bool) (condition body : List Command)
  /-- Commands that are repeated for each word; without words, for each argument. Also how the words are written. -/
  | each (line : Nat) (name : Text) (words : Option (List (List Piece))) (written : Text) (body : List Command)
  /-- Commands that are repeated for words that are chosen from a list; without words, from the arguments. -/
  | menu (line : Nat) (name : Text) (words : Option (List (List Piece))) (written : Text) (body : List Command)
  /-- Commands that are repeated as long as an expression is not zero; also how the expressions are written. -/
  | counted (line : Nat) (start condition step : List Piece) (written : Text) (body : List Command)
  /-- The commands beside the first pattern that covers a word; also how the word and the patterns are written. -/
  | choice (line : Nat) (subject : List Piece) (written : Text)
      (arms : List (List (List Piece) × Text × List Command × ArmEnd))
  /-- A condition, and how it is written. -/
  | question (line : Nat) (question : Question) (written : Text)
  /-- An arithmetic expression, and how it is written. -/
  | sum (line : Nat) (expression : List Piece) (written : Text)
  /-- A name for a command. -/
  | define (line : Nat) (name : Text) (body : Command)
  /-- A command with descriptors changed; also how the changes are written. -/
  | redirected (line : Nat) (command : Command) (redirections : List Redirection) (written : Text)
  /-- A command whose time is told, perhaps in the older form; without one, the time of nothing. -/
  | timed (older : Bool) (body : List Command)
  /-- A command that is run beside the shell, which reads what it writes and writes what it reads. -/
  | partner (line : Nat) (name : Text) (body : Command)

end

/-- A word is a list of pieces. -/
abbrev Word := List Piece

/-- The value of the parameter of that name. -/
def Piece.value (name : Text) (quoted : Bool) : Piece := .parameter (.mk name none false) .plain quoted

/-- Can the character start a name? -/
def isNameStart (c : Char) : Bool := c.isAlpha || c = '_'

/-- Can the character stand in a name? -/
def isNameChar (c : Char) : Bool := c.isAlphanum || c = '_'

/-- Is the text a name of a variable? -/
def isName : Text → Bool
  | [] => false
  | c :: cs => isNameStart c && cs.all isNameChar

end Rollout.Shell
