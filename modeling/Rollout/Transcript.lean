import Rollout.Run.Event
import Rollout.Text.Utf8

/-!
What a run shows: lines that are logged and messages of shells on the standard error, output of shells and
questions on the standard output. A line is logged without what a terminal would act on: control characters
other than blanks, and sequences that start with an escape character. A sequence is followed through the
states of a terminal's reader; a blank inside of it is shown, and so is what follows the blank.
-/

namespace Rollout

/-! ### Control sequences -/

namespace Text

/-- What a terminal is reading. -/
inductive Reading
  /-- Text. -/
  | ground
  /-- A sequence, after its escape character. -/
  | escape
  /-- A sequence with further characters before its last one. -/
  | escapeMore
  /-- A control sequence with its parameters. -/
  | control
  /-- The head of a string for the device. -/
  | deviceHead
  /-- The parameters of a string for the device. -/
  | deviceParameters
  /-- What follows the parameters of a string for the device. -/
  | deviceMore
  /-- A string up to its terminator. -/
  | string
  /-- A command for the operating system. -/
  | command
  deriving DecidableEq

namespace Reading

/-- What a terminal reads after the character. -/
def next (r : Reading) (c : Char) : Reading :=
  let n := c.toNat
  if n = 0x18 ∨ n = 0x1a then .ground
  else if n = 0x1b then .escape
  else match r with
    | .ground => .ground
    | .escape =>
      if 0x20 ≤ n ∧ n ≤ 0x2f then .escapeMore
      else if c = '[' then .control
      else if c = ']' then .command
      else if c = 'P' then .deviceHead
      else if c = 'X' ∨ c = '^' ∨ c = '_' then .string
      else if 0x30 ≤ n ∧ n ≤ 0x7e then .ground
      else .escape
    | .escapeMore => if 0x30 ≤ n ∧ n ≤ 0x7e then .ground else .escapeMore
    | .control => if 0x40 ≤ n ∧ n ≤ 0x7e then .ground else .control
    | .deviceHead =>
      if 0x20 ≤ n ∧ n ≤ 0x2f then .deviceMore
      else if 0x30 ≤ n ∧ n ≤ 0x3f then .deviceParameters
      else if 0x40 ≤ n ∧ n ≤ 0x7e then .string
      else .deviceHead
    | .deviceParameters =>
      if 0x20 ≤ n ∧ n ≤ 0x2f then .deviceMore
      else if 0x3c ≤ n ∧ n ≤ 0x7e then .string
      else .deviceParameters
    | .deviceMore => if 0x30 ≤ n ∧ n ≤ 0x7e then .string else .deviceMore
    | .string => if (String.utf8EncodeChar c).contains 0x9c then .ground else .string
    | .command => if n = 0x07 then .ground else .command

/-- Is the character a blank that is shown? -/
def isShownBlank (c : Char) : Bool := c = ' ' || c = '\t' || c = '\n' || c = '\x0c' || c = '\r'

/-- Is the character shown in text? -/
def isShownInText (c : Char) : Bool := isShownBlank c || (0x20 ≤ c.toNat && c.toNat ≠ 0x7f)

/-- Is the character shown while a terminal reads this? -/
def shows (r : Reading) (c : Char) : Bool :=
  match r with
  | .ground => isShownInText c
  | .escape | .escapeMore | .control => isShownBlank c && c ≠ ' '
  | _ => false

/-- The text that is shown; a run of shown characters goes on as if it stood in text, and a character beyond
ASCII ends any sequence that was left open before the run. -/
def shown (r : Reading) (inRun : Bool) : Text → Text
  | [] => []
  | c :: cs =>
    if inRun && isShownInText c then c :: shown (if c.toNat < 0x80 then r else .ground) true cs
    else if r.shows c then c :: shown r true cs
    else shown (r.next c) false cs

end Reading

/-- The text without control characters and control sequences. -/
def withoutControlSequences (t : Text) : Text := Reading.ground.shown false t

end Text

/-! ### The two outputs -/

/-- What has been written to the two outputs. -/
structure Transcript where
  /-- The standard output. -/
  stdout : Text
  /-- The standard error. -/
  stderr : Text
  deriving DecidableEq

namespace Transcript

/-- Nothing. -/
def empty : Transcript := ⟨[], []⟩

/-- One after the other. -/
def append (t u : Transcript) : Transcript := ⟨t.stdout ++ u.stdout, t.stderr ++ u.stderr⟩

instance : Append Transcript := ⟨append⟩

/-- A logged line, of which a terminal would act on nothing. -/
def logged (line : Text) : Transcript := ⟨[], Text.withoutControlSequences (line ++ ['\n'])⟩

/-- All of them in order. -/
def concat (ts : List Transcript) : Transcript := ts.foldr append empty

/-- What a host wrote, under its name and without the blanks around it, unless there is nothing else. -/
def captured (host output : Text) : Text :=
  if Text.isBlankText output then [] else "[" ++ host ++ "] " ++ Text.trim output ++ ['\n']

/-- What is shown of a reply. -/
def ofReply (host : Text) (r : Reply) : Transcript := ⟨captured host r.stdout, captured host r.stderr⟩

/-- What an agent shows while it takes part in an event. -/
def ofAgent : Event → Transcript
  | .called host _ (.ok r) => ofReply host r
  | .asked _ _ answer => ⟨answer.shown, []⟩
  | _ => empty

/-- What is shown of an event: its line in the log comes before anything that an agent shows. -/
def ofEvent (verbose : Bool) (e : Event) : Transcript :=
  ((e.log verbose).map logged).getD empty ++ ofAgent e

/-- What is shown of events. -/
def ofEvents (verbose : Bool) (es : List Event) : Transcript := concat (es.map (ofEvent verbose))

end Transcript

end Rollout
