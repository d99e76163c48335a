import Rollout.Machine.Unix.Manual
import Rollout.Machine.Unix.Process
import Rollout.Machine.Unix.Quotation

/-!
Options of programs. A letter stands after a dash, perhaps together with others, and a word after two dashes;
either may take a value. Operands may stand between options.
-/

namespace Rollout.Unix

/-- Does an option take a value? -/
inductive Value
  | none
  | needed
  | optional
  deriving DecidableEq

/-- An option that a program knows. -/
structure Flag where
  /-- The letter, if it has one. -/
  letter : Option Char
  /-- The word, if it has one. -/
  word : Option Text
  /-- Does it take a value? -/
  value : Value

namespace Flag

/-- A letter and a word without value. -/
def plain (c : Char) (w : String) : Flag := ⟨some c, if w.isEmpty then none else some w.toList, .none⟩

/-- A letter and a word with a value. -/
def valued (c : Char) (w : String) : Flag := ⟨some c, if w.isEmpty then none else some w.toList, .needed⟩

/-- Letters without values. -/
def letters (s : String) : List Flag := s.toList.map fun c => ⟨some c, none, .none⟩

/-- A word without value. -/
def wordOnly (w : String) : Flag := ⟨none, some w.toList, .none⟩

/-- A word with a value. -/
def valuedWord (w : String) : Flag := ⟨none, some w.toList, .needed⟩

/-- How the option is called: by its letter, if it has one. -/
def key (f : Flag) : Text := match f.letter with
  | some c => [c]
  | none => f.word.getD []

end Flag

/-- The arguments of a program. -/
structure Arguments where
  /-- The options in order, with their values. -/
  options : List (Text × Text)
  /-- The other arguments. -/
  operands : List Text

namespace Arguments

/-- Is the option there? -/
def has (a : Arguments) (key : String) : Bool := a.options.any fun o => o.1 = key.toList

/-- The value that the option has in the end. -/
def value? (a : Arguments) (key : String) : Option Text :=
  (a.options.reverse.find? fun o => o.1 = key.toList).map (·.2)

/-- All values of the option. -/
def values (a : Arguments) (key : String) : List Text :=
  (a.options.filter fun o => o.1 = key.toList).map (·.2)

/-- The last of the options that are there. -/
def last? (a : Arguments) (keys : List String) : Option Text :=
  (a.options.reverse.find? fun o => (keys.map String.toList).contains o.1).map (·.1)

/-- The arguments with an option in front. -/
def addOption (key value : Text) (a : Arguments) : Arguments := { a with options := (key, value) :: a.options }

/-- The arguments with an operand in front. -/
def addOperand (t : Text) (a : Arguments) : Arguments := { a with operands := t :: a.operands }

/-- Does the option ask the program to tell about itself? -/
def asksAbout (key : Text) : Bool := Manual.words.any fun w => w.toList = key

/-- The options that a word may stand for: the one it spells, or those it starts. -/
def candidates (flags : List Flag) (w : Text) : List Flag :=
  match flags.find? (·.word = some w) with
  | some f => [f]
  | none => flags.filter fun f => (f.word.map w.isPrefixOf).getD false

mutual

/-- Read arguments. -/
def read (flags : List Flag) (between : Bool) : Nat → List Text → Except Text Arguments
  | 0, ts => .ok ⟨[], ts⟩
  | _, [] => .ok ⟨[], []⟩
  | fuel + 1, t :: ts => match t with
    | ['-', '-'] => .ok ⟨[], ts⟩
    | '-' :: '-' :: w =>
      let name := w.takeWhile (· ≠ '=')
      let given : Option Text := if name.length < w.length then some (w.drop (name.length + 1)) else none
      match candidates flags name with
      | [] => .error ("unrecognized option '--" ++ name ++ ['\''])
      | [f] =>
        let spelled := "option '--" ++ f.word.getD [] ++ "'"
        match f.value, given, ts with
        | .none, some _, _ => .error (spelled ++ " doesn't allow an argument")
        | .none, none, ts =>
          if asksAbout f.key then .ok ⟨[(f.key, [])], []⟩ else (read flags between fuel ts).map (addOption f.key [])
        | _, some v, ts => (read flags between fuel ts).map (addOption f.key v)
        | .optional, none, ts => (read flags between fuel ts).map (addOption f.key [])
        | .needed, none, v :: ts => (read flags between fuel ts).map (addOption f.key v)
        | .needed, none, [] => .error (spelled ++ " requires an argument")
      | fs =>
        let listed : Text := fs.flatMap fun f => " '--" ++ f.word.getD [] ++ ['\'']
        .error ("option '--" ++ name ++ "' is ambiguous; possibilities:" ++ listed)
    | '-' :: c :: cs => readLetters flags between fuel (c :: cs) ts
    | t => if between then (read flags between fuel ts).map (addOperand t) else .ok ⟨[], t :: ts⟩

/-- Read letters of options, and the arguments after them. -/
def readLetters (flags : List Flag) (between : Bool) : Nat → Text → List Text → Except Text Arguments
  | 0, _, ts => .ok ⟨[], ts⟩
  | fuel + 1, [], ts => read flags between fuel ts
  | fuel + 1, c :: cs, ts => match flags.find? (·.letter = some c) with
    | none => .error ("invalid option -- '" ++ c :: ['\''])
    | some f => match f.value, cs, ts with
      | .none, cs, ts => (readLetters flags between fuel cs ts).map (addOption [c] [])
      | .optional, cs, ts => (read flags between fuel ts).map (addOption [c] cs)
      | .needed, [], [] => .error ("option requires an argument -- '" ++ c :: ['\''])
      | .needed, [], v :: ts => (read flags between fuel ts).map (addOption [c] v)
      | .needed, cs, ts => (read flags between fuel ts).map (addOption [c] cs)

end

end Arguments

/-- Say how to learn about the program, and end with a status. -/
def seeHelp {α : Type} (status : Nat) : Act α := do
  complain ("Try '" ++ (← get).name ++ " --help' for more information.")
  throw (.exited status)

/-- End because of arguments that make no sense. -/
def misused {α : Type} (status : Nat) (t : Text) : Act α := do
  grumble t
  seeHelp status

/-- The options and operands among arguments, and what is wrong with them; an option that asks for it makes the
program tell about itself. -/
def givenArguments (flags : List Flag) (between : Bool) (ts : List Text) : Act (Except Text Arguments) := do
  let known := flags ++ Manual.words.map Flag.wordOnly
  match Arguments.read known between (2 * (ts.flatten.length + ts.length) + 2) ts with
  | .ok a => match (a.options.map (·.1)).find? Arguments.asksAbout with
    | some word => Manual.tell word
    | none => return .ok a
  | .error e => return .error e

/-- The options and operands among arguments; what makes no sense ends the process with a status. -/
def arguments (flags : List Flag) (between : Bool) (status : Nat) (ts : List Text) : Act Arguments := do
  match ← givenArguments flags between ts with
  | .ok a => return a
  | .error e => misused status e

/-- Do something for each argument; the worst status counts. -/
def forEach {α : Type} (f : α → Act Nat) : List α → Act Nat
  | [] => return 0
  | t :: ts => do
    let first ← f t
    let rest ← forEach f ts
    return max first rest

end Rollout.Unix
