import Rollout.Machine.Shell.Command

/-!
Commands as they are shown: with their words as they are written, in one line or, inside of commands that have names,
in several lines that are set in.
-/

namespace Rollout.Shell

namespace Command

/-- The text with a semicolon, unless something else ends it. -/
def closed (t : Text) : Text :=
  match t.getLast? with
  | some '&' => t
  | some '\n' => t
  | _ => t ++ [';']

/-- How far lines are usually set in. -/
def usualStep : Nat := 4

/-- The end of a line, and the blanks at the start of the next one. -/
def nextLine (indent : Nat) : Text := '\n' :: List.replicate indent ' '

/-- How an arm of a choice ends. -/
def endMark : ArmEnd → Text
  | .done => ";;"
  | .fallThrough => ";&"
  | .tryMore => ";;&"

mutual

/-- A command, perhaps in several lines that are set in so far. -/
def listed (step : Nat) : Nat → Bool → Nat → Command → Text
  | 0, _, _, _ => []
  | fuel + 1, lines, indent, command =>
    let line (c : Command) : Text := listed step fuel lines indent c
    let inner (cs : List Command) : Text := listedAll step fuel lines (indent + step) cs
    let start (n : Nat) : Text := List.replicate n ' '
    let next := nextLine indent
    let deeper := nextLine (indent + step)
    match command with
    | .simple _ _ _ _ written => written
    | .pipeline negated stages =>
      (if negated then "! ".toList else []) ++ Text.join [' ', '|', ' '] (stages.map line)
    | .both a b => line a ++ " && " ++ line b
    | .either a b => line a ++ " || " ++ line b
    | .background c => line c ++ [' ', '&']
    | .subshell _ body => "( " ++ listedAll step fuel lines indent body ++ " )"
    | .group body =>
      if lines then '\x7b' :: ' ' :: deeper ++ inner body ++ next ++ ['\x7d']
      else "\x7b " ++ closed (listedAll step fuel false indent body) ++ " \x7d"
    | .branch condition body otherwise =>
      "if " ++ closed (listedAll step fuel lines indent condition) ++ " then\n" ++ start (indent + step)
        ++ closed (inner body)
        ++ (if otherwise.isEmpty then [] else next ++ "else".toList ++ deeper ++ closed (inner otherwise))
        ++ next ++ "fi".toList
    | .loop whileSuccess condition body =>
      (if whileSuccess then "while ".toList else "until ") ++ closed (listedAll step fuel lines indent condition) ++ " do\n"
        ++ start (indent + step) ++ closed (inner body) ++ next ++ "done"
    | .each _ name _ written body =>
      "for " ++ name ++ " in " ++ written ++ ";" ++ next ++ "do" ++ deeper ++ closed (inner body) ++ next ++ "done"
    | .menu _ name _ written body =>
      "select " ++ name ++ " in " ++ written ++ ";" ++ next ++ "do" ++ deeper ++ closed (inner body) ++ next ++ "done"
    | .counted _ _ _ _ written body =>
      "for " ++ written ++ next ++ "do" ++ deeper ++ closed (inner body) ++ next ++ "done"
    | .choice _ _ written arms =>
      "case " ++ written ++ " in " ++ listedArms step fuel lines (indent + step) arms ++ next ++ "esac"
    | .question _ _ written => written
    | .sum _ _ written => written
    | .define _ name body => "function " ++ name ++ " () " ++ next ++ listed step fuel true indent body
    | .redirected _ c _ written => line c ++ written
    | .timed older body => "time " ++ (if older then "-p ".toList else []) ++ body.flatMap line
    | .partner _ name body => "coproc " ++ name ++ ' ' :: line body

/-- Commands one after another. -/
def listedAll (step : Nat) : Nat → Bool → Nat → List Command → Text
  | 0, _, _, _ => []
  | _, _, _, [] => []
  | fuel + 1, lines, indent, [c] => listed step fuel lines indent c
  | fuel + 1, lines, indent, c :: cs =>
    let t := listed step fuel lines indent c
    let between : Text := match c with
      | .background _ => [' ']
      | _ => if lines then (if t.getLast? = some '\n' then nextLine indent else ';' :: nextLine indent)
        else [';', ' ']
    t ++ between ++ listedAll step fuel lines indent cs

/-- The arms of a choice. -/
def listedArms (step : Nat) : Nat → Bool → Nat → List (List Word × Text × List Command × ArmEnd) → Text
  | 0, _, _, _ => []
  | _, _, _, [] => []
  | fuel + 1, lines, indent, (_, written, body, ending) :: arms =>
    nextLine indent ++ written ++ ")\n"
      ++ (if body.isEmpty then [] else List.replicate (indent + step) ' ' ++ listedAll step fuel lines (indent + step) body)
      ++ nextLine indent ++ endMark ending ++ listedArms step fuel lines indent arms

end

/-- How deep commands are shown. -/
def maxListed : Nat := 1000

/-- A command as it is written. -/
def shown (c : Command) : Text := listed usualStep maxListed false 0 c

/-- The first line of a loop or a choice, or a command as it is written. -/
def heading : Command → Text
  | .each _ name _ written _ => "for " ++ name ++ " in " ++ written
  | .menu _ name _ written _ => "select " ++ name ++ " in " ++ written
  | .counted _ _ _ _ written _ => written
  | .choice _ _ written _ => "case " ++ written ++ " in "
  | c => c.shown

/-- A command that has a name, with its definition. -/
def definition (name : Text) (body : Command) : Text :=
  let inner := match body with
    | .group _ => body
    | .redirected _ (.group _) _ _ => body
    | c => .group [c]
  name ++ " () \n" ++ listed usualStep maxListed true 0 inner

/-- A command that has a name, as programs get it in a variable. -/
def shared (body : Command) : Text :=
  let (inner, changes) : List Command × Text := match body with
    | .group cs => (cs, [])
    | .redirected _ (.group cs) _ written => (cs, written)
    | c => ([c], [])
  "() \x7b  " ++ listedAll 1 maxListed true 1 inner ++ "\n\x7d" ++ changes

end Command

end Rollout.Shell
