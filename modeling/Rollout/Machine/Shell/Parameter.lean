import Rollout.Machine.Shell.Builtin.Declaring
import Rollout.Machine.Shell.Builtin.Directories
import Rollout.Machine.Shell.Field
import Rollout.Machine.Shell.Quoting

/-!
Parameters: what they hold, by name, by element or by way of another parameter, and what modifiers make of
that: parts of it, other letters, and other forms.
-/

namespace Rollout.Shell

/-! ### Parts -/

/-- The number of items to skip for a start, which is counted from the end below zero. -/
def startAmong (count : Nat) (start : Int) : Option Nat :=
  let n := if start < 0 then start + count else start
  if 0 ≤ n && n ≤ count then some n.toNat else none

/-- The part of a text from a start on; a count below zero counts from its end. -/
def sliceText (t : Text) (start : Int) (count : Option Int) : Except Int Text :=
  match startAmong t.length start with
  | none => .ok []
  | some n =>
    let rest := t.drop n
    match count with
    | none => .ok rest
    | some c =>
      if 0 ≤ c then .ok (rest.take c.toNat)
      else if 0 ≤ rest.length + c then .ok (rest.take (rest.length + c).toNat)
      else .error c

/-- The values from a start on, at most so many. -/
def sliceValues (values : List (Nat × Text)) (start : Int) (count : Option Int) : Except Int (List Text) :=
  let size := ((values.getLast?).map fun v => v.1 + 1).getD 0
  match startAmong size start with
  | none => .ok []
  | some n =>
    let rest := (values.filter fun v => n ≤ v.1).map (·.2)
    match count with
    | none => .ok rest
    | some c => if 0 ≤ c then .ok (rest.take c.toNat) else .error c

/-! ### Letters -/

/-- The text with letters of another case where they pass a test, perhaps only the first character. -/
def recase (upper every : Bool) (p : Char → Bool) : Text → Text
  | [] => []
  | c :: cs =>
    let change (c : Char) : Char := if p c then (if upper then c.toUpper else c.toLower) else c
    change c :: if every then cs.map change else cs

/-! ### Other forms -/

/-- A text in which backslashes in front of letters stand for what prompts show, at a place. -/
def promptText (place : Text) : Nat → Text → Text
  | 0, t => t
  | fuel + 1, t => match t with
    | '\\' :: c :: cs =>
      let shown : Text := match c with
        | 'u' => "root"
        | 'h' => "localhost"
        | 'H' => "localhost"
        | 'w' => place
        | 'W' => if place = ['/'] || place = ['~'] then place else ((Text.split '/' place).getLast?).getD []
        | '$' => ['#']
        | 's' => "bash"
        | 'v' => "5.2"
        | 'V' => "5.2.15"
        | 'n' => ['\n']
        | 'r' => ['\r']
        | 'a' => ['\x07']
        | 'e' => ['\x1b']
        | '[' => []
        | ']' => []
        | '\\' => ['\\']
        | c => ['\\', c]
      shown ++ promptText place fuel cs
    | c :: cs => c :: promptText place fuel cs
    | [] => []

/-- Another form of a value, known by a letter, if there is one. -/
def transform? (letter : Char) (t : Text) : Option Text :=
  match letter with
  | 'Q' => some (Quoting.always t)
  | 'U' => some (t.map Char.toUpper)
  | 'L' => some (t.map Char.toLower)
  | 'u' => some (recase true false (fun _ => true) t)
  | 'E' => some (Unix.Format.unescape .rich .format t).1
  | 'P' => some t
  | 'K' => some (Quoting.always t)
  | 'k' => some (Quoting.always t)
  | _ => none

/-! ### Parameters -/

/-- The home of a user, or of the current one. -/
def State.home? (s : State) (user : Text) : Option Text :=
  match s.dialect, String.ofList user with
  | .plain, "" => s.value? "HOME"
  | .rich, "" => some ((s.value? "HOME").getD "/root")
  | .rich, "+" => s.value? "PWD"
  | .rich, "-" => s.value? "OLDPWD"
  | _, "root" => some "/root"
  | .rich, _ =>
    let stack := s.here :: s.stack
    let (fromEnd, digits) := match user with
      | '-' :: ds => (true, ds)
      | '+' :: ds => (false, ds)
      | ds => (false, ds)
    (Text.toNat? digits).bind fun n => (if fromEnd then stack.reverse else stack)[n]?
  | _, _ => none

/-- Does the word stand in a text? -/
def mentions (word : String) : Text → Bool
  | [] => false
  | c :: cs => word.toList.isPrefixOf (c :: cs) || mentions word cs

/-- The value of an arithmetic expression, whose assignments are made. -/
def evaluate (t : Text) : Action Int := do
  let s ← get
  match Arithmetic.value s.dialect s.lookup t with
  | .error e => giveUp (e.message s.dialect)
  | .ok (n, assigned) => do
    if s.dialect = .rich && mentions "RANDOM" t then modify fun s => { s with toState := s.toState.drawn }
    assignNumbers assigned.reverse
    return n

/-- What an element is, known by its key. -/
def elementHeld (name key : Text) : Action Held := do
  let s ← get
  let held : Option Text → Held := fun
    | some t => .one t
    | none => .none
  match (s.holder? name).map Variable.content with
  | some (.table es) => return held (es.get? key)
  | _ => do
    let i ← evaluate key
    if let some ts := s.changingArray? name then
      return held (ts[(if i < 0 then i + ts.length else i).toNat]?)
    else do
      let es : List (Nat × Text) := match (s.holder? name).map Variable.content with
        | some (.list es) => es
        | some (.text t) => [(0, t)]
        | _ => []
      if i < 0 && (indexIn es i).isNone then report (name ++ ": bad array subscript")
      return held (s.element? name i)

/-- What a parameter stands for whose name is the value of another one. -/
def indirectly (name : Text) (target : Option Text) : Action Held := do
  match target with
  | none => abandon (name ++ ": invalid indirect expansion")
  | some t =>
    let s ← get
    match elementOf t with
    | (n, none) =>
      if isName n || n.all Char.isDigit || ["@", "*", "#", "?"].any (·.toList = n) then return s.parameter n
      else abandon (t ++ ": invalid variable name")
    | (n, some ['@']) => return s.elements n false
    | (n, some ['*']) => return s.elements n true
    | (n, some key) => elementHeld n key

/-- Refuse a parameter that stands for nothing, if that is wanted. -/
def refuseUnset (name : Text) (h : Held) : Action Unit := do
  let s ← get
  match h with
  | .none =>
    if s.has "nounset" then match s.dialect with
      | .plain => abort (name ++ ": parameter not set")
      | .rich => do
        report ((if name.all Char.isDigit then '$' :: name else name) ++ ": unbound variable")
        exitWith 127
  | _ => return

/-- The values of a parameter with numbers, if it stands for several. -/
def numbered? (s : Interpreter) (name : Text) : Option Subscript → Option (List (Nat × Text))
  | none =>
    if name = ['@'] || name = ['*'] then
      some ((List.range (s.arguments.length + 1)).zip (s.name :: s.arguments))
    else none
  | some (.all _) => some (match (s.holder? name).map Variable.content with
    | some (.list es) => es
    | some c =>
      let ts := c.elements.map (·.2)
      (List.range ts.length).zip ts
    | none => [])
  | some (.one _) => none

/-- Names of variables or of elements. -/
def namesHeld (s : Interpreter) (name : Text) (joined isStart : Bool) : Held :=
  if isStart then .many (s.vars.keys.filter (name.isPrefixOf ·)) joined
  else match s.changingArray? name with
    | some ts => .many ((List.range ts.length).map Text.ofNat) joined
    | none => .many (((s.holder? name).map fun v => v.content.elements.map (·.1)).getD []) joined

/-- A variable written as the command that declares it. -/
def declaredForm (name : Text) (v : Variable) : Text :=
  match v.content with
  | .text t =>
    let marks := Builtin.marksOf v
    let word : Text := if marks = ['-', '-'] then [] else "declare " ++ marks ++ [' ']
    word ++ name ++ '=' :: Quoting.always t
  | _ => Builtin.declaration name v

/-- The elements of a variable with their keys, each key and each value by itself or quoted. -/
def pairs (quoted : Bool) (v : Variable) : List Text :=
  v.content.elements.flatMap fun e => [e.1, if quoted then Quoting.double e.2 else e.2]

/-- What a modifier known by a letter makes of what is held. -/
def transformed (s : Interpreter) (name : Text) (isAll : Bool) (letter : Char) (h : Held) : Held :=
  match letter, s.holder? name, h with
  | _, _, .none => .none
  | 'A', some v, _ => .one (declaredForm name v)
  | 'a', some v, _ => .one (((Builtin.marksOf v).drop 1).filter (· ≠ '-'))
  | 'K', some v, _ =>
    let ending : Text := match v.content with
      | .table _ => [' ']
      | _ => []
    if isAll then .one (Text.join [' '] (pairs true v) ++ ending) else h.map fun t => (transform? 'K' t).getD t
  | 'k', some v, _ => if isAll then .many (pairs false v) false else h.map fun t => (transform? 'k' t).getD t
  | 'P', _, _ => h.map fun t => promptText (Builtin.withTilde s s.here) (t.length + 1) t
  | _, _, _ => h.map fun t => (transform? letter t).getD t

/-- What stands for a part of a value that is covered, where an ampersand stands for the part. -/
def replacementFor (quoted : Bool) (part : Text) : List Pattern.Marked → Text
  | [] => []
  | ('\\', q) :: (c, r) :: ms =>
    if quoted && (c = '&' || c = '\\') then c :: replacementFor quoted part ms
    else if c = '&' && !r then '\\' :: part ++ replacementFor quoted part ms
    else '\\' :: (if q || c ≠ '\\' then [c] else ['\\']) ++ replacementFor quoted part ms
  | (c, q) :: ms => (if c = '&' && (quoted || !q) then part else [c]) ++ replacementFor quoted part ms

end Rollout.Shell
