import Rollout.Machine.Shell.Field
import Rollout.Text.Basic

/-!
Conditions about texts, numbers and files. In the plain dialect three arguments with an operator in the middle
always are a question about two values, and others are read from left to right; in the rich dialect the number
of arguments says what they mean.
-/

namespace Rollout.Shell.Condition

open Unix (Process)

/-- What conditions are about. -/
structure World where
  /-- The process that asks. -/
  process : Process
  /-- Has a variable a value? -/
  isSet : Text → Bool
  /-- Is an option on? -/
  isOn : Text → Bool
  /-- Does a variable stand for another one? -/
  isReference : Text → Bool

/-- The meaning of an argument. -/
inductive Lexeme
  /-- There is none. -/
  | finish
  /-- A value. -/
  | operand
  /-- A question about one value. -/
  | unary (op : Text)
  /-- A question about two values. -/
  | binary (op : Text)
  /-- A question whose answer is turned around. -/
  | negation
  /-- Both of two conditions. -/
  | conjunction
  /-- One of two conditions. -/
  | disjunction
  /-- An opening parenthesis. -/
  | opening
  /-- A closing parenthesis. -/
  | closing
  deriving DecidableEq

/-- The questions about one value. -/
def unaryOperators : List Text :=
  ["-r", "-w", "-x", "-e", "-f", "-d", "-c", "-b", "-p", "-u", "-g", "-k", "-s", "-t", "-z", "-n", "-h", "-O",
    "-G", "-L", "-S"].map String.toList

/-- The questions about two values. -/
def binaryOperators : List Text :=
  ["=", "!=", "<", ">", "-eq", "-ne", "-ge", "-gt", "-le", "-lt", "-nt", "-ot", "-ef"].map String.toList

/-- The operator that an argument may be. -/
def operator (t : Text) : Lexeme :=
  if unaryOperators.contains t then .unary t
  else if binaryOperators.contains t then .binary t
  else if t = ['!'] then .negation
  else if t = ['-', 'a'] then .conjunction
  else if t = ['-', 'o'] then .disjunction
  else if t = ['('] then .opening
  else if t = [')'] then .closing
  else .operand

/-- Does an operator on two values come between the next arguments? -/
def isOperand : List Text → Bool
  | [] => true
  | [_] => false
  | t :: _ => match operator t with
    | .binary _ => true
    | _ => false

/-- The meaning of the first argument. -/
def lex : List Text → Lexeme
  | [] => .finish
  | t :: ts => match operator t with
    | .unary op => if isOperand ts then .operand else .unary op
    | .opening => if ts = [] then .operand else .opening
    | l => l

/-! ### Questions -/

/-- The integer that an argument denotes. -/
def integer? (t : Text) : Option Int :=
  let digits := Text.trim t
  let (negative, digits) := match digits with
    | '-' :: ds => (true, ds)
    | '+' :: ds => (false, ds)
    | ds => (false, ds)
  (Text.toNat? digits).bind fun n =>
    let value : Int := if negative then -n else n
    if value = Arithmetic.saturate value then some value else none

/-- The integer that an argument denotes, or what is wrong with it. -/
def integer (d : Dialect) (t : Text) : Except Text Int :=
  match integer? t, d with
  | some n, _ => .ok n
  | none, .plain => .error ("Illegal number: " ++ t)
  | none, .rich => .error (t ++ ": integer expression expected")

/-- The permissions of what a path leads to. -/
def modeOf (p : Process) (path : Text) : Nat := ((p.find? path).map fun t => t.about.mode).getD 0

/-- Does a path end in a link? -/
def isLink (p : Process) (path : Text) : Bool :=
  match p.entry path with
  | .ok (_, .link ..) => true
  | _ => false

/-- Answer a question about one value. -/
def askOne (w : World) (op t : Text) : Bool :=
  let found := w.process.find? t
  match String.ofList op with
  | "-z" => t = []
  | "-n" => t ≠ []
  | "-a" => found.isSome
  | "-e" => found.isSome
  | "-r" => found.isSome
  | "-w" => found.isSome
  | "-O" => found.isSome
  | "-G" => found.isSome
  | "-f" => match found with
    | some (.file ..) => true
    | _ => false
  | "-d" => (found.map (·.isDir)).getD false
  | "-c" => match found with
    | some (.device d _) => d ≠ .pipe
    | _ => false
  | "-p" => match found with
    | some (.device .pipe _) => true
    | _ => false
  | "-x" => match found with
    | some (.file _ a) => a.mode &&& FileTree.runMode ≠ 0
    | some (.dir ..) => true
    | _ => false
  | "-s" => match found with
    | some (.file data _) => !data.isEmpty
    | some (.dir ..) => true
    | _ => false
  | "-h" => isLink w.process t
  | "-L" => isLink w.process t
  | "-u" => modeOf w.process t &&& 0o4000 ≠ 0
  | "-g" => modeOf w.process t &&& 0o2000 ≠ 0
  | "-k" => modeOf w.process t &&& 0o1000 ≠ 0
  | "-v" => w.isSet t
  | "-R" => w.isReference t
  | "-o" => w.isOn t
  | _ => false

/-- Answer a question about one value, or tell what is wrong with it. -/
def ask (d : Dialect) (w : World) (op t : Text) : Except Text Bool :=
  if op = ['-', 't'] && d = .plain then (integer d t).map fun _ => false else .ok (askOne w op t)

/-- Compare two numbers. -/
def askNumbers (d : Dialect) (f : Int → Int → Bool) (a b : Text) : Except Text Bool := do
  return f (← integer d a) (← integer d b)

/-- How an operator compares numbers. -/
def comparison? (op : Text) : Option (Int → Int → Bool) :=
  match String.ofList op with
  | "-eq" => some (· = ·)
  | "-ne" => some (· ≠ ·)
  | "-ge" => some (· ≥ ·)
  | "-gt" => some (· > ·)
  | "-le" => some (· ≤ ·)
  | "-lt" => some (· < ·)
  | _ => none

/-- Was the first changed later than the second, or is it alone there? -/
def isNewer : Option FileTree → Option FileTree → Bool
  | some a, some b => b.about.changed < a.about.changed
  | some _, none => true
  | none, _ => false

/-- Answer a question about two files. -/
def askFiles (p : Process) (op a b : Text) : Bool :=
  match String.ofList op with
  | "-ef" => (p.find? a).any fun t => (p.find? b).any fun u => t.about.node = u.about.node
  | "-nt" => isNewer (p.find? a) (p.find? b)
  | "-ot" => isNewer (p.find? b) (p.find? a)
  | _ => false

/-- Answer a question about two values. -/
def askTwo (d : Dialect) (w : World) (op a b : Text) : Except Text Bool :=
  match comparison? op, String.ofList op with
  | some f, _ => askNumbers d f a b
  | none, "=" => .ok (a = b)
  | none, "==" => .ok (a = b)
  | none, "!=" => .ok (a ≠ b)
  | none, "<" => .ok (a < b)
  | none, ">" => .ok (b < a)
  | none, "-a" => .ok (a ≠ [] && b ≠ [])
  | none, "-o" => .ok (a ≠ [] || b ≠ [])
  | none, "-ef" => .ok (askFiles w.process op a b)
  | none, _ => .ok (d = .rich && askFiles w.process op a b)

/-! ### Reading from left to right -/

/-- An answer, and the arguments from the last one that was used on. -/
abbrev Answered := Except Text (Bool × List Text)

mutual

/-- Answer alternatives. -/
def disjunction (w : World) : Nat → Lexeme → List Text → Answered
  | 0, _, _ => .error "too deep"
  | fuel + 1, l, ts => do
    let (a, ts) ← conjunction w fuel l ts
    if lex ts.tail = .disjunction then do
      let (b, ts) ← disjunction w fuel (lex (ts.drop 2)) (ts.drop 2)
      return (a || b, ts)
    else return (a, ts)

/-- Answer conditions that hold together. -/
def conjunction (w : World) : Nat → Lexeme → List Text → Answered
  | 0, _, _ => .error "too deep"
  | fuel + 1, l, ts => do
    let (a, ts) ← negation w fuel l ts
    if lex ts.tail = .conjunction then do
      let (b, ts) ← conjunction w fuel (lex (ts.drop 2)) (ts.drop 2)
      return (a && b, ts)
    else return (a, ts)

/-- Answer a condition that may be turned around. -/
def negation (w : World) : Nat → Lexeme → List Text → Answered
  | 0, _, _ => .error "too deep"
  | fuel + 1, l, ts =>
    if l = .negation then do
      let next := lex ts.tail
      let (a, ts) ← negation w fuel next (if next = .finish then ts else ts.tail)
      return (!a, ts)
    else primary w fuel l ts

/-- Answer a single condition. -/
def primary (w : World) : Nat → Lexeme → List Text → Answered
  | 0, _, _ => .error "too deep"
  | fuel + 1, l, ts =>
    match l with
    | .finish => .ok (false, ts)
    | .opening =>
      if lex ts.tail = .closing then .ok (false, ts.tail)
      else do
        let (a, ts) ← disjunction w fuel (lex ts.tail) ts.tail
        if lex ts.tail = .closing then return (a, ts.tail) else throw "closing paren expected".toList
    | .unary op => match ts.tail with
      | [] => .error (op ++ ": argument expected")
      | t :: rest => do return (← ask .plain w op t, t :: rest)
    | _ => match lex ts.tail, ts with
      | .binary op, a :: _ :: rest => match rest with
        | [] => .error (op ++ ": argument expected")
        | b :: rest => do return (← askTwo .plain w op a b, b :: rest)
      | _, ts => .ok (ts.head? ≠ some [] && ts.head? ≠ none, ts)

end

/-- Answer arguments that start with this meaning; nothing may follow them. -/
def answerAll (w : World) (l : Lexeme) (ts : List Text) : Except Text Bool := do
  let (answer, rest) ← disjunction w (8 * (ts.length + 4)) l ts
  match rest with
  | t :: _ :: _ => throw (t ++ ": unexpected operator")
  | _ => return answer

/-- Is the second of three arguments a question about the others? -/
def hasMiddle : List Text → Bool
  | [_, op, _] => binaryOperators.contains op
  | _ => false

/-- Answer the arguments in the plain dialect, or tell what is wrong with them; the answer may be turned
around. -/
def evaluatePlain (w : World) (negated : Bool) : List Text → Except Text Bool
  | [] => .ok negated
  | t :: ts =>
    if hasMiddle (t :: ts) then (answerAll w .operand (t :: ts)).map (· != negated)
    else if ts.length = 2 ∨ ts.length = 3 then
      if t = ['('] && ts.getLast? = some [')'] then (answerAll w (lex ts.dropLast) ts.dropLast).map (· != negated)
      else if t = ['!'] then evaluatePlain w true ts
      else (answerAll w (lex (t :: ts)) (t :: ts)).map (· != negated)
    else (answerAll w (lex (t :: ts)) (t :: ts)).map (· != negated)

/-! ### Counting arguments -/

/-- Is it a question about one value in the rich dialect? -/
def isUnary (t : Text) : Bool := unaryOperators.contains t || (["-a", "-v", "-o", "-N", "-R"].map String.toList).contains t

/-- Is it a question about two values in the rich dialect? -/
def isBinary (t : Text) : Bool := binaryOperators.contains t || t = ['=', '=']

/-- An answer, and the arguments that are left. -/
abbrev Counted := Except Text (Bool × List Text)

mutual

/-- Answer alternatives. -/
def choose (w : World) : Nat → List Text → Counted
  | 0, _ => .error "too deep"
  | fuel + 1, ts => do
    let (a, rest) ← join w fuel ts
    match rest with
    | ['-', 'o'] :: rest => do
      let (b, rest) ← choose w fuel rest
      return (a || b, rest)
    | rest => return (a, rest)

/-- Answer conditions that hold together. -/
def join (w : World) : Nat → List Text → Counted
  | 0, _ => .error "too deep"
  | fuel + 1, ts => do
    let (a, rest) ← term w fuel ts
    match rest with
    | ['-', 'a'] :: rest => do
      let (b, rest) ← join w fuel rest
      return (a && b, rest)
    | rest => return (a, rest)

/-- Answer a single condition. -/
def term (w : World) : Nat → List Text → Counted
  | 0, _ => .error "too deep"
  | fuel + 1, ts => match ts with
    | [] => .error "argument expected"
    | ['!'] :: rest => do
      let (a, rest) ← term w fuel rest
      return (!a, rest)
    | ['('] :: rest => do
      let (a, rest) ← choose w fuel rest
      match rest with
      | [')'] :: rest => return (a, rest)
      | _ => .error "`)' expected"
    | a :: op :: rest =>
      if isBinary op then match rest with
        | b :: rest => do return (← askTwo .rich w op a b, rest)
        | [] => .error "argument expected"
      else if isUnary a then do return (← ask .rich w a op, rest)
      else return (a ≠ [], op :: rest)
    | [a] => return (a ≠ [], [])

end

/-- Answer the arguments in the rich dialect, or tell what is wrong with them. -/
def evaluateRich (w : World) : List Text → Except Text Bool
  | [] => .ok false
  | [a] => .ok (a ≠ [])
  | [op, a] =>
    if op = ['!'] then .ok (a = [])
    else if isUnary op then ask .rich w op a
    else .error (op ++ ": unary operator expected")
  | [a, op, b] =>
    if isBinary op || op = ['-', 'a'] || op = ['-', 'o'] then askTwo .rich w op a b
    else if a = ['!'] then (evaluateRich w [op, b]).map (!·)
    else if a = ['('] && b = [')'] then .ok (op ≠ [])
    else .error (op ++ ": binary operator expected")
  | a :: ts =>
    if ts.length = 3 && a = ['!'] then (evaluateRich w ts).map (!·)
    else if ts.length = 3 && a = ['('] && ts.getLast? = some [')'] then evaluateRich w ts.dropLast
    else do
      let (answer, rest) ← choose w (8 * (ts.length + 4)) (a :: ts)
      if rest = [] then return answer else throw "too many arguments".toList
  termination_by ts => ts.length
  decreasing_by all_goals simp_all

/-- Answer the arguments, or tell what is wrong with them. -/
def evaluate (d : Dialect) (w : World) (ts : List Text) : Except Text Bool :=
  match d with
  | .plain => evaluatePlain w false ts
  | .rich => evaluateRich w ts

end Rollout.Shell.Condition
