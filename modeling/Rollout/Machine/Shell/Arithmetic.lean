import Rollout.Machine.Shell.Command

/-!
Arithmetic expressions over integers of 64 bits, which wrap around. Variables are read and assigned while
an expression is evaluated. The rich dialect has more operators, numbers to any base, elements of arrays, and
variables whose values are expressions.
-/

namespace Rollout.Shell.Arithmetic

/-- Operations on two numbers. -/
inductive Operation
  | mul | div | mod | add | sub | shiftLeft | shiftRight | lt | le | gt | ge | eq | ne | bitAnd | bitXor | bitOr
  | power | both | either
  deriving DecidableEq

/-- What is wrong with an expression. -/
inductive Fault
  /-- An operand is missing. -/
  | noOperand
  /-- Something follows the expression. -/
  | trailing
  /-- A closing parenthesis is missing. -/
  | unclosed
  /-- The two sides of a choice are not parted. -/
  | noAlternative
  /-- A side of a choice is missing. -/
  | noExpression
  /-- A number is divided by zero. -/
  | divisionByZero
  /-- A power has an exponent below zero. -/
  | negativeExponent
  /-- A digit does not fit the base. -/
  | digitTooGreat
  /-- A character means nothing. -/
  | badOperator
  /-- Something is assigned to what is no variable. -/
  | badAssignment
  /-- Brackets are not closed. -/
  | badSubscript
  /-- The value of a variable is no number. -/
  | noNumber (value : Text)
  /-- Values of variables need each other, or the expression nests too deeply. -/
  | tooDeep
  deriving DecidableEq

/-- Why an expression has no value. -/
structure Failure where
  /-- What is wrong. -/
  fault : Fault
  /-- The expression. -/
  expression : Text
  /-- The expression from the place on where it is wrong. -/
  place : Text

/-- An expression; the texts are what is left of the whole one where a part starts. -/
inductive Expr
  /-- A number. -/
  | number (n : Int)
  /-- The value of a variable. -/
  | variable (name : Text)
  /-- The value of an element. -/
  | element (name : Text) (index : Expr)
  /-- The negated value. -/
  | negated (e : Expr)
  /-- One for zero, and zero for anything else. -/
  | isZero (e : Expr)
  /-- The value with every bit turned around. -/
  | inverted (e : Expr)
  /-- An operation on two values, of which the second may not be needed. -/
  | binary (op : Operation) (a b : Expr) (place : Text)
  /-- One of two values. -/
  | choice (condition a b : Expr)
  /-- The value, which a variable or an element keeps, perhaps after an operation on the old one. -/
  | assign (target : Expr) (op : Option Operation) (e : Expr) (place : Text)
  /-- The value of a variable or an element before or after so much is added to it. -/
  | step (before : Bool) (target : Expr) (n : Int)
  /-- The second value, after the first. -/
  | after (a b : Expr)

/-! ### Numbers -/

/-- The number within 64 bits that agrees with it. -/
def wrap (n : Int) : Int := n.bmod 18446744073709551616

/-- The greatest number of 64 bits. -/
def greatest : Int := 9223372036854775807

/-- The number within 64 bits that is nearest to it. -/
def saturate (n : Int) : Int := max (-greatest - 1) (min greatest n)

/-- The value of a digit. -/
def digitValue (c : Char) : Nat :=
  if c.isDigit then c.toNat - '0'.toNat
  else if 'a' ≤ c && c ≤ 'z' then c.toNat - 'a'.toNat + 10
  else if 'A' ≤ c && c ≤ 'Z' then c.toNat - 'A'.toNat + 10
  else 36

/-- The value of a digit to a base; to a great base letters count differently in both cases. -/
def digitTo (base : Nat) (c : Char) : Nat :=
  if base ≤ 36 then digitValue c
  else if 'A' ≤ c && c ≤ 'Z' then c.toNat - 'A'.toNat + 36
  else if c = '@' then 62
  else if c = '_' then 63
  else digitValue c

/-- The number that digits denote to a base. -/
def numberIn? (base : Nat) (t : Text) : Option Nat :=
  if t.all (digitTo base · < base) then some (t.foldl (fun n c => base * n + digitTo base c) 0) else none

/-- The number at the start of a text, octal after a zero, hexadecimal after `0x`, and what follows it. -/
def constantAt (t : Text) : Option (Nat × Text) :=
  let inBase (base : Nat) (skipped : Nat) : Option (Nat × Text) :=
    let digits := (t.drop skipped).takeWhile (digitValue · < base)
    (numberIn? base digits).map fun n => (n, t.drop (skipped + digits.length))
  match t with
  | '0' :: x :: c :: _ => if (x = 'x' || x = 'X') && digitValue c < 16 then inBase 16 2 else inBase 8 0
  | '0' :: _ => inBase 8 0
  | c :: _ => if c.isDigit then inBase 10 0 else none
  | [] => none

/-- Is the character a blank of expressions? -/
def isSpace (c : Char) : Bool := c = ' ' || ('\t' ≤ c && c ≤ '\r')

/-- The text after the blanks at its start. -/
def trimLeft (t : Text) : Text := t.dropWhile isSpace

/-- The number that a text with or without sign denotes, blanks around it aside; nothing denotes zero. -/
def integer? (t : Text) : Option Int :=
  let t := trimLeft t
  let read (t : Text) : Option Nat := (constantAt t).bind fun (n, rest) => if trimLeft rest = [] then some n else none
  match t with
  | [] => some 0
  | '-' :: ds => (read ds).map fun n => saturate (-(n : Int))
  | '+' :: ds => (read ds).map fun n => saturate (n : Int)
  | ds => (read ds).map fun n => saturate (n : Int)

/-- The number that a word denotes in the rich dialect. -/
def richNumber? (t : Text) : Option Nat :=
  let base := t.takeWhile (· ≠ '#')
  if base.length < t.length then do
    let b ← Text.toNat? base
    if b < 2 || 64 < b then none else numberIn? b (t.drop (base.length + 1))
  else match t with
    | '0' :: x :: ds => if x = 'x' || x = 'X' then numberIn? 16 ds else numberIn? 8 (x :: ds)
    | ds => numberIn? 10 ds

/-! ### Marks -/

/-- What an expression is made of. -/
inductive Mark
  /-- A number. -/
  | number (n : Int)
  /-- A name. -/
  | name (t : Text)
  /-- A name with an index. -/
  | element (name index : Text)
  /-- An operator. -/
  | operator (t : Text)
  /-- Anything else. -/
  | bad (f : Fault)
  deriving DecidableEq

/-- A mark and the text from it on. -/
abbrev Placed := Mark × Text

/-- The operators, a longer one in front of those it starts with. -/
def operators (d : Dialect) : List Text :=
  let plain := ["<<=", ">>=", "<<", ">>", "<=", ">=", "==", "!=", "&&", "||", "+=", "-=", "*=", "/=", "%=", "&=",
    "^=", "|=", "+", "-", "*", "/", "%", "<", ">", "=", "&", "^", "|", "!", "~", "(", ")", "?", ":"]
  (match d with
    | .plain => plain
    | .rich => ["**", "++", "--"] ++ plain ++ [","]).map String.toList

/-- The index behind a bracket, with so many brackets open, and what follows it. -/
def indexAt : Nat → Text → Option (Text × Text)
  | _, [] => none
  | 0, ']' :: cs => some ([], cs)
  | n + 1, ']' :: cs => (indexAt n cs).map fun (t, rest) => (']' :: t, rest)
  | n, '[' :: cs => (indexAt (n + 1) cs).map fun (t, rest) => ('[' :: t, rest)
  | n, c :: cs => (indexAt n cs).map fun (t, rest) => (c :: t, rest)

/-- The mark at the start of a text, and what follows it. -/
def markAt (d : Dialect) (t : Text) : Mark × Text :=
  let word := t.takeWhile isNameChar
  if isName word then
    let rest := t.drop word.length
    match d, rest with
    | .rich, '[' :: more => match indexAt 0 more with
      | some (index, rest) => (.element word index, rest)
      | none => (.bad .badSubscript, [])
    | _, _ => (.name word, rest)
  else match d, t with
    | .plain, t => match constantAt t with
      | some (n, rest) => (.number (saturate n), rest)
      | none => match (operators d).find? (·.isPrefixOf t) with
        | some op => (.operator op, t.drop op.length)
        | none => (.bad .badOperator, [])
    | .rich, t =>
      if (t.head?.map Char.isDigit).getD false then
        let word := t.takeWhile fun c => isNameChar c || c = '#' || c = '@'
        match richNumber? word with
        | some n => (.number (wrap n), t.drop word.length)
        | none => (.bad .digitTooGreat, [])
      else match (operators d).find? (·.isPrefixOf t) with
        | some op => (.operator op, t.drop op.length)
        | none => (.bad .badOperator, [])

/-- The marks of a text. -/
def marksOf (d : Dialect) : Nat → Text → List Placed
  | 0, _ => []
  | fuel + 1, t =>
    let t := trimLeft t
    if t = [] then []
    else
      let (m, rest) := markAt d t
      (m, t) :: marksOf d fuel rest

/-! ### Reading -/

/-- The operators between two operands of each level, from the loosest on. -/
def levels (d : Dialect) : List (List (String × Operation)) :=
  let plain := [[("||", .either)], [("&&", .both)], [("|", .bitOr)], [("^", .bitXor)], [("&", .bitAnd)],
    [("==", .eq), ("!=", .ne)], [("<=", .le), (">=", .ge), ("<", .lt), (">", .gt)],
    [("<<", .shiftLeft), (">>", .shiftRight)], [("+", .add), ("-", .sub)],
    [("*", Operation.mul), ("/", .div), ("%", .mod)]]
  match d with
  | .plain => plain
  | .rich => plain ++ [[("**", .power)]]

/-- The operators that assign, each with the operation on the old value that it does. -/
def assignments : List (String × Option Operation) :=
  [("=", none), ("*=", some .mul), ("/=", some .div), ("%=", some .mod), ("+=", some .add), ("-=", some .sub),
    ("<<=", some .shiftLeft), (">>=", some .shiftRight), ("&=", some .bitAnd), ("^=", some .bitXor),
    ("|=", some .bitOr)]

/-- The operation that an operator means in a list of them. -/
def find? {α : Type} (known : List (String × α)) (ms : List Placed) : Option α :=
  match ms with
  | (.operator op, _) :: _ => (known.find? (·.1.toList = op)).map (·.2)
  | _ => none

/-- Is the operator next? -/
def isNext (op : String) (ms : List Placed) : Bool :=
  match ms with
  | (.operator t, _) :: _ => t = op.toList
  | _ => false

/-- What is wrong with an expression, and where. -/
abbrev Wrong := Fault × Text

/-- An expression, and the marks after it. -/
abbrev Parsed := Except Wrong (Expr × List Placed)

/-- The fault of finding these marks where an operand was expected; before them there was a mark. -/
def missing (before : Text) (ms : List Placed) : Wrong :=
  match ms with
  | (.bad f, t) :: _ => (f, t)
  | (_, t) :: _ => (.noOperand, t)
  | [] => (.noOperand, before)

/-- The text of marks, or else another one. -/
def textOf (before : Text) (ms : List Placed) : Text := ((ms.head?).map (·.2)).getD before

mutual

/-- Read expressions with commas between them. -/
def sequence (d : Dialect) (fuel : Nat) (before : Text) (ms : List Placed) : Parsed :=
  match fuel with
  | 0 => .error (.tooDeep, before)
  | fuel + 1 => do
    let (a, rest) ← assignment d fuel before ms
    if isNext "," rest then
      let (b, rest) ← sequence d fuel (textOf before rest) (rest.drop 1)
      return (.after a b, rest)
    else return (a, rest)

/-- Read an assignment or a choice. -/
def assignment (d : Dialect) (fuel : Nat) (before : Text) (ms : List Placed) : Parsed :=
  match fuel with
  | 0 => .error (.tooDeep, before)
  | fuel + 1 => do
    let target : Option Expr ← match ms with
      | (.name n, _) :: _ => pure (some (.variable n))
      | (.element n i, t) :: _ =>
        if (find? assignments (ms.drop 1)).isSome then do
          let (index, _) ← sequence d fuel t (marksOf d (i.length + 1) i)
          pure (some (.element n index))
        else pure none
      | _ => pure none
    match target, find? assignments (ms.drop 1) with
    | some target, some op => do
      let signed := ms.drop 1
      let (e, rest) ← assignment d fuel (textOf before signed) (signed.drop 1)
      return (.assign target op e (textOf before (signed.drop 1)), rest)
    | _, _ => do
      let (c, rest) ← binary d fuel (levels d) before ms
      if isNext "?" rest then
        if d = .rich && isNext ":" (rest.drop 1) then .error (.noExpression, textOf before (rest.drop 1))
        let (a, rest) ← sequence d fuel (textOf before rest) (rest.drop 1)
        if isNext ":" rest then
          if d = .rich && (rest.drop 1).isEmpty then .error (.noExpression, textOf before rest)
          let (b, rest) ← assignment d fuel (textOf before rest) (rest.drop 1)
          return (.choice c a b, rest)
        else .error (.noAlternative, textOf (((ms.getLast?).map (·.2)).getD before) rest)
      else if d = .rich && (find? assignments rest).isSome then .error (.badAssignment, textOf before rest)
      else return (c, rest)

/-- Read operations of the levels. -/
def binary (d : Dialect) (fuel : Nat) (known : List (List (String × Operation))) (before : Text)
    (ms : List Placed) : Parsed :=
  match fuel with
  | 0 => .error (.tooDeep, before)
  | fuel + 1 => match known with
    | [] => unary d fuel before ms
    | level :: tighter => do
      let (a, rest) ← binary d fuel tighter before ms
      binaryAfter d fuel level tighter a rest

/-- Read operations of a level after their first operand. -/
def binaryAfter (d : Dialect) (fuel : Nat) (level : List (String × Operation))
    (tighter : List (List (String × Operation))) (a : Expr) (ms : List Placed) : Parsed :=
  match fuel with
  | 0 => .error (.tooDeep, [])
  | fuel + 1 => match find? level ms with
    | some op => do
      let here := textOf [] ms
      let (b, rest) ← if op = .power then binary d fuel (level :: tighter) here (ms.drop 1)
        else binary d fuel tighter here (ms.drop 1)
      binaryAfter d fuel level tighter (.binary op a b (textOf here (ms.drop 1))) rest
    | none => return (a, ms)

/-- Read an operand with the operators in front of it. -/
def unary (d : Dialect) (fuel : Nat) (before : Text) (ms : List Placed) : Parsed :=
  match fuel with
  | 0 => .error (.tooDeep, before)
  | fuel + 1 =>
    let here := textOf before ms
    let wrapped (f : Expr → Expr) : Parsed := do
      let (e, rest) ← unary d fuel here (ms.drop 1)
      return (f e, rest)
    let stepped (n : Int) : Parsed := match ms.drop 1 with
      | (.name _, _) :: _ => do
        let (e, rest) ← unary d fuel here (ms.drop 1)
        return (.step false e n, rest)
      | (.element .., _) :: _ => do
        let (e, rest) ← unary d fuel here (ms.drop 1)
        return (.step false e n, rest)
      | _ => wrapped fun e => if n < 0 then .negated (.negated e) else e
    match ms with
    | (.operator op, _) :: rest => match String.ofList op with
      | "-" => wrapped .negated
      | "+" => wrapped id
      | "!" => wrapped .isZero
      | "~" => wrapped .inverted
      | "++" => stepped 1
      | "--" => stepped (-1)
      | "(" => do
        let (e, rest) ← sequence d fuel here rest
        if isNext ")" rest then return (e, rest.drop 1) else .error (.unclosed, textOf here rest)
      | _ => .error (missing before ms)
    | (.number n, _) :: rest => match d, rest with
      | .rich, (.operator ['+', '+'], t) :: [] => .error (.noOperand, t.drop 1)
      | .rich, (.operator ['-', '-'], t) :: [] => .error (.noOperand, t.drop 1)
      | .rich, (.operator ['+', '+'], t) :: more =>
        return (.number n, (.operator ['+'], t) :: (.operator ['+'], t.drop 1) :: more)
      | .rich, (.operator ['-', '-'], t) :: more =>
        return (.number n, (.operator ['-'], t) :: (.operator ['-'], t.drop 1) :: more)
      | _, rest => return (.number n, rest)
    | (.name n, _) :: rest => return stepAfter (.variable n) rest
    | (.element n i, t) :: rest => do
      let (index, _) ← sequence d fuel t (marksOf d (i.length + 1) i)
      return stepAfter (.element n index) rest
    | ms => .error (missing before ms)

/-- A variable or an element with the step behind it. -/
def stepAfter (e : Expr) (ms : List Placed) : Expr × List Placed :=
  if isNext "++" ms then (.step true e 1, ms.drop 1)
  else if isNext "--" ms then (.step true e (-1), ms.drop 1)
  else (e, ms)

end

/-- Read an expression. -/
def parse (d : Dialect) (t : Text) : Except Wrong Expr := do
  let ms := marksOf d (t.length + 1) t
  if d = .rich && ms.isEmpty then return .number 0
  let (e, rest) ← sequence d (32 * (t.length + 8)) [] ms
  match rest with
  | [] => return e
  | (.bad f, place) :: _ => .error (match d, f with
    | .rich, f => (f, place)
    | .plain, _ => (.trailing, place))
  | (_, place) :: _ => .error (.trailing, place)

/-! ### Evaluation -/

/-- One for truth and zero for falsehood. -/
def ofBool (b : Bool) : Int := if b then 1 else 0

/-- Apply an operation to the bits of two numbers. -/
def onBits (f : UInt64 → UInt64 → UInt64) (a b : Int) : Int :=
  wrap (f (UInt64.ofInt a) (UInt64.ofInt b)).toNat

/-- The power of a number within 64 bits. -/
def powerOf (a : Int) : Nat → Int
  | 0 => 1
  | n + 1 => wrap (powerOf a n * a)

/-- The greatest exponent that is counted down; higher powers of most numbers are out of reach. -/
def maxExponent : Nat := 10000

/-- The value of an operation. -/
def Operation.apply (op : Operation) (a b : Int) : Except Fault Int :=
  match op with
  | .mul => .ok (wrap (a * b))
  | .div => if b = 0 then .error .divisionByZero else .ok (wrap (a.tdiv b))
  | .mod => if b = 0 then .error .divisionByZero else .ok (a.tmod b)
  | .add => .ok (wrap (a + b))
  | .sub => .ok (wrap (a - b))
  | .shiftLeft => .ok (wrap (Int.shiftLeft a (b % 64).toNat))
  | .shiftRight => .ok (Int.shiftRight a (b % 64).toNat)
  | .lt => .ok (ofBool (a < b))
  | .le => .ok (ofBool (a ≤ b))
  | .gt => .ok (ofBool (a > b))
  | .ge => .ok (ofBool (a ≥ b))
  | .eq => .ok (ofBool (a = b))
  | .ne => .ok (ofBool (a ≠ b))
  | .bitAnd => .ok (onBits (· &&& ·) a b)
  | .bitXor => .ok (onBits (· ^^^ ·) a b)
  | .bitOr => .ok (onBits (· ||| ·) a b)
  | .power => if b < 0 then .error .negativeExponent else .ok (powerOf a (min b.toNat maxExponent))
  | .both => .ok (ofBool (a ≠ 0 && b ≠ 0))
  | .either => .ok (ofBool (a ≠ 0 || b ≠ 0))

/-- A variable, or an element of one. -/
abbrev Target := Text × Option Int

/-- The values that variables have been given, the latest first. -/
abbrev Assigned := List (Target × Int)

/-- What evaluates an expression. -/
abbrev Evaluation := StateT Assigned (Except Failure)

mutual

/-- The value of a text as an expression. -/
def evalText (d : Dialect) (lookup : Target → Option Text) (fuel : Nat) (t : Text) : Evaluation Int :=
  match fuel with
  | 0 => throw ⟨.tooDeep, t, t⟩
  | fuel + 1 => match parse d t with
    | .error (f, place) => throw ⟨f, t, place⟩
    | .ok e => eval d lookup fuel t e

/-- The value of an expression, where a variable without value counts as zero. -/
def eval (d : Dialect) (lookup : Target → Option Text) (fuel : Nat) (whole : Text) (e : Expr) : Evaluation Int :=
  match fuel with
  | 0 => throw ⟨.tooDeep, whole, whole⟩
  | fuel + 1 => match e with
    | .number n => return n
    | .variable name => read d lookup fuel (name, none)
    | .element name index => do read d lookup fuel (name, some (← eval d lookup fuel whole index))
    | .negated e => return wrap (-(← eval d lookup fuel whole e))
    | .isZero e => return ofBool ((← eval d lookup fuel whole e) = 0)
    | .inverted e => return -(← eval d lookup fuel whole e) - 1
    | .binary op a b place => do
      let m ← eval d lookup fuel whole a
      if op = .both && m = 0 then return 0
      if op = .either && m ≠ 0 then return 1
      let n ← eval d lookup fuel whole b
      match op.apply m n with
      | .ok r => return r
      | .error .negativeExponent => throw ⟨.negativeExponent, whole, place.dropWhile (· = '-')⟩
      | .error f => throw ⟨f, whole, place⟩
    | .choice c a b => do
      if (← eval d lookup fuel whole c) ≠ 0 then eval d lookup fuel whole a else eval d lookup fuel whole b
    | .assign target op e place => do
      let where? ← targetOf d lookup fuel whole target
      let n ← eval d lookup fuel whole e
      let n ← match op with
        | none => pure n
        | some op => do
          let old ← read d lookup fuel where?
          match op.apply old n with
          | .ok r => pure r
          | .error f => throw ⟨f, whole, place⟩
      modify ((where?, n) :: ·)
      return n
    | .step before target n => do
      let where? ← targetOf d lookup fuel whole target
      let old ← read d lookup fuel where?
      modify ((where?, wrap (old + n)) :: ·)
      return if before then old else wrap (old + n)
    | .after a b => do
      let _ ← eval d lookup fuel whole a
      eval d lookup fuel whole b

/-- What an expression on the left of an assignment stands for. -/
def targetOf (d : Dialect) (lookup : Target → Option Text) (fuel : Nat) (whole : Text) (e : Expr) :
    Evaluation Target :=
  match fuel with
  | 0 => throw ⟨.tooDeep, whole, whole⟩
  | fuel + 1 => match e with
    | .variable name => return (name, none)
    | .element name index => return (name, some (← eval d lookup fuel whole index))
    | _ => throw ⟨.badAssignment, whole, whole⟩

/-- The value of a variable or an element. -/
def read (d : Dialect) (lookup : Target → Option Text) (fuel : Nat) (t : Target) : Evaluation Int :=
  match fuel with
  | 0 => throw ⟨.tooDeep, t.1, t.1⟩
  | fuel + 1 => do
    match (← get).lookup t with
    | some n => return n
    | none =>
      let value := (lookup t).getD []
      match d with
      | .rich => match integer? value with
        | some n => return n
        | none => evalText d lookup fuel value
      | .plain => match integer? value with
        | some n => return n
        | none => throw ⟨.noNumber value, value, value⟩

end

/-- The steps that an evaluation may take inside of each other. -/
def maxDepth (t : Text) : Nat := 4096 + t.length

/-- The value of an expression, and the values that variables were given on the way. -/
def value (d : Dialect) (lookup : Target → Option Text) (t : Text) : Except Failure (Int × Assigned) :=
  (evalText d lookup (maxDepth t) t).run []

/-- What is said about a failure. -/
def Failure.message (d : Dialect) (f : Failure) : Text :=
  let what : String := match d, f.fault with
    | .plain, .noOperand => "expecting primary"
    | .plain, .badOperator => "expecting primary"
    | .plain, .unclosed => "expecting ')'"
    | .plain, .noAlternative => "expecting ':'"
    | .plain, .divisionByZero => "division by zero"
    | .plain, .tooDeep => "too deep"
    | .plain, _ => "expecting EOF"
    | .rich, .noOperand => "syntax error: operand expected"
    | .rich, .trailing => "syntax error in expression"
    | .rich, .unclosed => "missing `)'"
    | .rich, .noAlternative => "`:' expected for conditional expression"
    | .rich, .noExpression => "expression expected"
    | .rich, .divisionByZero => "division by 0"
    | .rich, .negativeExponent => "exponent less than 0"
    | .rich, .digitTooGreat => "value too great for base"
    | .rich, .badOperator => "syntax error: invalid arithmetic operator"
    | .rich, .badAssignment => "attempted assignment to non-variable"
    | .rich, .badSubscript => "bad array subscript"
    | .rich, .noNumber _ => "syntax error: invalid number"
    | .rich, .tooDeep => "expression recursion level exceeded"
  match d, f.fault with
  | .plain, .noNumber value => "Illegal number: " ++ value
  | .plain, _ => "arithmetic expression: " ++ what.toList ++ ": \"" ++ f.expression ++ ['"']
  | .rich, _ => trimLeft f.expression ++ ": " ++ what.toList ++ " (error token is \"" ++ f.place ++ "\")"

end Rollout.Shell.Arithmetic
