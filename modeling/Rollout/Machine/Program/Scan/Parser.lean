import Rollout.Machine.Program.Scan.Token

/-!
Reading scripts that scan records. Words stand one after another to be put together, and all other operators bind
them; in what is printed, a greater sign leads to a file.
-/

namespace Rollout.Program.Scan

/-- How far the reading of a script has come. -/
structure Parsing where
  /-- The tokens that are left. -/
  tokens : List Token
  /-- The names of variables of the whole script. -/
  names : Array Text
  /-- Do they stand for arrays? It may not be known. -/
  arrays : Array (Option Bool)
  /-- The parameters of the function that is read, if one is. -/
  own : Option (List Text)
  /-- Is it read what is done with records? -/
  scans : Bool
  /-- How many loops are open. -/
  loops : Nat
  /-- The functions. -/
  functions : Array Function
  /-- The calls of functions: their numbers, how many arguments they are given, and where. -/
  calls : List (Nat × Nat × Token)
  /-- What is to be said, the latest first. -/
  remarks : List Text

/-- Reading of a script; if it fails, there is something to be said. -/
abbrev Reading := StateT Parsing (Except (List Text))

/-- What is said about a place in a script. -/
def Token.said (t : Token) (message : Text) : Text :=
  (t.file.map fun f => f ++ [':', ' ']).getD [] ++ "line " ++ Text.ofNat t.line ++ ": " ++ message

/-- Say something, and go on. -/
def remark (t : Token) (message : Text) : Reading Unit := modify fun s => { s with remarks := t.said message :: s.remarks }

/-- Say something, and stop. -/
def stop {α : Type} (message : Text) : Reading α := do throw ((← get).remarks.reverse ++ [message])

/-- The next token; what is to be said before it is said. -/
def peek : Nat → Reading Token
  | 0 => stop []
  | fuel + 1 => do
    match (← get).tokens with
    | [] => return ⟨.finish, "end of file", none, 1, 0, 0⟩
    | t :: rest => match t.kind with
      | .remark true => stop (t.said t.text)
      | .remark false => do
        modify fun s => { s with tokens := rest }
        remark t t.text
        peek fuel
      | _ => return t

/-- The next token. -/
def next : Reading Token := do peek ((← get).tokens.length + 1)

/-- Go on behind the next token. -/
def advance : Reading Unit := do
  let _ ← next
  modify fun s => { s with tokens := s.tokens.drop 1 }

/-- Stop because of the next token. -/
def refuse {α : Type} : Reading α := do
  let t ← next
  let ends := match t.kind with
    | .finish => true
    | .newline => true
    | .semicolon => true
    | _ => t.text = ['\x7d']
  let isFinish := match t.kind with
    | .finish => true
    | .keyword => t.text = "BEGIN".toList || t.text = "END".toList
    | _ => false
  match t.kind with
  | .unexpected =>
    stop ((t.file.map fun f => f ++ [':', ' ']).getD [] ++ Text.ofNat t.line ++ ": unexpected character '" ++ t.text ++ ['\''])
  | .regex _ => stop (t.said ("syntax error at or near /" ++ t.text ++ ['/']))
  | _ =>
    if t.parens ≠ 0 && ends then stop (t.said ("missing ) near " ++ t.text))
    else if t.braces ≠ 0 && isFinish then stop (t.said ("missing \x7d near " ++ t.text))
    else stop (t.said ("syntax error at or near " ++ t.text))

/-- Is the next token the mark? -/
def isMark (m : String) : Reading Bool := do
  let t ← next
  return match t.kind with
    | .mark => t.text = m.toList
    | _ => false

/-- Is the next token the word? -/
def isWord (w : String) : Reading Bool := do
  let t ← next
  return match t.kind with
    | .keyword => t.text = w.toList
    | _ => false

/-- Go on behind the mark if it is next. -/
def takeMark (m : String) : Reading Bool := do
  if ← isMark m then
    advance
    return true
  else return false

/-- Go on behind the mark, which has to be next. -/
def needMark (m : String) : Reading Unit := do
  if !(← takeMark m) then refuse

/-- Go on behind newlines. -/
def skipNewlines : Nat → Reading Unit
  | 0 => return
  | fuel + 1 => do
    match (← next).kind with
    | .newline => do
      advance
      skipNewlines fuel
    | _ => return

/-! ### Names -/

/-- The name as what it stands for; it is used for an array, or it is not, or it is not known. -/
def nameOf (token : Token) (array : Option Bool) : Reading Name := do
  let s ← get
  match (s.own.getD []).idxOf? token.text with
  | some i => return .own i
  | none => match s.names.idxOf? token.text with
    | some i => do
      match s.arrays.getD i none, array with
      | some known, some wanted =>
        if known != wanted then
          remark token ("illegal reference to " ++ (if known then "array " else "variable ") ++ token.text)
      | none, some wanted => set { s with arrays := s.arrays.set! i (some wanted) }
      | _, none => pure ()
      return .shared i
    | none => do
      set { s with
        names := s.names.push token.text
        arrays := s.arrays.push array }
      return .shared s.names.size

/-- The name of an array, which has to be next. -/
def arrayName : Reading Name := do
  let t ← next
  match t.kind with
  | .name => do
    advance
    nameOf t (some true)
  | _ => refuse

/-- The number of a function. -/
def functionNumber (name : Text) : Reading Nat := do
  let s ← get
  match s.functions.findIdx? (·.name = name) with
  | some i => return i
  | none => do
    set { s with functions := s.functions.push ⟨name, 0, none⟩ }
    return s.functions.size

/-- The expression in a text. -/
def regexOf (token : Token) (t : Text) : Reading Expr := do
  match readExpression t with
  | .ok c => return .regex c
  | .error e => do
    remark token e
    return .number 0

/-! ### Expressions -/

/-- The operation of a mark that puts a value into a place. -/
def assignment? (m : Text) : Option (Option Operation) :=
  match String.ofList m with
  | "=" => some none
  | "+=" => some (some .add)
  | "-=" => some (some .sub)
  | "*=" => some (some .mul)
  | "/=" => some (some .div)
  | "%=" => some (some .mod)
  | "^=" => some (some .pow)
  | _ => none

/-- The comparison of a mark. -/
def comparison? (m : Text) : Option Comparison :=
  match String.ofList m with
  | "<" => some .less
  | "<=" => some .lessOrEqual
  | "==" => some .equal
  | "!=" => some .notEqual
  | ">" => some .greater
  | ">=" => some .greaterOrEqual
  | _ => none

/-- Does an operand start with the token that can stand behind another one? -/
def startsOperand (t : Token) : Bool :=
  match t.kind with
  | .number _ => true
  | .string _ => true
  | .regex _ => true
  | .name => true
  | .call => true
  | .builtin => true
  | .length => true
  | .keyword => t.text = "getline".toList
  | .mark => ["(", "$", "!", "++", "--"].contains (String.ofList t.text)
  | _ => false

/-- An operand, and whether it is a place into which a value may be put. -/
abbrev Operand := Expr × Bool

mutual

/-- An expression; in what is printed, a greater sign ends it. -/
def expression (printing : Bool) : Nat → Reading Expr
  | 0 => refuse
  | fuel + 1 => do
    let test ← alternatives printing fuel
    if ← takeMark "?" then
      let yes ← expression printing fuel
      needMark ":"
      let no ← expression printing fuel
      return .choice test yes no
    else return test

/-- Expressions of which one has to be true. -/
def alternatives (printing : Bool) : Nat → Reading Expr
  | 0 => refuse
  | fuel + 1 => do
    let a ← conjunction printing fuel
    restOfAlternatives printing fuel a

/-- The other alternatives after the first. -/
def restOfAlternatives (printing : Bool) : Nat → Expr → Reading Expr
  | 0, _ => refuse
  | fuel + 1, a => do
    if ← takeMark "||" then
      let b ← conjunction printing fuel
      restOfAlternatives printing fuel (.either a b)
    else return a

/-- Expressions that all have to be true. -/
def conjunction (printing : Bool) : Nat → Reading Expr
  | 0 => refuse
  | fuel + 1 => do
    let a ← membership printing fuel
    restOfConjunction printing fuel a

/-- The other parts after the first. -/
def restOfConjunction (printing : Bool) : Nat → Expr → Reading Expr
  | 0, _ => refuse
  | fuel + 1, a => do
    if ← takeMark "&&" then
      let b ← membership printing fuel
      restOfConjunction printing fuel (.both a b)
    else return a

/-- An expression that may be looked for in arrays. -/
def membership (printing : Bool) : Nat → Reading Expr
  | 0 => refuse
  | fuel + 1 => do
    let a ← matching printing fuel
    restOfMembership fuel a

/-- The arrays in which an expression is looked for. -/
def restOfMembership : Nat → Expr → Reading Expr
  | 0, _ => refuse
  | fuel + 1, a => do
    if ← isWord "in" then
      advance
      let array ← arrayName
      restOfMembership fuel (.isIn [a] array)
    else return a

/-- An expression that may have to match. -/
def matching (printing : Bool) : Nat → Reading Expr
  | 0 => refuse
  | fuel + 1 => do
    let a ← comparison printing fuel
    restOfMatching printing fuel a

/-- The expressions that something has to match. -/
def restOfMatching (printing : Bool) : Nat → Expr → Reading Expr
  | 0, _ => refuse
  | fuel + 1, a => do
    let wanted ← isMark "~"
    let unwanted ← isMark "!~"
    if wanted || unwanted then
      advance
      let b ← comparison printing fuel
      restOfMatching printing fuel (.matches wanted a b)
    else return a

/-- A comparison. -/
def comparison (printing : Bool) : Nat → Reading Expr
  | 0 => refuse
  | fuel + 1 => do
    let a ← assignment printing fuel
    restOfComparison printing fuel a

/-- What something is compared with. -/
def restOfComparison (printing : Bool) : Nat → Expr → Reading Expr
  | 0, _ => refuse
  | fuel + 1, a => do
    let t ← next
    let found := match t.kind with
      | .mark => if printing && t.text = ['>'] then none else comparison? t.text
      | _ => none
    match found with
    | some c => do
      advance
      let b ← assignment printing fuel
      restOfComparison printing fuel (.compare c a b)
    | none => return a

/-- Words one after another, or a place into which a value is put. -/
def assignment (printing : Bool) : Nat → Reading Expr
  | 0 => refuse
  | fuel + 1 => do
    let (a, isPlace) ← sum printing fuel
    let t ← next
    let op := match t.kind with
      | .mark => assignment? t.text
      | _ => none
    match a, isPlace, op with
    | .place p, true, some op => do
      advance
      let e ← expression printing fuel
      return .assign p op e
    | a, _, _ => restOfWords printing fuel a

/-- The words after the first. -/
def restOfWords (printing : Bool) : Nat → Expr → Reading Expr
  | 0, _ => refuse
  | fuel + 1, a => do
    if startsOperand (← next) then
      let (b, _) ← sum printing fuel
      restOfWords printing fuel (.concat a b)
    else return a

/-- A sum. -/
def sum (printing : Bool) : Nat → Reading Operand
  | 0 => refuse
  | fuel + 1 => do
    let a ← product printing fuel
    restOfSum printing fuel a

/-- The other parts of a sum. -/
def restOfSum (printing : Bool) : Nat → Operand → Reading Operand
  | 0, _ => refuse
  | fuel + 1, a => do
    if ← takeMark "+" then
      let b ← product printing fuel
      restOfSum printing fuel (.operation .add a.1 b.1, false)
    else if ← takeMark "-" then
      let b ← product printing fuel
      restOfSum printing fuel (.operation .sub a.1 b.1, false)
    else return a

/-- A product. -/
def product (printing : Bool) : Nat → Reading Operand
  | 0 => refuse
  | fuel + 1 => do
    let a ← signed printing fuel
    restOfProduct printing fuel a

/-- The other parts of a product. -/
def restOfProduct (printing : Bool) : Nat → Operand → Reading Operand
  | 0, _ => refuse
  | fuel + 1, a => do
    let t ← next
    let op : Option Operation := match t.kind, t.text with
      | .mark, ['*'] => some .mul
      | .mark, ['/'] => some .div
      | .mark, ['%'] => some .mod
      | _, _ => none
    match op with
    | some op => do
      advance
      let b ← signed printing fuel
      restOfProduct printing fuel (.operation op a.1 b.1, false)
    | none => return a

/-- An operand that may have a sign. -/
def signed (printing : Bool) : Nat → Reading Operand
  | 0 => refuse
  | fuel + 1 => do
    if ← takeMark "!" then return (.not (← signed printing fuel).1, false)
    else if ← takeMark "-" then return (.negative (← signed printing fuel).1, false)
    else if ← takeMark "+" then return (.positive (← signed printing fuel).1, false)
    else
      let a ← power printing fuel
      restOfPipe printing fuel a

/-- The reading of records from a command. -/
def restOfPipe (printing : Bool) : Nat → Operand → Reading Operand
  | 0, _ => refuse
  | fuel + 1, a => do
    if printing || !(← isMark "|") then return a
    advance
    if !(← isWord "getline") then refuse
    advance
    let target ← placeIfAny printing fuel
    restOfPipe printing fuel (.getline (.command a.1) target, false)

/-- A power. -/
def power (printing : Bool) : Nat → Reading Operand
  | 0 => refuse
  | fuel + 1 => do
    let a ← counted printing fuel
    if ← takeMark "^" then
      let hasSign := (← isMark "-") || (← isMark "+") || (← isMark "!")
      let b ← if hasSign then signed printing fuel else power printing fuel
      return (.operation .pow a.1 b.1, false)
    else return a

/-- A place that may be counted up or down. -/
def counted (printing : Bool) : Nat → Reading Operand
  | 0 => refuse
  | fuel + 1 => do
    let a ← primary printing fuel
    match a with
    | (.place p, true) =>
      if ← takeMark "++" then return (.step p true false, false)
      else if ← takeMark "--" then return (.step p false false, false)
      else return a
    | a => return a

/-- A place, if one is next. -/
def placeIfAny (printing : Bool) : Nat → Reading (Option Place)
  | 0 => return none
  | fuel + 1 => do
    let t ← next
    let isPlace := match t.kind with
      | .name => true
      | .mark => t.text = ['$']
      | _ => false
    if !isPlace then return none
    match ← primary printing fuel with
    | (.place p, true) => return some p
    | _ => refuse

/-- Expressions up to a mark, between which commas stand. -/
def list (stop : String) : Nat → Reading (List Expr)
  | 0 => refuse
  | fuel + 1 => do
    let e ← expression false fuel
    if ← takeMark "," then return e :: (← list stop fuel)
    else
      needMark stop
      return [e]

/-- The arguments of a function behind its parenthesis. -/
def arguments : Nat → Reading (List Expr)
  | 0 => refuse
  | fuel + 1 => do
    if ← takeMark ")" then return []
    else restOfArguments fuel

/-- Arguments of which at least one follows; a name that stands alone is not looked into. -/
def restOfArguments : Nat → Reading (List Expr)
  | 0 => refuse
  | fuel + 1 => do
    let t ← next
    let after := (← get).tokens.drop 1
    let alone := match t.kind, after.head? with
      | .name, some u => match u.kind with
        | .mark => u.text = [','] || u.text = [')']
        | _ => false
      | _, _ => false
    let e ← if alone then do
        advance
        pure (.bare (← nameOf t none))
      else expression false fuel
    if ← takeMark "," then return e :: (← restOfArguments fuel)
    else
      needMark ")"
      return [e]

/-- An operand without signs. -/
def primary (printing : Bool) : Nat → Reading Operand
  | 0 => refuse
  | fuel + 1 => do
    let t ← next
    match t.kind with
    | .number x => do
      advance
      return (.number x, false)
    | .string s => do
      advance
      return (.text s, false)
    | .regex s => do
      advance
      return (← regexOf t s, false)
    | .name => do
      advance
      if (← get).functions.any (·.name = t.text) && !((← get).own.getD []).contains t.text then refuse
      if ← takeMark "[" then
        let n ← nameOf t (some true)
        let keys ← list "]" fuel
        return (.place (.element n keys), true)
      else return (.place (.variable (← nameOf t (some false))), true)
    | .call => do
      advance
      let s ← get
      if s.names.contains t.text || (s.own.getD []).contains t.text then
        return (.place (.variable (← nameOf t (some false))), true)
      needMark "("
      let i ← functionNumber t.text
      let es ← arguments fuel
      modify fun s => { s with calls := (i, es.length, t) :: s.calls }
      return (.call i es, false)
    | .length => do
      advance
      return (.builtin .length [], false)
    | .builtin => do
      advance
      needMark "("
      let s ← get
      let es ← arguments fuel
      if t.text = "length".toList && 1 < es.length then
        -- the comma behind the first argument is what cannot be there
        set { s with tokens := s.tokens.dropWhile fun t => t.text ≠ [','] }
        refuse
      return (← checked t es, false)
    | .keyword =>
      if t.text = "getline".toList then do
        advance
        let target ← placeIfAny printing fuel
        if ← takeMark "<" then
          let (name, _) ← power printing fuel
          return (.getline (.file name) target, false)
        else return (.getline .input target, false)
      else refuse
    | .mark => match String.ofList t.text with
      | "(" => do
        advance
        let e ← expression false fuel
        if ← takeMark "," then
          let es ← list ")" fuel
          if !(← isWord "in") then refuse
          advance
          return (.isIn (e :: es) (← arrayName), false)
        else
          needMark ")"
          return (e, false)
      | "$" => do
        advance
        let hasSign := (← isMark "-") || (← isMark "+") || (← isMark "!")
        let (e, _) ← if hasSign then signed printing fuel else primary printing fuel
        return (.place (.field e), true)
      | "++" => stepped true fuel
      | "--" => stepped false fuel
      | _ => refuse
    | _ => refuse

/-- A place behind a mark that counts it up or down. -/
def stepped (up : Bool) : Nat → Reading Operand
  | 0 => refuse
  | fuel + 1 => do
    advance
    match ← placeIfAny false fuel with
    | some p => return (.step p up true, false)
    | none => refuse

/-- The value of a function that every script knows, whose arguments are checked. -/
def checked (t : Token) (es : List Expr) : Reading Expr := do
  let scalar (e : Expr) : Reading Expr := match e with
    | .bare (.own i) => return .place (.variable (.own i))
    | .bare (.shared i) => do
      let s ← get
      let name := s.names.getD i []
      return .place (.variable (← nameOf { t with text := name } (some false)))
    | e => return e
  match builtins.find? fun b => b.1.toList = t.text with
  | none => refuse
  | some (_, b, least, most) => do
    if es.length < least || most < es.length then
      remark t ("wrong number of arguments in call to " ++ t.text)
      return .number 0
    else match b, es with
      | .length, [e] => return .builtin b [e]
      | .split, e :: .bare n :: rest => do
        if let .shared i := n then
          let _ ← nameOf { t with text := (← get).names.getD i [] } (some true)
        return .builtin b ((← scalar e) :: .bare n :: (← rest.mapM scalar))
      | b, es => return .builtin b (← es.mapM scalar)

end

/-! ### Statements -/

/-- Does the token end a statement? -/
def isSeparator (t : Token) : Bool :=
  match t.kind with
  | .newline => true
  | .semicolon => true
  | _ => false

/-- Go on behind the end of a statement. -/
def separator : Reading Unit := do if isSeparator (← next) then advance else refuse

/-- A name behind a parenthesis whose keys are visited, and the array, if that is next. -/
def eachHead? : Reading (Option (Token × Token)) := do
  let ts := (← get).tokens.take 5
  match ts with
  | [p, key, word, array, q] =>
    let isName (t : Token) : Bool := match t.kind with
      | .name => true
      | _ => false
    if p.text = ['('] && isName key && word.text = "in".toList && isName array && q.text = [')'] then
      return some (key, array)
    else return none
  | _ => return none

/-- Where something is printed, if that is next. -/
def sink (fuel : Nat) : Reading (Option (Sink × Expr)) := do
  let kind : Option Sink ← (do
    if ← takeMark ">" then return some .file
    else if ← takeMark ">>" then return some .extend
    else if ← takeMark "|" then return some .command
    else return none)
  match kind with
  | some k => return some (k, ← expression false fuel)
  | none => return none

/-- Does nothing follow that is to be printed? -/
def endsPrinting (t : Token) : Bool :=
  isSeparator t || match t.kind with
    | .mark => [">", ">>", "|"].contains (String.ofList t.text)
    | _ => false

/-- What is to be printed, between commas. -/
def printedList : Nat → Reading (List Expr)
  | 0 => refuse
  | fuel + 1 => do
    let e ← expression true (64 * (fuel + 1))
    if ← takeMark "," then return e :: (← printedList fuel) else return [e]

/-- What is to be printed, which may stand in parentheses as a whole. -/
def toPrint (fuel : Nat) : Reading (List Expr) := do
  if endsPrinting (← next) then return []
  let s ← get
  let grouped : Reading (Option (List Expr)) := do
    if ← takeMark "(" then
      let es ← list ")" fuel
      if 1 < es.length && !(← isWord "in") then return some es else return none
    else return none
  match grouped.run s with
  | .ok (some es, s) => do
    set s
    if endsPrinting (← next) then return es else refuse
  | _ => printedList fuel

mutual

/-- Read a statement. -/
def statement : Nat → Reading Stmt
  | 0 => refuse
  | fuel + 1 => do
    let t ← next
    let simple (s : Stmt) : Reading Stmt := do
      separator
      return s
    if isSeparator t then
      advance
      return .skip
    else match t.kind with
      | .keyword => match String.ofList t.text with
        | "if" => do
          advance
          needMark "("
          let test ← expression false fuel
          needMark ")"
          skipNewlines fuel
          let yes ← statement fuel
          if ← isWord "else" then
            advance
            skipNewlines fuel
            return .cond test yes (← statement fuel)
          else return .cond test yes .skip
        | "while" => do
          advance
          needMark "("
          let test ← expression false fuel
          needMark ")"
          if isSeparator (← next) then
            separator
            return .loop (some test) .skip .skip
          skipNewlines fuel
          return .loop (some test) .skip (← looped fuel)
        | "do" => do
          advance
          skipNewlines fuel
          let body ← looped fuel
          if !(← isWord "while") then refuse
          advance
          needMark "("
          let test ← expression false fuel
          needMark ")"
          separator
          return .loopAfter test body
        | "for" => forLoop fuel
        | "break" => do
          advance
          if (← get).loops = 0 then remark t "break statement outside of loop"
          simple .leave
        | "continue" => do
          advance
          if (← get).loops = 0 then remark t "continue statement outside of loop"
          simple .again
        | "next" => do
          advance
          if !(← get).scans then remark t "improper use of next"
          simple .nextRecord
        | "nextfile" => do
          advance
          if !(← get).scans then remark t "improper use of nextfile"
          simple .nextFile
        | "exit" => do
          advance
          if isSeparator (← next) then simple (.quit none)
          else
            let e ← expression false fuel
            simple (.quit (some e))
        | "return" => do
          advance
          if (← get).own.isNone then remark t "return outside function body"
          if isSeparator (← next) then simple (.giveBack none)
          else
            let e ← expression false fuel
            simple (.giveBack (some e))
        | "delete" => do
          advance
          let array ← arrayName
          if ← takeMark "[" then
            let keys ← list "]" fuel
            simple (.delete array (some keys))
          else simple (.delete array none)
        | "print" => do
          advance
          let es ← toPrint fuel
          let target ← sink fuel
          simple (.print es target)
        | "printf" => do
          advance
          let es ← toPrint fuel
          if es.isEmpty then remark t "no arguments in call to printf"
          let target ← sink fuel
          simple (.printf es target)
        | "getline" => do
          let e ← expression false fuel
          simple (.eval e)
        | _ => refuse
      | .mark =>
        if t.text = ['\x7b'] then return .block (← block fuel)
        else do
          let e ← expression false fuel
          simple (.eval e)
      | _ => do
        let e ← expression false fuel
        simple (.eval e)

/-- Read a statement that is the body of a loop. -/
def looped : Nat → Reading Stmt
  | 0 => refuse
  | fuel + 1 => do
    modify fun s => { s with loops := s.loops + 1 }
    let body ← statement fuel
    modify fun s => { s with loops := s.loops - 1 }
    return body

/-- Read a loop behind its word. -/
def forLoop : Nat → Reading Stmt
  | 0 => refuse
  | fuel + 1 => do
    advance
    match ← eachHead? with
    | some (key, array) => do
      modify fun s => { s with tokens := s.tokens.drop 5 }
      let key ← nameOf key (some false)
      let array ← nameOf array (some true)
      skipNewlines fuel
      return .each key array (← looped fuel)
    | none => do
      needMark "("
      let part : Reading (Option Expr) := do
        if isSeparator (← next) then
          separator
          return none
        else
          let e ← expression false fuel
          separator
          return some e
      let first ← part
      let test ← part
      let last ← if ← isMark ")" then pure none else some <$> expression false fuel
      needMark ")"
      let statementOf (e : Option Expr) : Stmt := (e.map Stmt.eval).getD .skip
      if isSeparator (← next) then
        separator
        return .block [statementOf first, .loop test (statementOf last) .skip]
      skipNewlines fuel
      let body ← looped fuel
      return .block [statementOf first, .loop test (statementOf last) body]

/-- Read statements in braces. -/
def block : Nat → Reading (List Stmt)
  | 0 => refuse
  | fuel + 1 => do
    needMark "\x7b"
    statements fuel

/-- Read statements up to the closing brace. -/
def statements : Nat → Reading (List Stmt)
  | 0 => refuse
  | fuel + 1 => do
    if ← takeMark "\x7d" then return []
    else
      let s ← statement fuel
      return s :: (← statements fuel)

end

/-! ### Scripts -/

/-- The names of parameters between commas, up to the parenthesis. -/
def parameters : Nat → Reading (List Text)
  | 0 => refuse
  | fuel + 1 => do
    let t ← next
    match t.kind with
    | .name => do
      advance
      if ← takeMark "," then
        let rest ← parameters fuel
        if rest.contains t.text then remark t (t.text ++ " is duplicated in argument list")
        return t.text :: rest
      else
        needMark ")"
        return [t.text]
    | _ => refuse

/-- Read a function behind its word. -/
def definition (fuel : Nat) : Reading Unit := do
  advance
  let t ← next
  match t.kind with
  | .call => advance
  | .name => advance
  | _ => refuse
  if specialNames.any (·.toList = t.text) then stop (t.said ("illegal reference to variable " ++ t.text))
  if (← get).names.contains t.text then stop (t.said ("illegal reference to variable " ++ t.text))
  let i ← functionNumber t.text
  if ((← get).functions[i]?).any (·.body.isSome) then remark t ("redefinition of " ++ t.text)
  needMark "("
  let names ← if ← takeMark ")" then pure [] else parameters fuel
  if names.contains t.text then remark t "function parameter cannot be the function"
  skipNewlines fuel
  modify fun s => { s with own := some names }
  let body ← block fuel
  modify fun s => { s with
    own := none
    functions := s.functions.set! i ⟨t.text, names.length, some (.block body)⟩ }

/-- Read the parts of a script. -/
def parts (fuel : Nat) : Nat → Script → Reading Script
  | 0, s => return s
  | count + 1, s => do
    let t ← next
    match t.kind with
    | .finish => return s
    | .keyword =>
      if t.text = "BEGIN".toList then do
        advance
        let body ← block fuel
        parts fuel count { s with beginning := s.beginning ++ body }
      else if t.text = "END".toList then do
        advance
        let body ← block fuel
        parts fuel count { s with ending := s.ending ++ body }
      else if t.text = "function".toList then do
        definition fuel
        parts fuel count s
      else if t.text = "getline".toList then do
        let rule ← selected fuel
        parts fuel count { s with rules := s.rules ++ [rule] }
      else refuse
    | _ => do
      let rule ← selected fuel
      parts fuel count { s with rules := s.rules ++ [rule] }
where
  /-- Read what is done with the records that a pattern selects. -/
  selected (fuel : Nat) : Reading Rule := do
    modify fun s => { s with scans := true }
    let selector : Selector ← if ← isMark "\x7b" then pure .all else do
      let first ← expression false fuel
      if ← takeMark "," then
        let last ← expression false fuel
        pure (.span first last)
      else pure (.only first)
    let body : Stmt ← if isSeparator (← next) then do
        separator
        pure (.print [] none)
      else do pure (.block (← block fuel))
    modify fun s => { s with scans := false }
    return ⟨selector, body⟩

/-- Read a script from its pieces. -/
def readScript (pieces : List (Option Text × Text)) : Except (List Text) Script := do
  let tokens := tokensOfAll 1 pieces
  let fuel := 64 * (tokens.length + 4)
  let arrays := specialNames.map fun n => some (n = "ENVIRON" || n = "ARGV")
  let start : Parsing := ⟨tokens, (specialNames.map String.toList).toArray, arrays.toArray, none, false, 0, #[], [], []⟩
  let (script, s) ← (parts fuel (tokens.length + 1) ⟨[], [], [], #[], []⟩).run start
  let last := tokens.getLast?.getD ⟨.finish, [], none, 1, 0, 0⟩
  let many := s.calls.reverse.filterMap fun (i, count, t) => match s.functions[i]? with
    | some f => if f.body.isSome && f.parameters < count then
        some (t.said ("too many arguments in call to " ++ t.text)) else none
    | none => none
  let missing := (s.functions.toList.filter (·.body.isNone)).reverse.map fun f =>
    last.said ("function " ++ f.name ++ " never defined")
  match if s.remarks.isEmpty && many.isEmpty then missing else s.remarks.reverse ++ many with
  | [] => return { script with
    functions := s.functions
    names := s.names.toList }
  | rs => throw rs

end Rollout.Program.Scan
