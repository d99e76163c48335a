import Rollout.Machine.Program.Perl.Operator

/-!
Reading scripts. Operators bind more or less tightly; functions take what follows them as far as it belongs to a list,
or only what binds tighter than a comparison. Texts between quotes hold variables.
-/

namespace Rollout.Program.Perl

mutual

/-- An expression with words as operators. -/
def expression : Nat → Parser Expr
  | 0 => wrong
  | fuel + 1 => do
    let a ← conjunction fuel
    disjoined fuel a
termination_by structural x => x

/-- What is joined by the word for either. -/
def disjoined : Nat → Expr → Parser Expr
  | 0, _ => wrong
  | fuel + 1, a => do
    if ← acceptWord "or" then disjoined fuel (.or a (← conjunction fuel))
    else if ← acceptWord "xor" then disjoined fuel (.xor a (← conjunction fuel))
    else return a
termination_by structural x => x

/-- What is joined by the word for both. -/
def conjunction : Nat → Parser Expr
  | 0 => wrong
  | fuel + 1 => do
    let a ← negation fuel
    conjoined fuel a
termination_by structural x => x

/-- What else is joined by the word for both. -/
def conjoined : Nat → Expr → Parser Expr
  | 0, _ => wrong
  | fuel + 1, a => do
    if ← acceptWord "and" then conjoined fuel (.and a (← negation fuel)) else return a
termination_by structural x => x

/-- What may stand behind the word for not. -/
def negation : Nat → Parser Expr
  | 0 => wrong
  | fuel + 1 => do
    if ← acceptWord "not" then return .not (← negation fuel) else commaList fuel
termination_by structural x => x

/-- Expressions with commas. -/
def commaList : Nat → Parser Expr
  | 0 => wrong
  | fuel + 1 => do
    let e ← assignment fuel
    let es ← moreItems fuel
    match es with
    | none => return e
    | some es => return .list (e :: es)
termination_by structural x => x

/-- What follows behind commas, if there is one. -/
def moreItems : Nat → Parser (Option (List Expr))
  | 0 => wrong
  | fuel + 1 => do
    let hasComma ← if ← accept "=>" then pure true else accept ","
    if !hasComma then return none
    else do
      skip
      while_ fuel
      if endsList (← get).rest then return some []
      else do
        let e ← assignment fuel
        return some (e :: ((← moreItems fuel).getD []))
termination_by structural x => x

/-- Leave out commas that follow each other. -/
def while_ : Nat → Parser Unit
  | 0 => return
  | fuel + 1 => do
    if ← accept "," then while_ fuel else return
termination_by structural x => x

/-- An expression that may be assigned to. -/
def assignment : Nat → Parser Expr
  | 0 => wrong
  | fuel + 1 => do
    let a ← conditional fuel
    skip
    match updateAt (← get).rest with
    | some (op, n) => do
      mark
      modify fun s => { s with rest := s.rest.drop n }
      return .assign op a (← assignment fuel)
    | none => return a
termination_by structural x => x

/-- A choice between two expressions. -/
def conditional : Nat → Parser Expr
  | 0 => wrong
  | fuel + 1 => do
    let c ← joined fuel 3
    if ← accept "?" then
      let a ← assignment fuel
      expect ":"
      return .choice c a (← assignment fuel)
    else return c
termination_by structural x => x

/-- Operands with operators that bind at least so tightly. -/
def joined : Nat → Nat → Parser Expr
  | 0, _ => wrong
  | fuel + 1, least => do
    let a ← unary fuel
    climb fuel least a
termination_by structural x => x

/-- Operators behind an operand. -/
def climb : Nat → Nat → Expr → Parser Expr
  | 0, _, _ => wrong
  | fuel + 1, least, a => do
    skip
    match jointAt (← get).rest with
    | none => return a
    | some (j, n, level) =>
      if level < least then return a
      else do
        mark
        modify fun s => { s with rest := s.rest.drop n }
        let b ← joined fuel (level + 1)
        climb fuel least (j.join (← get).rest.length a b)
termination_by structural x => x

/-- An operand with what stands in front of it. -/
def unary : Nat → Parser Expr
  | 0 => wrong
  | fuel + 1 => do
    skip
    let t := (← get).rest
    let operand (n : Nat) : Parser Expr := do
      mark
      goOn (t.drop n)
      unary fuel
    match t with
    | '!' :: _ => return .not (← operand 1)
    | '~' :: _ => return .complement (← operand 1)
    | '\\' :: '&' :: c :: rest => do
      let (name, after) := wordAt (rest.length + 1) (c :: rest)
      if startsWord c && (after.dropWhile isBlank).head? ≠ some '(' then
        mark
        goOn after
        return .reference (.variable ⟨.code, name⟩)
      else return .reference (← operand 1)
    | '\\' :: _ => return .reference (← operand 1)
    | '+' :: '+' :: _ => return .step true true (← operand 2)
    | '-' :: '-' :: _ => return .step false true (← operand 2)
    | '+' :: _ => operand 1
    | '-' :: c :: rest =>
      let (w, after) := wordAt (rest.length + 1) (c :: rest)
      if c.isAlpha && w.length = 1 && "erwxofdzslpSbctugkTBAMC".toList.contains c && !arrowFollows after
          && !((after.dropWhile isBlank).head?.any fun d => "=,)".toList.contains d) then do
        mark
        goOn after
        skip
        let e ← if startsTerm "stat" (← get).rest then unary fuel else pure .topic
        return .fileTest c e
      else if startsWord c && !isFunction w && !among specialWords w && (after.head? ≠ some '(') && !(← get).known.contains w then do
        mark
        goOn after
        return .value (.text ('-' :: w))
      else return .negative (← operand 1)
    | _ => powered fuel
termination_by structural x => x

/-- An operand that may have a power. -/
def powered : Nat → Parser Expr
  | 0 => wrong
  | fuel + 1 => do
    let a ← counted fuel
    skip
    match (← get).rest with
    | '*' :: '*' :: '=' :: _ => return a
    | '*' :: '*' :: rest => do
      mark
      goOn rest
      return .binary .pow a (← unary fuel)
    | _ => return a
termination_by structural x => x

/-- An operand that may be counted up or down afterwards. -/
def counted : Nat → Parser Expr
  | 0 => wrong
  | fuel + 1 => do
    let a ← primary fuel
    let a ← subscripts fuel a
    skip
    match (← get).rest with
    | '+' :: '+' :: rest => do
      mark
      goOn rest
      return .step true false a
    | '-' :: '-' :: rest => do
      mark
      goOn rest
      return .step false false a
    | _ => return a
termination_by structural x => x

/-- The arguments between parentheses that have been opened. -/
def closedArguments : Nat → Parser (List Expr)
  | 0 => wrong
  | fuel + 1 => do
    if ← accept ")" then return []
    else do
      let e ← expression fuel
      expect ")"
      return match e with
        | .list es => es
        | e => [e]
termination_by structural x => x

/-- The arguments of a function, with parentheses or without. -/
def listArguments : Nat → Parser (List Expr)
  | 0 => wrong
  | fuel + 1 => do
    if ← accept "(" then closedArguments fuel
    else do
      skip
      if endsList (← get).rest then return []
      else match ← commaList fuel with
        | .list es => return es
        | e => return [e]
termination_by structural x => x

/-- The key of a hash behind its brace. -/
def hashKey : Nat → Parser Expr
  | 0 => wrong
  | fuel + 1 => do
    skip
    let t := (← get).rest
    let (sign, body) : Text × Text := match t with
      | '-' :: rest => (['-'], rest)
      | t => ([], t)
    let (w, after) := wordAt body.length body
    if !w.isEmpty && (w.head?.any startsWord) && (after.dropWhile isBlank).head? = some '\x7d' then
      goOn after
      expect "\x7d"
      return .value (.text (sign ++ w))
    else do
      let e ← expression fuel
      expect "\x7d"
      match e with
      | .list es => return .function "join" (.variable ⟨.scalar, ";"⟩ :: es)
      | e => return e
termination_by structural x => x

/-- Subscripts, calls and methods behind an operand. -/
def subscripts : Nat → Expr → Parser Expr
  | 0, _ => wrong
  | fuel + 1, e => do
    let isElement : Bool := match e with
      | .element .. => true
      | .field .. => true
      | .callValue .. => true
      | _ => false
    let t := (← get).rest
    let elementOf (rest : Text) : Parser Expr := do
      goOn rest
      let i ← expression fuel
      expect "]"
      subscripts fuel (.element (.deref .array e) i)
    let fieldOf (rest : Text) : Parser Expr := do
      goOn rest
      let k ← hashKey fuel
      subscripts fuel (.field (.deref .hash e) k)
    let callOf (rest : Text) : Parser Expr := do
      goOn rest
      let args ← closedArguments fuel
      subscripts fuel (.callValue e (some args))
    match isElement, t with
    | true, '[' :: rest => elementOf rest
    | true, '\x7b' :: rest => fieldOf rest
    | true, '(' :: rest => callOf rest
    | _, _ => do
      let s ← get
      skip
      match (← get).rest with
      | '-' :: '>' :: rest => do
        mark
        goOn rest
        skip
        match (← get).rest with
        | '[' :: rest => elementOf rest
        | '\x7b' :: rest => fieldOf rest
        | '(' :: rest => callOf rest
        | '@' :: '*' :: rest => do
          goOn rest
          subscripts fuel (.deref .array e)
        | '%' :: '*' :: rest => do
          goOn rest
          subscripts fuel (.deref .hash e)
        | '$' :: '*' :: rest => do
          goOn rest
          subscripts fuel (.deref .scalar e)
        | '$' :: '#' :: '*' :: rest => do
          goOn rest
          subscripts fuel (.lastIndex (.deref .array e))
        | '@' :: '[' :: rest => do
          goOn rest
          let is ← expression fuel
          expect "]"
          subscripts fuel (.slice (.deref .array e) is)
        | '@' :: '\x7b' :: rest => do
          goOn rest
          let ks ← expression fuel
          expect "\x7d"
          subscripts fuel (.fieldSlice (.deref .hash e) ks)
        | '$' :: rest => do
          let (name, after) := wordAt rest.length rest
          goOn after
          let args ← if after.head? = some '(' then listArguments fuel else pure []
          subscripts fuel (.method e (.variable ⟨.scalar, name⟩) args)
        | _ => do
          let name ← readWord
          let args ← if (← get).rest.head? = some '(' then listArguments fuel else pure []
          subscripts fuel (.method e (.value (.text name)) args)
      | _ => do
        set s
        return e
termination_by structural x => x

/-- What a sign leads to: a name, or a reference. -/
def target : Nat → Sigil → Parser Target
  | 0, _ => wrong
  | fuel + 1, sigil => do
    let s ← get
    match s.rest with
    | '\x7b' :: rest => do
      let body := rest.dropWhile isBlank
      let caret := body.head? = some '^'
      let body := if caret then body.drop 1 else body
      let (w, after) := wordAt body.length body
      let digits := body.takeWhile Char.isDigit
      let w := if w.isEmpty then digits else w
      let after := if digits.length = w.length && !w.isEmpty then body.drop w.length else after
      let after := after.dropWhile isBlank
      if !w.isEmpty && after.head? = some '\x7d' then
        goOn (after.drop 1)
        return .named (if caret then '^' :: w else w)
      else if body.head?.any (fun c => "&@!$/\\,;._0".toList.contains c) && (body.drop 1).head? = some '\x7d' && !body.isEmpty then
        goOn (body.drop 2)
        return .named (body.take 1)
      else do
        goOn rest
        let b ← statements fuel
        expect "\x7d"
        match b.statements with
        | [.expression _ e] => return .through e
        | _ => return .through (.doBlock b)
    | '$' :: rest => do
      if rest.head?.any fun c => startsWord c || c = '$' || c = '\x7b' || c = ':' then
        goOn rest
        let inner ← target fuel .scalar
        return .through (inner.as .scalar)
      else do
        goOn rest
        return .named ['$']
    | '^' :: c :: rest => do
      goOn rest
      return .named ['^', c]
    | ':' :: ':' :: rest => do
      let (w, after) := wordAt rest.length rest
      goOn after
      return .named ("main::" ++ w)
    | c :: rest => do
      if startsWord c then
        let (w, after) := wordAt s.rest.length s.rest
        -- a colon in front of another one at the end does not belong to the name
        goOn after
        return .named w
      else if c.isDigit then
        let ds := s.rest.takeWhile Char.isDigit
        goOn (s.rest.drop ds.length)
        return .named ds
      else if sigil ≠ .scalar && !(c = '-' || c = '+' || c = '!') then wrong
      else if "&\x60'+!@/\\,;.\"|-<>()[]~=%:?".toList.contains c then do
        goOn rest
        return .named [c]
      else wrong
    | [] => wrong
termination_by structural x => x

/-- A scalar variable, or an element of what its name stands for. -/
def scalarTerm : Nat → Parser Expr
  | 0 => wrong
  | fuel + 1 => do
    let s ← get
    match s.rest with
    | '#' :: c :: rest => do
      if c = '\x7b' || c = '$' || startsWord c || c = ':' then
        goOn (c :: rest)
        let t ← target fuel .array
        return .lastIndex (t.as .array)
      else wrong
    | _ => do
      let t ← target fuel .scalar
      match (← get).rest with
      | '[' :: rest => do
        goOn rest
        let i ← expression fuel
        expect "]"
        return .element (t.as .array) i
      | '\x7b' :: rest => do
        goOn rest
        let k ← hashKey fuel
        return .field (t.as .hash) k
      | _ => return t.as .scalar
termination_by structural x => x

/-- An array, or some of the elements of what its name stands for. -/
def arrayTerm : Nat → Parser Expr
  | 0 => wrong
  | fuel + 1 => do
    let t ← target fuel .array
    match (← get).rest with
    | '[' :: rest => do
      goOn rest
      if ← accept "]" then return .slice (t.as .array) (.list [])
      else
        let is ← expression fuel
        expect "]"
        return .slice (t.as .array) is
    | '\x7b' :: rest => do
      goOn rest
      let ks ← expression fuel
      expect "\x7d"
      return .fieldSlice (t.as .hash) ks
    | _ => return t.as .array
termination_by structural x => x

/-- Subscripts behind a variable in a text. -/
def textSubscripts : Nat → Bool → Expr → Parser Expr
  | 0, _, _ => wrong
  | fuel + 1, isPattern, e => do
    let t := (← get).rest
    let isElement : Bool := match e with
      | .element .. => true
      | .field .. => true
      | _ => false
    let elementOf (rest : Text) : Parser Expr := do
      goOn rest
      let i ← expression fuel
      expect "]"
      textSubscripts fuel isPattern (.element (.deref .array e) i)
    let fieldOf (rest : Text) : Parser Expr := do
      goOn rest
      let k ← hashKey fuel
      textSubscripts fuel isPattern (.field (.deref .hash e) k)
    match t with
    | '[' :: rest => if isElement && (!isPattern || isIndexAhead t) then elementOf rest else return e
    | '\x7b' :: rest => if isElement && !isCountAhead t then fieldOf rest else return e
    | '-' :: '>' :: '[' :: rest => elementOf rest
    | '-' :: '>' :: '\x7b' :: rest => fieldOf rest
    | '-' :: '>' :: '@' :: '*' :: rest => do
      goOn rest
      return .listText (.deref .array e)
    | _ => return e
termination_by structural x => x

/-- A variable in a text, with the sign read. -/
def textVariable : Nat → Bool → Bool → Parser Expr
  | 0, _, _ => wrong
  | fuel + 1, isPattern, isArray => do
    if isArray then
      let t ← target fuel .array
      match (← get).rest with
      | '[' :: rest => do
        goOn rest
        let is ← expression fuel
        expect "]"
        return .listText (.slice (t.as .array) is)
      | '\x7b' :: rest => do
        goOn rest
        let ks ← expression fuel
        expect "\x7d"
        return .listText (.fieldSlice (t.as .hash) ks)
      | _ => return .listText (t.as .array)
    else
      let s ← get
      if s.rest.head? = some '#' then
        return ← scalarTerm fuel
      let t ← target fuel .scalar
      let rest := (← get).rest
      match rest with
      | '[' :: after =>
        if !isPattern || isIndexAhead rest then
          goOn after
          let i ← expression fuel
          expect "]"
          textSubscripts fuel isPattern (.element (t.as .array) i)
        else return t.as .scalar
      | '\x7b' :: after =>
        if isPattern && isCountAhead rest then return t.as .scalar
        else do
          goOn after
          let k ← hashKey fuel
          textSubscripts fuel isPattern (.field (t.as .hash) k)
      | _ => textSubscripts fuel isPattern (t.as .scalar)
termination_by structural x => x

/-- The pieces of a text that is left to be read, perhaps up to a mark that ends a change of letters; the characters of the
last piece stand in reverse. -/
def pieces : Nat → Bool → Bool → Text → Parser (List Expr)
  | 0, _, _, _ => wrong
  | fuel + 1, isPattern, isInner, last => do
    let t := (← get).rest
    let done : Parser (List Expr) := return withText last.reverse []
    let before (e : Expr) : Parser (List Expr) := do
      return withText last.reverse (e :: (← pieces fuel isPattern isInner []))
    let changed (name : String) (rest : Text) : Parser (List Expr) := do
      goOn rest
      let inner ← pieces fuel isPattern true []
      before (.function name.toList [ofPieces inner])
    let changedFirst (name : String) (rest : Text) : Parser (List Expr) := do
      goOn rest
      let inner ← pieces fuel isPattern isInner []
      return withText last.reverse [.function name.toList [ofPieces inner]]
    match t with
    | [] => done
    | '\\' :: 'U' :: rest => changed "uc" rest
    | '\\' :: 'L' :: rest => changed "lc" rest
    | '\\' :: 'Q' :: rest => changed "quotemeta" rest
    | '\\' :: 'u' :: rest => changedFirst "ucfirst" rest
    | '\\' :: 'l' :: rest => changedFirst "lcfirst" rest
    | '\\' :: 'E' :: rest => do
      goOn rest
      if isInner then done else pieces fuel isPattern isInner last
    | '\\' :: c :: rest =>
      if isPattern then do
        goOn rest
        pieces fuel isPattern isInner (c :: '\\' :: last)
      else do
        let (e, rest) := escapedAt (c :: rest)
        goOn rest
        pieces fuel isPattern isInner (e.reverse ++ last)
    | '$' :: c :: rest =>
      let isName := startsWord c || c.isDigit || c = '\x7b' || c = '&'
        || (c = ':' && rest.head? = some ':' && (rest.drop 1).head?.any startsWord)
        || (c = '#' && (rest.head?.any fun d => d = '\x7b' || d = '$' || (startsWord d && !isPattern)))
        || (c = '$' && (!isPattern || rest.head?.any fun d => startsWord d || d = '\x7b'))
        || (!isPattern && "\x60'+!@/\\,;.?]<>()|".toList.contains c)
        || (!isPattern && c = '^' && rest.head?.any Char.isUpper)
        || (isPattern && "+!,;".toList.contains c && rest.head? = some '\x7b')
      if isName then do
        goOn (c :: rest)
        before (← textVariable fuel isPattern false)
      else do
        goOn (c :: rest)
        pieces fuel isPattern isInner ('$' :: last)
    | '@' :: c :: rest =>
      if startsWord c || c = '\x7b' || c = '$' || (c = ':' && rest.head? = some ':') then do
        goOn (c :: rest)
        before (← textVariable fuel isPattern true)
      else do
        goOn (c :: rest)
        pieces fuel isPattern isInner ('@' :: last)
    | c :: rest => do
      goOn rest
      pieces fuel isPattern isInner (c :: last)
termination_by structural x => x

/-- A text with variables. -/
def interpolated : Nat → Bool → Text → Parser Expr
  | 0, _, _ => wrong
  | fuel + 1, isPattern, t => do
    let s ← get
    goOn t
    let es ← pieces fuel isPattern false []
    modify fun now => { now with
      rest := s.rest
      line := s.line
      ahead := s.ahead }
    return ofPieces es
termination_by structural x => x

/-- An expression to be matched between delimiters. -/
def patternText : Nat → Char → Text → Parser Expr
  | 0, _, _ => wrong
  | fuel + 1, opens, t => if opens = '\'' then return .value (.text t) else interpolated fuel true t
termination_by structural x => x

/-- A text between quotes that a word introduces. -/
def quoteTerm : Nat → Text → Parser Expr
  | 0, _ => wrong
  | fuel + 1, w => do
    let (opens, t) ← quoted
    match String.ofList w with
    | "q" => return .value (.text (plainText opens t))
    | "qq" => interpolated fuel false t
    | "qw" => return .list ((wordsOf t).map fun w => .value (.text (plainText opens w)))
    | "qx" => return .command (← interpolated fuel false t)
    | "m" => do
      let p ← patternText fuel opens t
      return .matching none p (← lettersBehind) true
    | "qr" => do
      let p ← patternText fuel opens t
      return .pattern p (← lettersBehind)
    | "s" => do
      let p ← patternText fuel opens t
      let (second, new) ← secondQuoted opens
      let letters ← lettersBehind
      let e ←
        if letters.contains 'e' then do
          let s ← get
          goOn new
          let b ← statements fuel
          modify fun now => { now with
            rest := s.rest
            line := s.line }
          pure (if (letters.filter (· = 'e')).length < 2 then .doBlock b else .function "eval" [.doBlock b])
        else if second = '\'' then pure (.value (.text new))
        else interpolated fuel false new
      return .replacing none p e letters
    | _ => do
      let (_, new) ← secondQuoted opens
      return .translating none t new (← lettersBehind)
termination_by structural x => x

/-- A text on the lines that follow. -/
def hereTerm : Nat → Parser Expr
  | 0 => wrong
  | fuel + 1 => do
    let t := (← get).rest
    let (indented, t) : Bool × Text := match t with
      | '~' :: rest => (true, rest)
      | t => (false, t)
    match t with
    | '"' :: rest => do
      let word := rest.takeWhile (· ≠ '"')
      goOn (rest.drop (word.length + 1))
      interpolated fuel false (← textBehind word indented)
    | '\'' :: rest => do
      let word := rest.takeWhile (· ≠ '\'')
      goOn (rest.drop (word.length + 1))
      return .value (.text (← textBehind word indented))
    | t => do
      let word := t.takeWhile isWordChar
      goOn (t.drop word.length)
      interpolated fuel false (← textBehind word indented)
termination_by structural x => x

/-- What stands between angle brackets. -/
def angleTerm : Nat → Parser Expr
  | 0 => wrong
  | fuel + 1 => do
    let t ← delimited '<'
    let name := if t.head? = some '$' then t.drop 1 else t
    if t.isEmpty || t = "<>".toList || t = "ARGV".toList then return .readInput
    else if name.all isWordChar then
      return .readLine (if t.head? = some '$' then .variable ⟨.scalar, name⟩ else .variable ⟨.handle, name⟩)
    else return .fileNames (← interpolated fuel false t)
termination_by structural x => x

/-- A term. -/
def primary : Nat → Parser Expr
  | 0 => wrong
  | fuel + 1 => do
    skip
    let t := (← get).rest
    match t with
    | [] => wrong
    | c :: rest => do
      if startsWord c then return ← wordTerm fuel
      let number : Bool := c.isDigit || (c = '.' && rest.head?.any Char.isDigit)
      if number then
        mark
        let (n, rest) := literalAt t
        goOn rest
        return .value n.toValue
      mark
      goOn rest
      match c with
      | '$' => scalarTerm fuel
      | '@' => arrayTerm fuel
      | '%' => do
        let h ← target fuel .hash
        match (← get).rest with
        | '\x7b' :: rest => do
          goOn rest
          let ks ← expression fuel
          expect "\x7d"
          return .pairSlice (h.as .hash) ks
        | _ => return h.as .hash
      | '&' => do
        let f ← target fuel .code
        let hasArgs ← isNext "("
        let args ← if hasArgs then some <$> listArguments fuel else pure none
        return match f with
          | .named n => .call n args
          | .through e => .callValue e args
      | '*' => do
        let h ← target fuel .handle
        return h.as .handle
      | '"' => interpolated fuel false (← delimited '"')
      | '\'' => return .value (.text (plainText '\'' (← delimited '\'')))
      | '\x60' => return .command (← interpolated fuel false (← delimited '\x60'))
      | '/' => do
        let p ← interpolated fuel true (← delimited '/')
        return .matching none p (← lettersBehind) true
      | '(' => do
        let es ← closedArguments fuel
        match (← get).rest with
        | '[' :: rest => do
          goOn rest
          let is ← expression fuel
          expect "]"
          return .listSlice (.list es) is
        | _ => return .list es
      | '[' => do
        if ← accept "]" then return .newArray []
        else
          let e ← expression fuel
          expect "]"
          return .newArray [e]
      | '\x7b' => do
        if ← accept "\x7d" then return .newHash []
        else
          let e ← expression fuel
          expect "\x7d"
          return .newHash [e]
      | '<' =>
        match rest with
        | '<' :: d :: more =>
          if startsWord d || d = '"' || d = '\'' || d = '~' then do
            goOn (d :: more)
            hereTerm fuel
          else angleTerm fuel
        | _ => angleTerm fuel
      | _ => do
        goOn t
        wrong
termination_by structural x => x

/-- New variables. -/
def declaration : Nat → Declaring → Parser Expr
  | 0, _ => wrong
  | fuel + 1, d => do
    if ← accept "(" then return .declare d (← newVariables fuel) true else return .declare d [← newVariable] false

/-- What is printed, and where. -/
def printTerm : Nat → Printing → Parser Expr
  | 0, _ => wrong
  | fuel + 1, p => do
    let hasParens ← accept "("
    skip
    let t := (← get).rest
    let s ← get
    let handle : Option Expr ← match t with
      | '\x7b' :: rest => do
        goOn rest
        let b ← statements fuel
        expect "\x7d"
        pure (some (match b.statements with
          | [.expression _ e] => e
          | _ => .doBlock b))
      | '$' :: c :: rest => do
        let (w, after) := wordAt (rest.length + 1) (c :: rest)
        if startsWord c && operandFollows after then
          goOn after
          pure (some (.variable ⟨.scalar, w⟩))
        else pure none
      | c :: _ => do
        let (w, after) := wordAt t.length t
        let next := (after.dropWhile isBlank)
        let isName := startsWord c && !isFunction w && !among specialWords w && !s.known.contains w && !s.constant.contains w
          && !(next.head?.any fun d => "(,.-+*/<=?".toList.contains d) && !"=>".toList.isPrefixOf next
          && !among ["__PACKAGE__", "__FILE__", "__LINE__"] w && !(jointAt next).isSome && !among operatorWords w
        if isName || (among standardHandles w && !(after.head? = some '(')) then
          goOn after
          pure (some (.variable ⟨.handle, w⟩))
        else pure none
      | [] => pure none
    let es ←
      if hasParens then closedArguments fuel
      else do
        skip
        if endsList (← get).rest then pure []
        else match ← commaList fuel with
          | .list es =>
            pure es
          | e => pure [e]
    return .printing p handle es
termination_by structural x => x

/-- What is done with each of several values, or the order into which they are put. -/
def blockTerm : Nat → Text → Parser Expr
  | 0, _ => wrong
  | fuel + 1, w => do
    let hasParens ← accept "("
    let finish (e : Expr) : Parser Expr := do
      if hasParens then expect ")"
      return e
    let list : Parser Expr := do
      skip
      if endsList (← get).rest then return .list [] else commaList fuel
    let s ← get
    let isBrace ← isNext "\x7b"
    if w = "sort".toList then
      if isBrace then
        let b ← block fuel
        let _ ← accept ","
        finish (.sorting (some (.newCode b)) (← list))
      else
        let t := (← get).rest
        let order? : Option (Expr × Text) := match t with
          | '$' :: c :: rest =>
            let (name, after) := wordAt (rest.length + 1) (c :: rest)
            let next := after.dropWhile isBlank
            if startsWord c && after.head?.any isBlank && (next.head? = some '@' || next.head? = some '(') then
              some (.variable ⟨.scalar, name⟩, after)
            else none
          | t =>
            let (name, after) := wordAt t.length t
            let next := after.dropWhile isBlank
            if t.head?.any startsWord && !isFunction name && !among specialWords name
                && (next.head?.any fun c => c = '@' || c = '$' || startsWord c || (c = '(' && after.head? ≠ some '('))
                && !among operatorWords name then
              some (.reference (.variable ⟨.code, name⟩), after)
            else none
        match order? with
        | some (order, after) => do
          goOn after
          finish (.sorting (some order) (← list))
        | none => finish (.sorting none (← list))
    else
      let m : Mapping := if w = "map".toList then .map else .grep
      let withExpression : Parser Expr := do
        let line := (← get).line
        let e ← assignment fuel
        expect ","
        finish (.mapping m (.ofExpr line e) (← list))
      if isBrace then
        match (block fuel).run s with
        | .ok (b, after) =>
          if (after.rest.dropWhile isBlank).head? = some ',' then withExpression
          else do
            set after
            finish (.mapping m b (← list))
        | .error e => do
          match withExpression.run s with
          | .ok (found, after) => do
            set after
            return found
          | .error _ => throw e
      else withExpression
termination_by structural x => x

/-- The arguments of a function that every script knows. -/
def functionTerm : Nat → Text → Parser Expr
  | 0, _ => wrong
  | fuel + 1, w => do
    let handled (es : List Expr) : List Expr := match es with
      | .call name (some []) :: es => if among handleFunctions w then .variable ⟨.handle, name⟩ :: es else .call name (some []) :: es
      | es => es
    if among plainFunctions w then
      if ← accept "(" then expect ")"
      return .function w []
    else if among unaryFunctions w then
      if ← isNext "(" then return .function w (handled (← listArguments fuel))
      else do
        skip
        if startsTerm w (← get).rest then return .function w (handled [← joined fuel 11]) else return .function w []
    else return .function w (handled (← listArguments fuel))
termination_by structural x => x

/-- A term that starts with a word. -/
def wordTerm : Nat → Parser Expr
  | 0 => wrong
  | fuel + 1 => do
    let w ← readWord
    let s ← get
    let after := s.rest
    if arrowFollows after then return .value (.text w)
    let isQuote : Bool := match (after.dropWhile isBlank).head? with
      | none => false
      | some '=' => (after.dropWhile isBlank)[1]? ≠ some '>' && (after.dropWhile isBlank)[1]? ≠ some '='
      | some ',' => false
      | some ';' => false
      | some ')' => false
      | some _ => true
    match String.ofList w with
    | "my" => declaration fuel .own
    | "our" => declaration fuel .shared
    | "state" => declaration fuel .lasting
    | "local" => return .localized (← unary fuel)
    | "print" => printTerm fuel .print
    | "say" => if s.speaks then printTerm fuel .say else otherWord fuel w
    | "printf" => printTerm fuel .printf
    | "sort" => blockTerm fuel w
    | "map" => blockTerm fuel w
    | "grep" => blockTerm fuel w
    | "do" =>
      if ← isNext "\x7b" then return .doBlock (← block fuel) else return .function "do" [← unary fuel]
    | "eval" =>
      if ← isNext "\x7b" then return .evalBlock (← block fuel)
      else do
        skip
        if startsTerm "eval" (← get).rest then return .function "eval" [← joined fuel 11]
        else return .function "eval" [.topic]
    | "sub" => return .newCode (← functionBody fuel)
    | "return" => do
      skip
      if endsList (← get).rest then return .function "return" [] else return .function "return" [← commaList fuel]
    | "next" => jump fuel w
    | "last" => jump fuel w
    | "redo" => jump fuel w
    | "__PACKAGE__" => return .value (.text s.package)
    | "__FILE__" => return .value (.text s.file)
    | "__LINE__" => return .value (.ofNat s.line)
    | "__SUB__" => return .function "__SUB__" []
    | "glob" => return .fileNames (ofPieces (← listArguments fuel))
    | "qw" => do
      let e ← quoteTerm fuel w
      match (← get).rest with
      | '[' :: rest => do
        goOn rest
        let is ← expression fuel
        expect "]"
        return .listSlice e is
      | _ => return e
    | _ =>
      if isQuote && among ["q", "qq", "qx", "m", "qr", "s", "tr", "y"] w then quoteTerm fuel w
      else if isFunction w then functionTerm fuel w
      else otherWord fuel w
termination_by structural x => x

/-- A jump, perhaps to a label. -/
def jump : Nat → Text → Parser Expr
  | 0, _ => wrong
  | _ + 1, w => do
    let label ← peekWord
    if label.isEmpty || among operatorWords label then return .function w []
    else
      let _ ← readWord
      return .function w [.value (.text label)]

/-- A word without a meaning of its own: a function, a class, a file, or a text. -/
def otherWord : Nat → Text → Parser Expr
  | 0, _ => wrong
  | fuel + 1, w => do
    let s ← get
    let next := s.rest.dropWhile isBlank
    if among standardHandles w then return .variable ⟨.handle, w⟩
    else if s.constant.contains w then
      if ← accept "(" then expect ")"
      return .call w (some [])
    else if next.head? = some '(' then
      if among blockFunctions w || s.blockTaking.contains w then
        let t := (next.drop 1).dropWhile isBlank
        if t.head? = some '\x7b' then
          expect "("
          let b ← block fuel
          let _ ← accept ","
          return .call w (some (.newCode b :: (← closedArguments fuel)))
      return .call w (some (← listArguments fuel))
    else if "->".toList.isPrefixOf next then
      if s.known.contains w then return .call w (some []) else return .value (.text w)
    else if s.known.contains w then
      if s.blockTaking.contains w && next.head? = some '\x7b' then
        let b ← block fuel
        let _ ← accept ","
        skip
        let es ← if endsList (← get).rest then pure [] else listArguments fuel
        return .call w (some (.newCode b :: es))
      else do
        skip
        let t := (← get).rest
        if startsTerm "return" t && !(t.head? = some '<') then return .call w (some (← listArguments fuel))
        else return .call w (some [])
    else if w = "new".toList && next.head?.any startsWord && !(among operatorWords (wordAt next.length next).1) then
      let name ← readWord
      let args ← if ← isNext "(" then listArguments fuel else pure []
      return .method (.value (.text name)) (.value (.text w)) args
    else if w = "__END__".toList || w = "__DATA__".toList then
      modify fun s => { s with
        data := some ((s.rest.dropWhile (· ≠ '\n')).drop 1)
        rest := [] }
      return .list []
    else return .function "word" [.value (.text w)]
termination_by structural x => x

/-- A block in braces. -/
def block : Nat → Parser Block
  | 0 => wrong
  | fuel + 1 => do
    expect "\x7b"
    let b ← statements fuel
    expect "\x7d"
    return b
termination_by structural x => x

/-- The body of a function, perhaps with parameters in front. -/
def functionBody : Nat → Parser Block
  | 0 => wrong
  | fuel + 1 => do
    let line := (← get).line
    let t ← if ← accept "(" then delimited '(' else pure []
    let b ← block fuel
    return .mk ((if t.any startsWord then parameters line t else []) ++ b.statements)
termination_by structural x => x

/-- Statements up to a closing brace or the end. -/
def statements : Nat → Parser Block
  | 0 => wrong
  | fuel + 1 => do
    let c ← peek
    if c.isNone || c = some '\x7d' then return .none
    let first ← statement fuel
    let rest ← statements fuel
    return .mk (first ++ rest.statements)
termination_by structural x => x

/-- A test in parentheses. -/
def test : Nat → Parser Expr
  | 0 => wrong
  | fuel + 1 => do
    expect "("
    let e ← if ← isNext ")" then pure (.value (.int 1)) else expression fuel
    expect ")"
    return match e with
      | .readLine h => .function "defined" [.assign none .topic (.readLine h)]
      | .readInput => .function "defined" [.assign none .topic .readInput]
      | .assign none a (.readLine h) => .function "defined" [.assign none a (.readLine h)]
      | .assign none a .readInput => .function "defined" [.assign none a .readInput]
      | .assign none a (.function f es) =>
        if among ["shift", "readdir", "each", "readline"] f && f ≠ "shift".toList && f ≠ "each".toList then
          .function "defined" [.assign none a (.function f es)]
        else .assign none a (.function f es)
      | e => e
termination_by structural x => x

/-- What follows the first block of a branch. -/
def branches : Nat → Parser (List (Expr × Block) × Block)
  | 0 => wrong
  | fuel + 1 => do
    if ← acceptWord "elsif" then
      let e ← test fuel
      let b ← block fuel
      let (tests, other) ← branches fuel
      return ((e, b) :: tests, other)
    else if ← acceptWord "else" then return ([], ← block fuel)
    else return ([], .none)
termination_by structural x => x

/-- A loop over values or with a count. -/
def forLoop : Nat → Nat → Option Text → Parser (List Statement)
  | 0, _, _ => wrong
  | fuel + 1, line, label => do
    let variableHere : Parser Variable := do
      expect "$"
      let w ← readWord
      return ⟨.scalar, w⟩
    let looped (v : Option (Bool × Variable)) : Parser (List Statement) := do
      expect "("
      let es ← closedArguments fuel
      let b ← block fuel
      return [.each line label v (.list es) b]
    if ← acceptWord "my" then looped (some (true, ← variableHere))
    else if ← acceptWord "our" then looped (some (false, ← variableHere))
    else if ← isNext "$" then looped (some (false, ← variableHere))
    else do
      expect "("
      let first ← if ← isNext ";" then pure none
        else if ← isNext ")" then pure (some (.list []))
        else some <$> expression fuel
      if ← accept ";" then
        let test ← if ← isNext ";" then pure none else some <$> expression fuel
        expect ";"
        let next ← if ← isNext ")" then pure none else some <$> expression fuel
        expect ")"
        let b ← block fuel
        let start := (first.toList).map (Statement.expression line)
        let nextBlock : Block := .mk (next.toList.map (Statement.expression line))
        return [.block line none (.mk (start ++ [.loop line label test b nextBlock]))]
      else do
        expect ")"
        let b ← block fuel
        return [.each line label none (first.getD (.list [])) b]
termination_by structural x => x

/-- What a module brings into a script. -/
def useStatement : Nat → Nat → Bool → Parser (List Statement)
  | 0, _, _ => wrong
  | fuel + 1, line, isUse => do
    skip
    let t := (← get).rest
    if t.head?.any (fun c => c.isDigit) || (t.head? = some 'v' && (t.drop 1).head?.any Char.isDigit) then
      modify fun s => { s with
        rest := s.rest.dropWhile (· ≠ ';')
        speaks := true }
      let _ ← accept ";"
      return []
    let m ← readWord
    skip
    let rest := (← get).rest
    -- a version in front of the list does not count
    let version := rest.takeWhile fun c => c.isDigit || c = '.'
    if !version.isEmpty then goOn (rest.drop version.length)
    skip
    let es ← if endsList (← get).rest then pure [] else listArguments fuel
    let names := textsOf es
    let _ ← accept ";"
    if !isUse then return []
    if m = "feature" then modify fun s => { s with speaks := true }
    if m = "constant" then
      let added : List Text := match es with
        | .newHash [.list es] :: _ => es.zipIdx.filterMap fun (e, i) => match e with
          | .value (.text t) => if i % 2 = 0 then some t else none
          | _ => none
        | .value (.text t) :: _ => [t]
        | _ => []
      modify fun s => { s with constant := added ++ s.constant }
    else
      let offered := moduleFunctions m
      let added := (if names.isEmpty then offered else names.map fun n => if n.head? = some '&' then n.drop 1 else n)
        ++ (if m = "POSIX" then offered else [])
      let constants := added.filter (among constantNames)
      modify fun s => { s with
        known := added ++ s.known
        constant := constants ++ s.constant
        blockTaking := added.filter (among blockFunctions) ++ s.blockTaking }
    return [.expression line (.function "use" (.value (.text m) :: es))]
termination_by structural x => x

/-- A statement. -/
def statement : Nat → Parser (List Statement)
  | 0 => wrong
  | fuel + 1 => do
    skip
    let s ← get
    let line := s.line
    if ← accept ";" then return []
    let w ← peekWord
    let (_, after) := wordAt s.rest.length s.rest
    let behind := after.dropWhile isBlank
    let isLabel := !w.isEmpty && behind.head? = some ':' && (behind.drop 1).head? ≠ some ':' && w.all (fun c => c.isUpper || c.isDigit || c = '_')
      && !w.isEmpty
    if isLabel then
      goOn (behind.drop 1)
      return ← labelled fuel line (some w)
    if arrowFollows after then return ← simpleStatement fuel line
    match String.ofList w with
    | "sub" =>
      let (name, _) := wordAt behind.length behind
      if name.isEmpty then simpleStatement fuel line
      else do
        let _ ← readWord
        let _ ← readWord
        let full := if name.contains ':' || s.package = "main".toList then name else s.package ++ "::" ++ name
        let proto := ((← get).rest.dropWhile isBlank)
        modify fun s => { s with
          known := name :: s.known
          constant := if "()".toList.isPrefixOf proto then name :: s.constant else s.constant
          blockTaking := if "(&".toList.isPrefixOf proto then name :: s.blockTaking else s.blockTaking }
        if ← accept ";" then return []
        let b ← functionBody fuel
        return [.function full b]
    | "package" => do
      let _ ← readWord
      let name ← readWord
      let old := s.package
      modify fun s => { s with package := name }
      if ← isNext "\x7b" then
        let b ← block fuel
        modify fun s => { s with package := old }
        return [.package name, .block line none b, .package old]
      else do
        let _ ← accept ";"
        return [.package name]
    | "use" => do
      let _ ← readWord
      useStatement fuel line true
    | "no" => do
      let _ ← readWord
      useStatement fuel line false
    | "BEGIN" =>
      if behind.head? = some '\x7b' then do
        let _ ← readWord
        let b ← block fuel
        return [.expression line (.function "BEGIN" [.newCode b])]
      else simpleStatement fuel line
    | "END" =>
      if behind.head? = some '\x7b' then do
        let _ ← readWord
        let b ← block fuel
        return [.expression line (.function "END" [.newCode b])]
      else simpleStatement fuel line
    | _ => labelled fuel line none
termination_by structural x => x

/-- A statement that may have a label. -/
def labelled : Nat → Nat → Option Text → Parser (List Statement)
  | 0, _, _ => wrong
  | fuel + 1, line, label => do
    let negated (isNot : Bool) (e : Expr) : Expr := if isNot then .not e else e
    let whileLoop (isNot : Bool) : Parser (List Statement) := do
      let _ ← readWord
      let e ← test fuel
      let b ← block fuel
      let next ← if ← acceptWord "continue" then block fuel else pure .none
      return [.loop line label (some (negated isNot e)) b next]
    let ifBranch (isNot : Bool) : Parser (List Statement) := do
      let _ ← readWord
      let e ← test fuel
      let b ← block fuel
      let (tests, other) ← branches fuel
      return [.branch line ((negated isNot e, b) :: tests) other]
    match String.ofList (← peekWord) with
    | "if" => ifBranch false
    | "unless" => ifBranch true
    | "while" => whileLoop false
    | "until" => whileLoop true
    | "for" => do
      let _ ← readWord
      forLoop fuel line label
    | "foreach" => do
      let _ ← readWord
      forLoop fuel line label
    | _ =>
      if (← isNext "\x7b") && !hashAhead (← get).rest then return [.block line label (← block fuel)]
      else simpleStatement fuel line
termination_by structural x => x

/-- An expression as a statement, with what may stand behind it. -/
def simpleStatement : Nat → Nat → Parser (List Statement)
  | 0, _ => wrong
  | fuel + 1, line => do
    let e ← expression fuel
    let st ← modified fuel line e
    match ← peek with
    | none => return st
    | some '\x7d' => return st
    | some ';' => do
      let _ ← accept ";"
      return st
    | some _ => do
      mark
      wrong
termination_by structural x => x

/-- A statement with the condition or the loop that stands behind it. -/
def modified : Nat → Nat → Expr → Parser (List Statement)
  | 0, _, _ => wrong
  | fuel + 1, line, e => do
    let isDo : Option Block := match e with
      | .doBlock b => some b
      | _ => none
    let once : Block := .ofExpr line e
    match String.ofList (← peekWord) with
    | "if" => do
      let _ ← readWord
      return [.branch line [(← expression fuel, once)] .none]
    | "unless" => do
      let _ ← readWord
      return [.branch line [(.not (← expression fuel), once)] .none]
    | "while" => do
      let _ ← readWord
      let c ← expression fuel
      let c : Expr := match c with
        | .readLine h => .function "defined" [.assign none .topic (.readLine h)]
        | .readInput => .function "defined" [.assign none .topic .readInput]
        | .assign none a (.readLine h) => .function "defined" [.assign none a (.readLine h)]
        | .assign none a .readInput => .function "defined" [.assign none a .readInput]
        | c => c
      match isDo with
      | some b => return [.doLoop line b c]
      | none => return [.loop line none (some c) once .none]
    | "until" => do
      let _ ← readWord
      let c ← expression fuel
      match isDo with
      | some b => return [.doLoop line b (.not c)]
      | none => return [.loop line none (some (.not c)) once .none]
    | "for" => do
      let _ ← readWord
      return [.each line none none (← expression fuel) once]
    | "foreach" => do
      let _ ← readWord
      return [.each line none none (← expression fuel) once]
    | _ => return [.expression line e]
termination_by structural x => x

end

/-- Read a script. -/
def Source.read (s : Source) : Except Mistake (Block × Source) :=
  let all : Parser Block := do
    let b ← statements (40 * (s.rest.length + 20))
    if (← peek).isSome then
      let s ← get
      let place := placeText s.file s.line
      throw ⟨"Unmatched right curly bracket" ++ place ++ ", at end of line\nsyntax error" ++ place ++ ", near \"" ++ s.rest ++ ['"'], true⟩
    return b
  all.run s

/-- A script that is to be read. -/
def Source.ofText (file : Text) (speaks : Bool) (t : Text) : Source where
  rest := t
  line := 1
  ahead := 0
  file := file
  before := ([], [])
  known := []
  constant := []
  blockTaking := []
  package := "main"
  speaks := speaks
  data := none

end Rollout.Program.Perl

