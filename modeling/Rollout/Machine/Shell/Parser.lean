import Rollout.Machine.Shell.Brace
import Rollout.Machine.Shell.Region

/-!
Reading commands. A text is read line by line, a line being as long as its commands need; the fuel bounds
the depth of the reading and is computed from the length of the text.
-/

namespace Rollout.Shell

namespace Parser

/-- The line that has been reached. -/
def currentLine : Parser Nat := do return (← get).line

/-- Names that may not be given to other commands in the plain dialect. -/
def reservedNames : List Text :=
  [".", ":", "break", "continue", "eval", "exec", "exit", "export", "local", "readonly", "return", "set", "shift",
    "times", "trap", "unset"].map String.toList

/-- Commands that declare variables. -/
def declaringNames : List Text :=
  ["declare", "typeset", "local", "export", "readonly"].map String.toList

/-- The name of a command among words. -/
def commandName : List Word → Text
  | [.text t false] :: _ => t
  | _ => []

/-- Marks in front of groups of alternatives. -/
def isGroupMark (c : Char) : Bool := "?*+@!".toList.contains c

/-- Can groups of alternatives stand in the region? -/
def Region.hasGroups : Region → Bool
  | .bare => true
  | .braces false _ => true
  | .alternatives => true
  | _ => false

/-- Operators of conditions between two words. -/
def isQuestion (t : Text) : Bool :=
  (["=", "==", "!=", "=~", "-eq", "-ne", "-lt", "-le", "-gt", "-ge", "-nt", "-ot", "-ef"].map
    String.toList).contains t

/-- Operators of conditions in front of a word. -/
def isUnaryQuestion (t : Text) : Bool :=
  match t with
  | ['-', c] => "abcdefghknoprstuvwxzGLNORS".toList.contains c
  | _ => false

/-- Refuse a token in a condition. -/
def strangeQuestion {α : Type} (what : Text) (t : Token) : Parser α := do
  let s ← get
  match t with
  | .finish => strange t
  | t =>
    throw ⟨s.tokenLine, [what, "syntax error near `" ++ t.source ++ ['\''],
      '`' :: s.lineText s.tokenLine ++ ['\'']]⟩

/-- Does a command start here that is not made of words alone? -/
def startsCompound (t : Token) : Bool :=
  t.isOperator "(" || ["if", "while", "until", "for", "case", "select", "\x7b", "[["].any t.isKeyword

/-- What is read, and the text from which it is read. -/
def sourced {α : Type} (p : Parser α) : Parser (α × Text) := do
  let before := (← get).rest
  let x ← p
  return (x, before.take (before.length - (← get).rest.length))

/-- A redirection as it is written. -/
def writtenChange (given : Option Slot) (op source : Text) : Text :=
  let isCopy := op = "<&".toList || op = ">&".toList
  let usual := defaultDescriptor op
  let number : Text := match given with
    | some (.fixed n) => if n = usual && !isCopy then [] else Text.ofNat n
    | some (.free name) => '\x7b' :: name ++ ['\x7d']
    | none => if isCopy && source.all (fun c => c.isDigit || c = '-') then Text.ofNat usual else []
  let isDocument := op = "<<".toList || op = "<<-".toList
  number ++ op ++ (if isCopy || isDocument then source else ' ' :: source)

mutual

/-- Read the pieces of a region that starts on a line, and what ends it. -/
def pieces (fuel : Nat) (region : Region) (start : Nat) : Parser (List Piece) :=
  match fuel with
  | 0 => fail "too deep"
  | fuel + 1 => do
    let s ← get
    let rest := s.rest
    match rest with
    | [] => match region.unfinished with
      | some (mark, message) => unmatched start mark message
      | none => return []
    | c :: cs =>
      let next := cs.head?
      if s.dialect = .rich && region = .bare && (c = '<' || c = '>') && next = some '(' then do
        skip 2
        let commands ← list fuel false true
        expectOperator fuel ")"
        return .channel (c = '<') commands :: (← pieces fuel region start)
      else if let some n := region.closing? rest then do
        skip n
        return []
      else if s.groups && region.hasGroups && isGroupMark c && next = some '(' then do
        skip 2
        let inner ← pieces fuel .alternatives start
        let after ← pieces fuel region start
        return addText [c, '('] false (addPieces inner (addText [')'] false after))
      else match c, cs with
        | '\\', '\n' :: _ => do
          skip 2
          pieces fuel region start
        | '\\', d :: _ =>
          if region.escapes d then do
            skip 2
            return addText [d] true (← pieces fuel region start)
          else do
            skip 1
            return addText ['\\'] region.quoted (← pieces fuel region start)
        | '$', '\'' :: more =>
          if s.dialect = .rich && !region.quoted then
            match escapedQuote (more.length + 1) more with
            | none => unmatched s.line ['\''] "Unterminated quoted string"
            | some (t, after) => do
              modify fun s => { s with rest := after }
              return addText t true (← pieces fuel region start)
          else do
            skip 1
            return addText ['$'] region.quoted (← pieces fuel region start)
        | '$', '"' :: _ =>
          if s.dialect = .rich && !region.quoted then do
            skip 1
            pieces fuel region start
          else do
            skip 1
            return addText ['$'] region.quoted (← pieces fuel region start)
        | '$', _ => do
          skip 1
          let p ← dollar fuel region.quoted
          let ps ← pieces fuel region start
          return match p with
            | .text t q => addText t q ps
            | p => p :: ps
        | '`', cs => match backquoted region.quoted cs with
          | none => unmatched s.line ['`'] "EOF in backquote substitution"
          | some (inner, outer) => do
            set (Source.ofText s.reading inner (if s.dialect = .plain then 1 else s.line))
            let commands ← list fuel false true
            let t ← peek fuel
            if s.dialect = .rich && t.isOperator ")" then unexpected t
            set { s with rest := outer }
            return .output commands region.quoted :: (← pieces fuel region start)
        | '\'', _ =>
          if region.quoted then do
            skip 1
            return addText ['\''] true (← pieces fuel region start)
          else do
            let line ← currentLine
            skip 1
            let t ← takeWhile (· ≠ '\'')
            if (← get).rest.isEmpty then unmatched line ['\''] "Unterminated quoted string"
            skip 1
            return addText t true (← pieces fuel region start)
        | '"', _ =>
          if region.keepsQuotes s.dialect then do
            skip 1
            return addText ['"'] true (← pieces fuel region start)
          else do
            let line ← currentLine
            skip 1
            let inner ← pieces fuel .quotes line
            let ps ← pieces fuel region start
            return match inner with
              | [] => addText [] true ps
              | [.text t q] => addText t q ps
              | inner => inner ++ ps
        | c, _ =>
          if isActive c then do
            skip 1
            return addText [c] region.quoted (← pieces fuel (region.after c) start)
          else do
            let t ← takeWhile (!isActive ·)
            return addText t region.quoted (← pieces fuel region start)

/-- Read an expansion after its dollar sign. -/
def dollar (fuel : Nat) (quoted : Bool) : Parser Piece :=
  match fuel with
  | 0 => fail "too deep"
  | fuel + 1 => do
    let s ← get
    let line := s.line
    match s.rest with
    | '(' :: '(' :: _ =>
      match s.dialect with
      | .plain => do
        skip 2
        return .arithmetic (← pieces fuel (.sum 0) line) quoted
      | .rich => try do
          skip 2
          return .arithmetic (← pieces fuel (.sum 0) line) quoted
        catch e => do
          if e.isCut then throw e
          skip 1
          inserted fuel quoted
    | '(' :: _ => do
      skip 1
      inserted fuel quoted
    | '[' :: _ =>
      if s.dialect = .rich then do
        skip 1
        return .arithmetic (← pieces fuel (.subscript 0) line) quoted
      else return .text ['$'] quoted
    | '\x7b' :: '#' :: '\x7d' :: _ => do
      skip 3
      return .value ['#'] quoted
    | '\x7b' :: '#' :: c :: _ => do
      let isLength := isNameStart c || c.isDigit || (isMark c && (s.rest.drop 3).head? = some '\x7d')
      if isLength then do
        skip 2
        let name ← parameterName
        let subscript ← subscriptAt fuel
        match (← get).rest with
        | '\x7d' :: _ => do
          skip 1
          return .parameter (.mk name subscript false) .length quoted
        | _ => meaningless fuel s.rest quoted
      else do
        skip 2
        braced fuel s.rest (.mk ['#'] none false) quoted
    | '\x7b' :: '!' :: c :: _ => do
      if s.dialect = .rich && (isNameChar c || "@*#?".toList.contains c) then do
        skip 2
        let name ← parameterName
        let subscript ← subscriptAt fuel
        match subscript, (← get).rest with
        | none, '*' :: '\x7d' :: _ => do
          skip 2
          return .parameter (.mk name (some (.all true)) true) .names quoted
        | none, '@' :: '\x7d' :: _ => do
          skip 2
          return .parameter (.mk name (some (.all false)) true) .names quoted
        | some (.all joined), '\x7d' :: _ => do
          skip 1
          return .parameter (.mk name (some (.all joined)) false) .names quoted
        | subscript, _ => braced fuel s.rest (.mk name subscript true) quoted
      else do
        skip 1
        braced fuel s.rest (.mk (← parameterName) none false) quoted
    | '\x7b' :: _ => do
      skip 1
      let name ← parameterName
      let subscript ← if isName name then subscriptAt fuel else pure none
      braced fuel s.rest (.mk name subscript false) quoted
    | c :: _ =>
      if isNameStart c then return .value (← takeWhile isNameChar) quoted
      else if c.isDigit || isMark c then do
        skip 1
        return .value [c] quoted
      else return .text ['$'] quoted
    | [] => return .text ['$'] quoted

/-- Read commands up to a closing parenthesis. -/
def inserted (fuel : Nat) (quoted : Bool) : Parser Piece :=
  match fuel with
  | 0 => fail "too deep"
  | fuel + 1 => do
    let commands ← list fuel false true
    let t ← peek fuel
    match (← get).dialect, t with
    | .rich, .finish => do
      let s ← get
      unmatched (s.firstLine + s.whole.count '\n') [')'] []
    | _, _ => expectOperator fuel ")"
    return .output commands quoted

/-- Read brackets after a name. -/
def subscriptAt (fuel : Nat) : Parser (Option Subscript) :=
  match fuel with
  | 0 => fail "too deep"
  | fuel + 1 => do
    let s ← get
    match s.dialect, s.rest with
    | .rich, '[' :: '@' :: ']' :: _ => do
      skip 3
      return some (.all false)
    | .rich, '[' :: '*' :: ']' :: _ => do
      skip 3
      return some (.all true)
    | .rich, '[' :: _ => do
      skip 1
      return some (.one (← pieces fuel (.subscript 0) s.line))
    | _, _ => return none

/-- Read what is left of an expansion that means nothing, which started at a text. -/
def meaningless (fuel : Nat) (source : Text) (quoted : Bool) : Parser Piece :=
  match fuel with
  | 0 => fail "too deep"
  | fuel + 1 => do
    let _ ← pieces fuel (.braces quoted []) (← currentLine)
    return .meaningless ('$' :: source.take (source.length - (← get).rest.length))

/-- Read what follows the name of a parameter between braces. -/
def braced (fuel : Nat) (source : Text) (parameter : Parameter) (quoted : Bool) : Parser Piece :=
  match fuel with
  | 0 => fail "too deep"
  | fuel + 1 => do
    let s ← get
    let rich := s.dialect = .rich
    let line := s.line
    let done (m : Modifier) : Piece := .parameter parameter m quoted
    let trimmed (n : Nat) (atEnd longest : Bool) : Parser Piece := do
      skip n
      return done (.trimmed atEnd longest (← pieces fuel (.braces false []) line))
    let replaced (n : Nat) (which : Replacing) : Parser Piece := do
      skip n
      let pattern ← pieces fuel (.braces false ['/']) line
      match (← get).rest with
      | '/' :: _ => do
        skip 1
        return done (.replaced which pattern (← pieces fuel (.braces quoted []) line))
      | _ => return done (.replaced which pattern [])
    let recased (n : Nat) (upper every : Bool) : Parser Piece := do
      skip n
      return done (.recased upper every (← pieces fuel (.braces false []) line))
    match parameter, s.rest with
    | .mk [] .., _ => meaningless fuel source quoted
    | _, '\x7d' :: _ => do
      skip 1
      return done .plain
    | _, '#' :: '#' :: _ => trimmed 2 false true
    | _, '#' :: _ => trimmed 1 false false
    | _, '%' :: '%' :: _ => trimmed 2 true true
    | _, '%' :: _ => trimmed 1 true false
    | _, ':' :: c :: _ => match fallbackKind? c with
      | some kind => do
        skip 2
        return done (.fallback kind true (withHome ['/'] (← pieces fuel (.braces quoted []) line)))
      | none =>
        if rich then do
          skip 1
          let start ← pieces fuel (.braces quoted [':']) line
          match (← get).rest with
          | ':' :: _ => do
            skip 1
            return done (.slice start (some (← pieces fuel (.braces quoted []) line)))
          | _ => return done (.slice start none)
        else meaningless fuel source quoted
    | _, c :: rest => match fallbackKind? c, s.dialect, c, rest with
      | some kind, _, _, _ => do
        skip 1
        return done (.fallback kind false (withHome ['/'] (← pieces fuel (.braces quoted []) line)))
      | none, .rich, '/', '/' :: _ => replaced 2 .every
      | none, .rich, '/', '#' :: _ => replaced 2 .atStart
      | none, .rich, '/', '%' :: _ => replaced 2 .atEnd
      | none, .rich, '/', _ => replaced 1 .first
      | none, .rich, '^', '^' :: _ => recased 2 true true
      | none, .rich, '^', _ => recased 1 true false
      | none, .rich, ',', ',' :: _ => recased 2 false true
      | none, .rich, ',', _ => recased 1 false false
      | none, .rich, '@', letter :: '\x7d' :: _ => do
        skip 3
        return done (.transformed letter)
      | _, _, _, _ => meaningless fuel source quoted
    | _, [] => meaningless fuel source quoted

/-- Read the next token. -/
def token (fuel : Nat) : Parser Token :=
  match fuel with
  | 0 => fail "too deep"
  | fuel + 1 => do
    let s ← get
    match s.rest with
    | [] => do
      set { s with tokenLine := s.line }
      return .finish
    | '\n' :: _ => do
      set { s with tokenLine := s.line, ahead := 0, rest := s.rest.drop 1 }
      return .newline
    | '\\' :: '\n' :: _ => do
      skip 2
      token fuel
    | c :: cs =>
      if c = ' ' || c = '\t' then do
        skip 1
        token fuel
      else if c = '#' then do
        let _ ← takeWhile (· ≠ '\n')
        token fuel
      else do
        set { s with tokenLine := s.line }
        let isChannel := s.dialect = .rich && (c = '<' || c = '>') && cs.head? = some '('
        let digits := (c :: cs).takeWhile Char.isDigit
        let digits := if s.dialect = .plain && 1 < digits.length then [] else digits
        let after := (c :: cs).drop digits.length
        let changes := if isChannel || after.take 1 = ['&'] && digits ≠ [] then none
          else redirectionAt s.dialect after
        let named := if s.dialect = .rich then namedChange? s.rest else none
        match named, changes, operatorAt s.dialect (c :: cs) with
        | some (name, op), _, _ => do
          skip (name.length + 2 + op.length)
          return .redirection (some (.free name)) op ('\x7b' :: name ++ '\x7d' :: op)
        | none, some op, _ => do
          skip (digits.length + op.length)
          return .redirection ((Text.toNat? digits).map .fixed) op (digits ++ op)
        | none, none, some op => do
          skip op.length
          return .operator op
        | none, none, none => do
          let w ← match beforeKey? s.keyed s.rest with
            | some name => do
              skip (name.length + 1)
              let key ← pieces fuel (.subscript 0) s.line
              let after ← pieces fuel .bare s.line
              pure (addText (name ++ ['[']) false (addPieces key (addText [']'] false after)))
            | none => pieces fuel .bare s.line
          let left := (← get).rest.length
          return .word w (s.rest.take (s.rest.length - left))

/-- The next token, which stays to be read. -/
def peek (fuel : Nat) : Parser Token :=
  match fuel with
  | 0 => fail "too deep"
  | fuel + 1 => do
    match (← get).pending with
    | some t => return t
    | none => do
      let t ← token fuel
      modify fun s => { s with pending := some t }
      return t

/-- The next token, which stays to be read; a word may have brackets with anything between them. -/
def peekKeyed (fuel : Nat) (keyed : Keyed) : Parser Token :=
  match fuel with
  | 0 => fail "too deep"
  | fuel + 1 => do
    if ← isRich then modify fun s => { s with keyed := keyed }
    let t ← peek fuel
    modify fun s => { s with keyed := .never }
    return t

/-- The next token, which stays to be read; a word may be replaced. -/
def peekCommand (fuel : Nat) : Parser Token :=
  match fuel with
  | 0 => fail "too deep"
  | fuel + 1 => do
    let t ← peekKeyed fuel .named
    let s ← get
    let replaced? : Option (Text × Text) := do
      let name ← t.plain?
      if s.dialect = .plain && (Token.keywords s.dialect).contains name then none
      else return (name, ← s.aliases.get? name)
    match replaced? with
    | some (name, value) =>
      let n := s.rest.length
      if s.spent.any fun u => u.1 = name && u.2 < n then return t
      else do
        let blank := value.getLast? = some ' ' || value.getLast? = some '\t'
        set { s with
          pending := none
          rest := value ++ s.rest
          lastLine := s.lastLine + value.count '\n'
          spent := (name, n) :: s.spent
          alsoAfter := if blank then some n else s.alsoAfter }
        peekCommand fuel
    | none => return t

/-- The next token among the arguments of a command, which stays to be read. -/
def peekArgument (fuel : Nat) : Parser Token :=
  match fuel with
  | 0 => fail "too deep"
  | fuel + 1 => do
    let t ← peek fuel
    let s ← get
    match s.alsoAfter with
    | some n =>
      if s.rest.length < n then do
        set { s with alsoAfter := none }
        peekCommand fuel
      else return t
    | none => return t

/-- The next token after ends of lines, which stays to be read. -/
def peekOnward (fuel : Nat) : Parser Token :=
  match fuel with
  | 0 => fail "too deep"
  | fuel + 1 => do
    match ← peekKeyed fuel .named with
    | .newline => do
      consume
      peekOnward fuel
    | t => return t

/-- Read an operator. -/
def expectOperator (fuel : Nat) (wanted : String) : Parser Unit :=
  match fuel with
  | 0 => fail "too deep"
  | fuel + 1 => do
    let t ← peek fuel
    if t.isOperator wanted then consume else unexpectedFor t ('"' :: wanted.toList ++ ['"'])

/-- Read a keyword, perhaps after ends of lines. -/
def expectKeyword (fuel : Nat) (wanted : String) : Parser Unit :=
  match fuel with
  | 0 => fail "too deep"
  | fuel + 1 => do
    let t ← peekOnward fuel
    if t.isKeyword wanted then consume else unexpectedFor t ('"' :: wanted.toList ++ ['"'])

/-- Read a list of commands: a line of the text, or all up to a closing token, before which commands have to
stand unless it may close at once. -/
def list (fuel : Nat) (isLine mayClose : Bool) : Parser (List Command) :=
  match fuel with
  | 0 => fail "too deep"
  | fuel + 1 => do
    match ← peekCommand fuel with
    | .newline => do
      consume
      if isLine then return [] else list fuel isLine mayClose
    | .finish => return []
    | t =>
      if !isLine && mayClose && t.closes then return []
      else do
        let c ← andOr fuel
        match ← peek fuel with
        | .operator [';'] => do
          consume
          return c :: (← list fuel isLine true)
        | .operator ['&'] => do
          consume
          return .background c :: (← list fuel isLine true)
        | .newline => return c :: (← list fuel isLine true)
        | .finish => return [c]
        | t => if isLine then unexpected t else return [c]

/-- Read commands that depend on each other's success. -/
def andOr (fuel : Nat) : Parser Command :=
  match fuel with
  | 0 => fail "too deep"
  | fuel + 1 => do
    andOrAfter fuel (← pipeline fuel)

/-- Read the commands that depend on the success of one that has been read. -/
def andOrAfter (fuel : Nat) (first : Command) : Parser Command :=
  match fuel with
  | 0 => fail "too deep"
  | fuel + 1 => do
    let t ← peek fuel
    if t.isOperator "&&" then do
      consume
      let _ ← peekOnward fuel
      andOrAfter fuel (.both first (← pipeline fuel))
    else if t.isOperator "||" then do
      consume
      let _ ← peekOnward fuel
      andOrAfter fuel (.either first (← pipeline fuel))
    else return first

/-- Read a pipeline. -/
def pipeline (fuel : Nat) : Parser Command :=
  match fuel with
  | 0 => fail "too deep"
  | fuel + 1 => do
    let rich ← isRich
    let first ← peekCommand fuel
    let negated := first.isKeyword "!"
    let endsHere (t : Token) : Bool := match t with
      | .newline => true
      | .finish => true
      | .operator o => o ≠ ['(']
      | t => t.closes
    if rich && first.isKeyword "time" then
      consume
      let older := (← peek fuel).isKeyword "-p"
      if older then consume
      if (← peek fuel).isKeyword "--" then consume
      if endsHere (← peek fuel) then return .timed older [] else return .timed older [← pipeline fuel]
    if negated then
      consume
      if rich then
        let next ← peekCommand fuel
        if next.isKeyword "!" || next.isKeyword "time" then return .pipeline true [← pipeline fuel]
        if endsHere next then return .pipeline true [.group []]
    match ← stages fuel with
    | [c] => return if negated then .pipeline true [c] else c
    | cs => return .pipeline negated cs

/-- Read the commands of a pipeline. -/
def stages (fuel : Nat) : Parser (List Command) :=
  match fuel with
  | 0 => fail "too deep"
  | fuel + 1 => do
    let c ← command fuel
    let t ← peek fuel
    if t.isOperator "|" || t.isOperator "|&" then do
      consume
      let _ ← peekOnward fuel
      let line ← currentLine
      let c := if t.isOperator "|&" then
          .redirected line c [.mk line (.fixed 2) (.duplicate false) [.text ['1'] false]] " 2>&1"
        else c
      return c :: (← stages fuel)
    else return [c]

/-- Read a command. -/
def command (fuel : Nat) : Parser Command :=
  match fuel with
  | 0 => fail "too deep"
  | fuel + 1 => do
    let t ← peekCommand fuel
    let s ← get
    let line := s.line
    let rich := s.dialect = .rich
    match t with
    | .redirection .. => simple fuel line [] [] [] ([], [])
    | .operator ['('] => do
      consume
      match s.dialect, s.rest with
      | .rich, '(' :: _ => try do
          skip 1
          let (e, written) ← sourced (pieces fuel (.sum 0) line)
          redirected fuel line (.sum line e ("((" ++ written))
        catch e => do
          if e.isCut then throw e
          let body ← list fuel false false
          expectOperator fuel ")"
          redirected fuel line (.subshell line body)
      | _, _ => do
        let body ← list fuel false false
        expectOperator fuel ")"
        redirected fuel line (.subshell line body)
    | .word .. => match t.plain? with
      | none => simple fuel line [] [] [] ([], [])
      | some k => match String.ofList k with
        | "if" => do
          consume
          redirected fuel line (← branches fuel)
        | "while" => do
          consume
          let condition ← list fuel false false
          redirected fuel line (.loop true condition (← repeated fuel))
        | "until" => do
          consume
          let condition ← list fuel false false
          redirected fuel line (.loop false condition (← repeated fuel))
        | "for" => do
          consume
          redirected fuel line (← each fuel false line)
        | "select" =>
          if rich then do
            consume
            redirected fuel line (← each fuel true line)
          else simple fuel line [] [] [] ([], [])
        | "coproc" =>
          if rich then do
            consume
            partner fuel line
          else simple fuel line [] [] [] ([], [])
        | "case" => do
          consume
          redirected fuel line (← choice fuel line)
        | "\x7b" => do
          consume
          let body ← list fuel false false
          expectKeyword fuel "\x7d"
          redirected fuel line (.group body)
        | "[[" =>
          if rich then do
            consume
            let groups := s.groups
            modify fun s => { s with groups := true }
            let (q, written) ← sourced (question fuel)
            modify fun s => { s with groups := groups }
            redirected fuel line (.question line q ("[[" ++ written))
          else simple fuel line [] [] [] ([], [])
        | "function" =>
          if rich then do
            consume
            match ← peek fuel with
            | .word w _ => do
              consume
              if (← peek fuel).isOperator "(" then do
                consume
                expectOperator fuel ")"
              definition fuel line (plainText w)
            | t => unexpected t
          else simple fuel line [] [] [] ([], [])
        | _ =>
          if (Token.keywords s.dialect).contains k && k ≠ "in".toList then unexpected t
          else simple fuel line [] [] [] ([], [])
    | _ => unexpected t

/-- Read the command that is run beside the shell, perhaps after its name. -/
def partner (fuel : Nat) (line : Nat) : Parser Command :=
  match fuel with
  | 0 => fail "too deep"
  | fuel + 1 => do
    let t ← peek fuel
    let s ← get
    match t with
    | .word [.text name false] _ =>
      if startsCompound t then return .partner line "COPROC" (← command fuel)
      else do
        consume
        if isName name && startsCompound (← peek fuel) then return .partner line name (← command fuel)
        else do
          set s
          return .partner line "COPROC" (← command fuel)
    | _ => return .partner line "COPROC" (← command fuel)

/-- Read the command that a name is given to. -/
def definition (fuel : Nat) (line : Nat) (name : Text) : Parser Command :=
  match fuel with
  | 0 => fail "too deep"
  | fuel + 1 => do
    let t ← peekOnward fuel
    if (← isRich) && !startsCompound t then unexpected t
    return .define line name (← command fuel)

/-- Read the redirections after a command. -/
def redirected (fuel : Nat) (line : Nat) (c : Command) : Parser Command :=
  match fuel with
  | 0 => fail "too deep"
  | fuel + 1 => do
    match ← redirections fuel with
    | ([], _) => return c
    | (rs, written) => return .redirected line c rs written

/-- Read redirections; also gives how they are written. -/
def redirections (fuel : Nat) : Parser (List Redirection × Text) :=
  match fuel with
  | 0 => fail "too deep"
  | fuel + 1 => do
    match ← peek fuel with
    | .redirection slot op _ => do
      consume
      let (rs, t) ← redirection fuel slot op
      let (more, u) ← redirections fuel
      return (rs ++ more, ' ' :: t ++ u)
    | _ => return ([], [])

/-- Read the target of a redirection; also gives how the redirection is written. -/
def redirection (fuel : Nat) (given : Option Slot) (op : Text) : Parser (List Redirection × Text) :=
  match fuel with
  | 0 => fail "too deep"
  | fuel + 1 => do
    let line ← currentLine
    let rich ← isRich
    let slot := given.getD (.fixed (defaultDescriptor op))
    match ← peek fuel with
    | .word w source => do
      consume
      if op = "<<".toList || op = "<<-".toList then do
        let literal := w.any fun
          | .text _ q => q
          | _ => false
        let delimiter := if literal then plainText w else source
        let body ← takeDocument (op = "<<-".toList) delimiter
        let written := writtenChange given op source ++ '\n' :: body ++ delimiter ++ ['\n']
        if literal then return ([.mk line slot .document [.text body true]], written)
        else do
          let s ← get
          let start := if rich then s.line else s.line + 1
          set (Source.ofText s.reading body start)
          let ps ← pieces fuel .document start
          set s
          return ([.mk line slot .document ps], written)
      else
        let w := withHome ['/'] w
        let written := writtenChange given op source
        let errors : Redirection := .mk line (.fixed 2) (.duplicate false) [.text ['1'] false]
        if op = "&>".toList then return ([.mk line (.fixed 1) (.write false) w, errors], written)
        else if op = "&>>".toList then return ([.mk line (.fixed 1) .extend w, errors], written)
        else match op, w with
          | ['>', '&'], [.text t false] =>
            if rich && given.isNone && t ≠ ['-'] && !t.all Char.isDigit then
              return ([.mk line (.fixed 1) (.write false) w, errors], written)
            else return ([.mk line slot (.duplicate false) w], written)
          | _, _ => return ([.mk line slot (attachment op) w], written)
    | t => unexpected t

/-- Read an alternative after its opening keyword. -/
def branches (fuel : Nat) : Parser Command :=
  match fuel with
  | 0 => fail "too deep"
  | fuel + 1 => do
    let condition ← list fuel false false
    expectKeyword fuel "then"
    let body ← list fuel false false
    let t ← peekOnward fuel
    if t.isKeyword "elif" then do
      consume
      return .branch condition body [← branches fuel]
    else if t.isKeyword "else" then do
      consume
      let otherwise ← list fuel false false
      expectKeyword fuel "fi"
      return .branch condition body otherwise
    else do
      expectKeyword fuel "fi"
      return .branch condition body []

/-- Read the body of a loop. -/
def repeated (fuel : Nat) : Parser (List Command) :=
  match fuel with
  | 0 => fail "too deep"
  | fuel + 1 => do
    let t ← peekOnward fuel
    if (← isRich) && t.isKeyword "\x7b" then do
      consume
      let body ← list fuel false false
      expectKeyword fuel "\x7d"
      return body
    else do
      expectKeyword fuel "do"
      let body ← list fuel false false
      expectKeyword fuel "done"
      return body

/-- Read a loop over words, which may be chosen from a list, or over numbers, after its opening keyword. -/
def each (fuel : Nat) (chosen : Bool) (line : Nat) : Parser Command :=
  match fuel with
  | 0 => fail "too deep"
  | fuel + 1 => do
    let rich ← isRich
    match ← peek fuel with
    | .word [.text name false] _ =>
      if !isName name && !rich then fail "Bad for loop variable"
      else do
        consume
        let t ← peekOnward fuel
        if t.isKeyword "in" then do
          consume
          let (ws, written) ← words fuel
          let t ← peek fuel
          match t with
          | .newline => consume
          | .operator [';'] => consume
          | t => unexpected t
          let body ← repeated fuel
          return if chosen then .menu line name (some ws) written body else .each line name (some ws) written body
        else do
          if t.isOperator ";" then consume
          let body ← repeated fuel
          return if chosen then .menu line name none "\"$@\"" body else .each line name none "\"$@\"" body
    | t =>
      if !rich then fail "Bad for loop variable"
      else match t, (← get).rest with
        | .operator ['('], '(' :: _ => do
          consume
          skip 1
          let (start, a) ← sourced (pieces fuel (.clause 0 ';') line)
          skip 1
          let (condition, b) ← sourced (pieces fuel (.clause 0 ';') line)
          skip 1
          let (step, c) ← sourced (pieces fuel (.sum 0) line)
          if (← peekOnward fuel).isOperator ";" then consume
          let trim (t : Text) : Text := t.dropWhile (· = ' ')
          let written : Text := "((" ++ trim a ++ "; " ++ trim b ++ "; " ++ trim c
          return .counted line start condition step written (← repeated fuel)
        | t, _ => unexpected t

/-- Read words; also gives how they are written. -/
def words (fuel : Nat) : Parser (List Word × Text) :=
  match fuel with
  | 0 => fail "too deep"
  | fuel + 1 => do
    match ← peek fuel with
    | .word w source => do
      consume
      let (rest, written) ← words fuel
      let own := if ← isRich then (Brace.words w).map (withHome ['/']) else [withHome ['/'] w]
      return (own ++ rest, source ++ if written.isEmpty then [] else ' ' :: written)
    | _ => return ([], [])

/-- Read a choice by patterns after its opening keyword. -/
def choice (fuel : Nat) (line : Nat) : Parser Command :=
  match fuel with
  | 0 => fail "too deep"
  | fuel + 1 => do
    match ← peek fuel with
    | .word w source => do
      consume
      expectKeyword fuel "in"
      return .choice line (withHome ['/'] w) source (← arms fuel)
    | t => unexpectedFor t "word"

/-- Read the arms of a choice, and the keyword that closes it. -/
def arms (fuel : Nat) : Parser (List (List Word × Text × List Command × ArmEnd)) :=
  match fuel with
  | 0 => fail "too deep"
  | fuel + 1 => do
    let t ← peekOnward fuel
    if t.isKeyword "esac" then do
      consume
      return []
    else do
      if t.isOperator "(" then consume
      let (ps, written) ← patterns fuel
      let body ← list fuel false true
      let t ← peekOnward fuel
      if t.isKeyword "esac" then do
        consume
        return [(ps, written, body, .done)]
      else if t.isOperator ";&" then do
        consume
        return (ps, written, body, .fallThrough) :: (← arms fuel)
      else if t.isOperator ";;&" then do
        consume
        return (ps, written, body, .tryMore) :: (← arms fuel)
      else do
        expectOperator fuel ";;"
        return (ps, written, body, .done) :: (← arms fuel)

/-- Read the patterns of an arm, and what closes them; also gives how they are written. -/
def patterns (fuel : Nat) : Parser (List Word × Text) :=
  match fuel with
  | 0 => fail "too deep"
  | fuel + 1 => do
    match ← peek fuel with
    | .word w source => do
      consume
      if (← peek fuel).isOperator "|" then do
        consume
        let (ps, written) ← patterns fuel
        return (withHome ['/'] w :: ps, source ++ " | " ++ written)
      else do
        expectOperator fuel ")"
        return ([withHome ['/'] w], source)
    | t => unexpectedFor t "\")\""

/-- Read the rest of a command of words, or the definition of a name; the words and the redirections that have been
read are also there as they are written. -/
def simple (fuel : Nat) (line : Nat) (assignments : List Assignment) (ws : List Word)
    (rs : List Redirection) (written : Text × Text) : Parser Command :=
  match fuel with
  | 0 => fail "too deep"
  | fuel + 1 => do
    let t ← match ws with
      | [] => peekCommand fuel
      | _ => peekArgument fuel
    let s ← get
    let rich := s.dialect = .rich
    match t with
    | .redirection slot op _ => do
      consume
      let (more, t) ← redirection fuel slot op
      simple fuel line assignments ws (rs ++ more) (written.1, written.2 ++ ' ' :: t)
    | .word w source => do
      consume
      let after (t : Text) : Text × Text :=
        (written.1 ++ (if written.1.isEmpty then [] else [' ']) ++ source ++ t, written.2)
      let line := if rich && assignments.length + ws.length + rs.length = 1 then s.line else line
      let opens := rich && s.rest.head? = some '('
      match assignment? s.dialect w, ws, opens with
      | some (.mk name index extend []), [], true => do
        skip 1
        let (es, t) ← sourced (elements fuel line)
        simple fuel line (assignments ++ [.mk name index extend [.elements es]]) ws rs (after ('(' :: t))
      | some a, [], _ => simple fuel line (assignments ++ [homely a]) ws rs (after [])
      | some (.mk _ _ _ []), _ :: _, true =>
        if declaringNames.contains (commandName ws) then do
          skip 1
          let (es, t) ← sourced (elements fuel line)
          simple fuel line assignments (ws ++ [w ++ [.elements es]]) rs (after ('(' :: t))
        else simple fuel line assignments (ws ++ [w]) rs (after [])
      | found, _, _ =>
        let more := if rich then
            (match found with
              | some _ => if declaringNames.contains (commandName ws) then [w] else Brace.words w
              | none => Brace.words w).map (withHome ['/'])
          else [withHome ['/'] w]
        simple fuel line assignments (ws ++ more) rs (after [])
    | t =>
      match t.isOperator "(", assignments, ws, rs with
      | true, [], [w], [] => do
        consume
        expectOperator fuel ")"
        let name := plainText w
        let isPlain := w.length = 1 && isName name && !reservedNames.contains name
        if !rich && !isPlain then fail "Bad function name"
        let _ ← peekOnward fuel
        definition fuel line name
      | _, _, _, _ =>
        let shown := written.1 ++ written.2
        return .simple line assignments ws rs (if written.1.isEmpty then shown.drop 1 else shown)

/-- Read the elements of an array, and the parenthesis after them. -/
def elements (fuel : Nat) (line : Nat) : Parser (List (Option Word × Word)) :=
  match fuel with
  | 0 => fail "too deep"
  | fuel + 1 => do
    match ← peekKeyed fuel .bare with
    | .newline => do
      consume
      elements fuel line
    | .word w _ => do
      consume
      let indexed : Option (Option Word × Word) := match w with
        | .text ('[' :: t) false :: ps => do
          let (index, after) ← upToBracket 0 (if t = [] then ps else .text t false :: ps)
          let (_, value) ← afterSign .rich after
          return (some index, value)
        | _ => none
      match indexed with
      | some e => return e :: (← elements fuel line)
      | none => do
        let rest ← elements fuel line
        return ((Brace.words w).map fun v => (none, withHome ['/'] v)) ++ rest
    | .operator [')'] => do
      consume
      return []
    | .finish => unmatched line [')'] []
    | t => unexpected t

/-- Read a condition up to its closing brackets. -/
def question (fuel : Nat) : Parser Question :=
  match fuel with
  | 0 => fail "too deep"
  | fuel + 1 => do
    let q ← alternative fuel
    let t ← peekOnward fuel
    if t.isKeyword "]]" then do
      consume
      return q
    else strangeQuestion "unexpected token in conditional command" t

/-- Read alternatives of conditions. -/
def alternative (fuel : Nat) : Parser Question :=
  match fuel with
  | 0 => fail "too deep"
  | fuel + 1 => do
    let a ← conjunction fuel
    if (← peekOnward fuel).isOperator "||" then do
      consume
      return .either a (← alternative fuel)
    else return a

/-- Read conditions that hold together. -/
def conjunction (fuel : Nat) : Parser Question :=
  match fuel with
  | 0 => fail "too deep"
  | fuel + 1 => do
    let a ← primary fuel
    if (← peekOnward fuel).isOperator "&&" then do
      consume
      return .both a (← conjunction fuel)
    else return a

/-- Read a single condition. -/
def primary (fuel : Nat) : Parser Question :=
  match fuel with
  | 0 => fail "too deep"
  | fuel + 1 => do
    let t ← peekOnward fuel
    match t with
    | .operator ['('] => do
      consume
      let q ← alternative fuel
      let _ ← peekOnward fuel
      expectOperator fuel ")"
      return q
    | .word w _ =>
      if t.isKeyword "!" then do
        consume
        return .negated (← primary fuel)
      else do
        consume
        let next ← peek fuel
        match next with
        | .redirection none op _ =>
          if op = ['<'] || op = ['>'] then do
            consume
            return .two op w (← operand fuel next)
          else strangeQuestion "conditional binary operator expected" next
        | .word v _ =>
          if next.isKeyword "]]" then return .one ['-', 'n'] w
          else match t.plain?.filter isUnaryQuestion, next.plain?.filter isQuestion with
            | _, some op =>
              if (t.plain?.filter isUnaryQuestion).isSome && (← closesAfter fuel) then return .one (plainText w) v
              else do
                consume
                if op = "=~".toList then do
                  let _ ← takeWhile fun c => c = ' ' || c = '\t'
                  return .two op w (← pieces fuel (.expression 0) (← currentLine))
                else return .two op w (← operand fuel next)
            | some op, none => do
              consume
              return .one op v
            | none, none => strangeQuestion "conditional binary operator expected" next
        | .newline => strangeQuestion "unexpected token `newline', conditional binary operator expected" t
        | .finish => strange next
        | _ => return .one ['-', 'n'] w
    | t => strangeQuestion ("unexpected token `" ++ t.source ++ "' in conditional command") t

/-- Do the brackets of the condition close after the next token? -/
def closesAfter (fuel : Nat) : Parser Bool :=
  match fuel with
  | 0 => fail "too deep"
  | fuel + 1 => do
    let s ← get
    consume
    let t ← peek fuel
    set s
    return t.isKeyword "]]"

/-- Read the second word of a question. -/
def operand (fuel : Nat) (op : Token) : Parser Word :=
  match fuel with
  | 0 => fail "too deep"
  | fuel + 1 => do
    let t ← peek fuel
    match t with
    | .word w _ => do
      consume
      return w
    | t => do
      let s ← get
      let named : Text := match t with
        | .finish => "newline"
        | t => t.source
      throw ⟨s.tokenLine, ["unexpected argument `" ++ named ++ "' to conditional binary operator",
        "syntax error near `" ++ op.source ++ ['\''], '`' :: s.lineText s.tokenLine ++ ['\'']]⟩

end

end Parser

/-- A bound for the depth of reading a text. -/
def Source.depth (s : Source) : Nat :=
  let replaced := s.aliases.entries.foldl (fun n e => n + e.2.length) 0
  16 * (s.rest.length + 2 * replaced + 8)

/-- Read a line of commands. -/
def Source.next (s : Source) : Except SyntaxError (List Command × Source) :=
  (Parser.list s.depth true false).run s

end Rollout.Shell
