import Rollout.Machine.Regex.Basic

/-!
Reading regular expressions. In the basic form parentheses, braces and the bar have their meaning behind a
backslash, in the extended form without one.
-/

namespace Rollout.Regex

/-- What an operator means where there is nothing that it could repeat. -/
inductive Lonely
  /-- Itself. -/
  | literal
  /-- Nothing. -/
  | skipped
  /-- It makes no sense. -/
  | refused
  deriving DecidableEq

/-- How expressions are written. -/
structure Grammar where
  /-- Do parentheses, braces and the bar have their meaning without a backslash? -/
  extended : Bool
  /-- What does an operator mean that repeats nothing? -/
  lonely : Lonely
  /-- Does a closing parenthesis mean itself where nothing has been opened? -/
  loneClose : Bool
  /-- Does an opening brace mean itself where no interval follows? -/
  looseBrace : Bool
  /-- Is only one repetition allowed, and an interval only where it repeats something? -/
  single : Bool
  /-- Does a range stand for nothing if it ends before it starts? -/
  emptyRanges : Bool

/-- Why a text is no expression. -/
inductive Fault
  | pattern | bracket | open_ | close | brace | interval | range | backReference | backslash | className
  | collation | repetition | size
  deriving DecidableEq

/-- What is said about a text that is no expression. -/
def Fault.message : Fault → Text
  | .pattern => "Invalid regular expression"
  | .bracket => "Unmatched [, [^, [:, [., or [="
  | .open_ => "Unmatched ( or \\("
  | .close => "Unmatched ) or \\)"
  | .brace => "Unmatched \\\x7b"
  | .interval => "Invalid content of \\\x7b\\\x7d"
  | .range => "Invalid range end"
  | .backReference => "Invalid back reference"
  | .backslash => "Trailing backslash"
  | .className => "Invalid character class name"
  | .collation => "Invalid collation character"
  | .repetition => "Invalid preceding regular expression"
  | .size => "Regular expression too big"

/-! ### Brackets -/

/-- What stands in brackets. -/
inductive Member
  /-- A character. -/
  | char (c : Char)
  /-- Characters between which and others there is no range. -/
  | ranges (rs : List (Char × Char))

/-- The name in brackets up to its end, which is a mark with a closing bracket. -/
def bracketName (mark : Char) : Text → Except Fault (Text × Text)
  | c :: ']' :: rest =>
    if c = mark then .ok ([], rest) else (bracketName mark (']' :: rest)).map fun (t, rest) => (c :: t, rest)
  | c :: rest => (bracketName mark rest).map fun (t, rest) => (c :: t, rest)
  | [] => .error .bracket

/-- The member of a set at the start of a text in brackets. -/
def member (t : Text) : Except Fault (Member × Text) :=
  match t with
  | [] => .error .bracket
  | '[' :: ':' :: rest => do
    let (name, rest) ← bracketName ':' rest
    match CharSet.named? name with
    | some rs => return (.ranges rs, rest)
    | none => throw .className
  | '[' :: '.' :: rest => do
    match ← bracketName '.' rest with
    | ([c], rest) => return (.char c, rest)
    | _ => throw .collation
  | '[' :: '=' :: rest => do
    match ← bracketName '=' rest with
    | ([c], rest) => return (.ranges [(c, c)], rest)
    | _ => throw .collation
  | c :: rest => .ok (.char c, rest)

/-- Does the text go on with the second half of a range? -/
def isRangeEnd : Text → Bool
  | '-' :: ']' :: _ => false
  | '-' :: _ => true
  | _ => false

/-- The ranges up to the closing bracket, which may also stand first. -/
def bracketRanges (gr : Grammar) : Nat → Bool → Text → Except Fault (List (Char × Char) × Text)
  | 0, _, _ => .error .bracket
  | fuel + 1, first, t =>
    if !first && t.head? = some ']' then .ok ([], t.drop 1)
    else if !first && isRangeEnd t then .error (if t.length = 1 then .bracket else .range)
    else do
      let (a, rest) ← member t
      match a with
      | .char a => do
        if isRangeEnd rest then
          match ← member (rest.drop 1) with
          | (.char b, rest) => do
            if b < a && !gr.emptyRanges then throw .range
            let (more, rest) ← bracketRanges gr fuel false rest
            return ((a, b) :: more, rest)
          | _ => throw .range
        else
          let (more, rest) ← bracketRanges gr fuel false rest
          return ((a, a) :: more, rest)
      | .ranges rs => do
        let (more, rest) ← bracketRanges gr fuel false rest
        return (rs ++ more, rest)

/-- A set after its opening bracket. -/
def bracketSet (gr : Grammar) (t : Text) : Except Fault (CharSet × Text) := do
  let (outside, t) := match t with
    | '^' :: t => (true, t)
    | t => (false, t)
  if t = [] then throw .pattern
  let (ranges, rest) ← bracketRanges gr (t.length + 1) true t
  return (⟨outside, ranges⟩, rest)

/-! ### Repetitions -/

/-- How often something may be repeated at most. -/
def maxRepetition : Nat := 32767

/-- A bound of a repetition. -/
inductive Bound
  /-- There is none. -/
  | absent
  /-- A number. -/
  | number (n : Nat)
  /-- It is no number. -/
  | wrong
  deriving DecidableEq

/-- The bound that a text is. -/
def Bound.ofText (t : Text) : Bound :=
  if t = [] then .absent else match Text.toNat? t with
    | some n => .number n
    | none => .wrong

/-- The text up to a comma or a closing brace, whether it was a comma, and what follows. -/
def upToBound (gr : Grammar) : Text → Option (Text × Bool × Text)
  | [] => none
  | ',' :: rest => some ([], true, rest)
  | '\\' :: '\x7d' :: rest =>
    if gr.extended then (upToBound gr ('\x7d' :: rest)).map fun (t, rest) => ('\\' :: t, rest)
    else some ([], false, rest)
  | c :: rest =>
    if gr.extended && c = '\x7d' then some ([], false, rest)
    else (upToBound gr rest).map fun (t, rest) => (c :: t, rest)

/-- The bounds of a repetition up to its closing brace; `none` if the brace means itself. -/
def interval (gr : Grammar) (t : Text) : Except Fault (Option (Nat × Option Nat × Text)) :=
  let loose (e : Fault) : Except Fault (Option (Nat × Option Nat × Text)) :=
    if gr.looseBrace then .ok none else .error e
  let checked (least : Nat) (most : Option Nat) (rest : Text) :
      Except Fault (Option (Nat × Option Nat × Text)) :=
    if most.any (· < least) then .error .interval
    else if maxRepetition < most.getD least then .error .size
    else .ok (some (least, most, rest))
  match upToBound gr t with
  | none => loose .brace
  | some (first, comma, rest) => match Bound.ofText first, comma with
    | .absent, false => .error .interval
    | .wrong, _ => loose .interval
    | .number n, false => checked n (some n) rest
    | b, true =>
      let least := match b with
        | .number n => n
        | _ => 0
      match upToBound gr rest with
      | none => loose .brace
      | some (second, again, rest) => match Bound.ofText second with
        | .wrong => loose .interval
        | b => if again then .error .interval else match b with
          | .number n => checked least (some n) rest
          | _ => checked least none rest

/-- An operator that repeats what stands before it. -/
inductive Repeater
  /-- An operator of one sign. -/
  | sign (least : Nat) (most : Option Nat)
  /-- An opening brace. -/
  | brace

/-- The operator at the start of a text, its spelling without the backslash, and what follows. -/
def repeater? (gr : Grammar) (t : Text) : Option (Repeater × Char × Text) :=
  match gr.extended, t with
  | _, '*' :: t => some (.sign 0 none, '*', t)
  | true, '+' :: t => some (.sign 1 none, '+', t)
  | true, '?' :: t => some (.sign 0 (some 1), '?', t)
  | true, '\x7b' :: t => some (.brace, '\x7b', t)
  | false, '\\' :: '+' :: t => some (.sign 1 none, '+', t)
  | false, '\\' :: '?' :: t => some (.sign 0 (some 1), '?', t)
  | false, '\\' :: '\x7b' :: t => some (.brace, '\x7b', t)
  | _, _ => none

/-- A repetition of an expression, if one follows. -/
def repetition? (gr : Grammar) (t : Text) : Except Fault (Option (Nat × Option Nat × Text)) :=
  match repeater? gr t with
  | some (.sign least most, _, rest) => .ok (some (least, most, rest))
  | some (.brace, _, rest) => interval gr rest
  | none => .ok none

/-- An expression with the repetitions that follow it. -/
def repeated (gr : Grammar) : Nat → Regex → Text → Except Fault (Regex × Text)
  | 0, r, t => .ok (r, t)
  | fuel + 1, r, t => do
    match ← repetition? gr t with
    | some (least, most, rest) => do
      if gr.single then match repeater? gr rest with
        | some (_, '*', _) => throw .repetition
        | some (_, '\x7b', _) => throw .repetition
        | _ => pure ()
      repeated gr fuel (.repeat r least most) rest
    | none => return (r, t)

/-! ### Expressions -/

/-- What a letter behind a backslash means by itself. -/
def special? : Char → Option Regex
  | 'w' => some (.char CharSet.word)
  | 'W' => some (.char { CharSet.word with outside := true })
  | 's' => some (.char CharSet.space)
  | 'S' => some (.char { CharSet.space with outside := true })
  | '<' => some .wordStart
  | '>' => some .wordEnd
  | 'b' => some .wordEdge
  | 'B' => some .noWordEdge
  | '`' => some .textStart
  | '\'' => some .textEnd
  | _ => none

/-- Does the expression stand for a place, which cannot be repeated? -/
def isAnchor : Regex → Bool
  | .lineStart => true
  | .lineEnd => true
  | .textStart => true
  | .textEnd => true
  | .wordStart => true
  | .wordEnd => true
  | .wordEdge => true
  | .noWordEdge => true
  | _ => false

/-- Does the text start with what opens a group? -/
def opens? (gr : Grammar) (t : Text) : Option Text :=
  match gr.extended, t with
  | true, '(' :: t => some t
  | false, '\\' :: '(' :: t => some t
  | _, _ => none

/-- Does the text start with what closes a group? -/
def closes? (gr : Grammar) (t : Text) : Option Text :=
  match gr.extended, t with
  | true, ')' :: t => some t
  | false, '\\' :: ')' :: t => some t
  | _, _ => none

/-- Does the text start with a bar? -/
def bar? (gr : Grammar) (t : Text) : Option Text :=
  match gr.extended, t with
  | true, '|' :: t => some t
  | false, '\\' :: '|' :: t => some t
  | _, _ => none

/-- Is nothing of a branch left? -/
def endsBranch (gr : Grammar) (depth : Nat) (t : Text) : Bool :=
  t.isEmpty || (bar? gr t).isSome || (depth ≠ 0 && (closes? gr t).isSome)

/-- An expression without what follows it, if it is no group and no operator. Where a circumflex stands at the
start, it is an anchor. -/
def single (gr : Grammar) (start : Bool) (groups : List Nat) (t : Text) : Except Fault (Regex × Text) :=
  match t with
  | [] => .ok (.empty, [])
  | '.' :: rest => .ok (.char .all, rest)
  | '[' :: rest => (bracketSet gr rest).map fun (s, rest) => (.char s, rest)
  | '^' :: rest => .ok (if gr.extended || start then .lineStart else .char (.only '^'), rest)
  | '$' :: rest =>
    let isEnd := gr.extended || rest.isEmpty || (bar? gr rest).isSome || (closes? gr rest).isSome
    .ok (if isEnd then .lineEnd else .char (.only '$'), rest)
  | ['\\'] => .error .backslash
  | '\\' :: c :: rest =>
    if c.isDigit && c ≠ '0' then
      let k := c.toNat - '0'.toNat
      if groups.contains k then .ok (.back k, rest) else .error .backReference
    else .ok ((special? c).getD (.char (.only c)), rest)
  | c :: rest => .ok (.char (.only c), rest)

/-- How far the reading of an expression has come. -/
structure Progress where
  /-- The text that is left. -/
  rest : Text
  /-- How many groups have been opened. -/
  opened : Nat
  /-- The groups that are closed. -/
  closed : List Nat
  /-- The operators that repeat nothing and were skipped, the latest first. -/
  idle : List Char

mutual

/-- Read alternatives. -/
def alternatives (gr : Grammar) : Nat → Nat → Progress → Except Fault (Regex × Progress)
  | 0, _, _ => .error .size
  | fuel + 1, depth, p => do
    let (a, p) ← branch gr fuel depth true p
    match bar? gr p.rest with
    | some rest => do
      let (b, p) ← alternatives gr fuel depth { p with rest := rest }
      return (.alt a b, p)
    | none => return (a, p)

/-- Read expressions one after another. -/
def branch (gr : Grammar) : Nat → Nat → Bool → Progress → Except Fault (Regex × Progress)
  | 0, _, _, _ => .error .size
  | fuel + 1, depth, start, p => do
    if endsBranch gr depth p.rest then return (.empty, p)
    let (a, p) ← atom gr fuel depth start p
    let (b, p) ← branch gr fuel depth false p
    return (match b with
      | .empty => a
      | b => .seq a b, p)

/-- Read an expression with the repetitions that follow it. -/
def atom (gr : Grammar) : Nat → Nat → Bool → Progress → Except Fault (Regex × Progress)
  | 0, _, _, _ => .error .size
  | fuel + 1, depth, start, p => do
    let finish (r : Regex) (p : Progress) : Except Fault (Regex × Progress) :=
      if isAnchor r then .ok (r, p)
      else (repeated gr (p.rest.length + 1) r p.rest).map fun (r, rest) => (r, { p with rest := rest })
    match opens? gr p.rest with
    | some rest => do
      let n := p.opened + 1
      let (r, p) ← alternatives gr fuel (depth + 1) { p with rest := rest, opened := n }
      match closes? gr p.rest with
      | some rest => finish (.group n r) { p with rest := rest, closed := n :: p.closed }
      | none => throw .open_
    | none => match closes? gr p.rest with
      | some rest =>
        if gr.loneClose then finish (.char (.only ')')) { p with rest := rest } else throw .close
      | none => match repeater? gr p.rest with
        | some (kind, c, rest) => do
          let isBrace := match kind with
            | .brace => true
            | _ => false
          if isBrace && gr.single then throw .repetition
          let isLoose := isBrace && gr.looseBrace && match interval gr rest with
            | .ok none => true
            | _ => false
          match if isLoose then .literal else gr.lonely with
          | .literal => finish (.char (.only c)) { p with rest := rest }
          | .refused => throw .repetition
          | .skipped =>
            let p := { p with rest := rest, idle := c :: p.idle }
            if endsBranch gr depth rest then return (.empty, p) else atom gr fuel depth false p
        | none => do
          let (r, rest) ← single gr start p.closed p.rest
          finish r { p with rest := rest }

end

/-- Read an expression; also gives the operators that were skipped. -/
def parse (gr : Grammar) (t : Text) : Except Fault (Regex × List Char) := do
  let (r, p) ← alternatives gr (4 * (t.length + 4)) 0 ⟨t, 0, [], []⟩
  if p.rest = [] then return (r, p.idle.reverse) else throw .close

/-- Read an expression that is matched with or without regard to case, in one line or in several. -/
def compile (gr : Grammar) (fold lines : Bool) (t : Text) : Except Fault Compiled := do
  let (r, _) ← parse gr t
  return ⟨r, ⟨fold, lines, r.hasBack, true⟩⟩

/-- The basic form. -/
def basic : Grammar where
  extended := false
  lonely := .literal
  loneClose := false
  looseBrace := false
  single := false
  emptyRanges := false

/-- The basic form of `expr`, where a range may be empty. -/
def lenient : Grammar := { basic with emptyRanges := true }

/-- The extended form. -/
def extended : Grammar where
  extended := true
  lonely := .refused
  loneClose := true
  looseBrace := false
  single := false
  emptyRanges := false

end Rollout.Regex
