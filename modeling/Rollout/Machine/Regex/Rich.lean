import Rollout.Machine.Regex.Basic
import Rollout.Text.Basic

/-!
Reading rich regular expressions, of which the first match counts that is found. Besides the usual operators there
are repetitions that take as little as they can or give nothing back, looks ahead and behind, groups with names, and
letters in parentheses that change what follows them.
-/

namespace Rollout.Regex.Rich

open Escape (isOctal isHex digitsValue)

/-- What changes the meaning of an expression. -/
structure Switches where
  /-- Do letters count the same in both cases? -/
  fold : Bool
  /-- Do anchors stand at newlines inside of the text, too? -/
  lines : Bool
  /-- Does a point stand for a newline, too? -/
  all : Bool
  /-- Do blanks and comments count for nothing? -/
  spaced : Bool

/-- How far the reading of an expression has come. -/
structure Progress where
  /-- The text that is left. -/
  rest : Text
  /-- How many groups have been opened. -/
  opened : Nat
  /-- The groups that have names. -/
  names : List (Text × Nat)
  /-- The greatest number of a group that is referred to. -/
  greatest : Nat
  /-- Do characters mean themselves? -/
  quoted : Bool
  /-- What is in force. -/
  switches : Switches

/-- Reading of an expression; an error is a message. -/
abbrev Reader := StateT Progress (Except Text)

/-- Go on with another text. -/
def goOn (rest : Text) : Reader Unit := modify fun p => { p with rest := rest }

/-! ### Sets of characters -/

/-- The ranges between sorted ranges, from a number on. -/
def gaps : Nat → List (Char × Char) → List (Char × Char)
  | first, [] => if first ≤ 255 then [(Char.ofNat first, Char.ofNat 255)] else []
  | first, r :: rs =>
    (if first < r.1.toNat then [(Char.ofNat first, Char.ofNat (r.1.toNat - 1))] else [])
      ++ gaps (max first (r.2.toNat + 1)) rs

/-- All bytes that are not in ranges. -/
def inverse (ranges : List (Char × Char)) : List (Char × Char) := gaps 0 (ranges.mergeSort fun a b => a.1 ≤ b.1)

/-- The set that a letter behind a backslash stands for. -/
def classOf? (c : Char) : Option CharSet :=
  let blank : CharSet := ⟨false, [('\t', '\t'), (' ', ' '), (Char.ofNat 160, Char.ofNat 160)]⟩
  let vertical : CharSet := ⟨false, [('\n', '\r'), (Char.ofNat 133, Char.ofNat 133)]⟩
  match c with
  | 'd' => some .digit
  | 'D' => some { CharSet.digit with outside := true }
  | 'w' => some .word
  | 'W' => some { CharSet.word with outside := true }
  | 's' => some .space
  | 'S' => some { CharSet.space with outside := true }
  | 'h' => some blank
  | 'H' => some { blank with outside := true }
  | 'v' => some vertical
  | 'V' => some { vertical with outside := true }
  | 'N' => some ⟨true, [('\n', '\n')]⟩
  | _ => none

/-- The ranges of a set. -/
def rangesOf (s : CharSet) : List (Char × Char) := if s.outside then inverse s.ranges else s.ranges

/-- The ranges of the bytes that have a property. -/
def propertyRanges? (name : Text) : Option (List (Char × Char)) :=
  let upper := ('A', 'Z')
  let lower := ('a', 'z')
  let digit := ('0', '9')
  match String.ofList name with
  | "L" => some [upper, lower]
  | "Lu" => some [upper]
  | "Ll" => some [lower]
  | "N" => some [digit]
  | "Nd" => some [digit]
  | "P" => some [('!', '#'), ('%', '*'), (',', '/'), (':', ';'), ('?', '@'), ('[', ']'), ('_', '_'), ('\x7b', '\x7b'),
      ('\x7d', '\x7d')]
  | "S" => some [('$', '$'), ('+', '+'), ('<', '>'), ('^', '^'), ('\x60', '\x60'), ('|', '|'), ('~', '~')]
  | "Z" => some [(' ', ' ')]
  | "Zs" => some [(' ', ' ')]
  | "Cc" => some [('\x00', '\x1f'), ('\x7f', '\x7f')]
  | "Xan" => some [upper, lower, digit]
  | "Xwd" => some CharSet.word.ranges
  | "Xsp" => some CharSet.space.ranges
  | "Any" => some [(Char.ofNat 0, Char.ofNat 255)]
  | _ => none

/-- The set of the bytes with or without a property, behind its letter, and what follows. -/
def property? (letter : Char) (t : Text) : Option (CharSet × Text) :=
  let (name, rest) := match t with
    | '\x7b' :: t =>
      let name := t.takeWhile (· ≠ '\x7d')
      (name, t.drop (name.length + 1))
    | t => (t.take 1, t.drop 1)
  let (turned, name) := match name with
    | '^' :: name => (true, name)
    | name => (false, name)
  if letter ≠ 'p' && letter ≠ 'P' then none
  else (propertyRanges? name).map fun rs => (⟨turned != (letter = 'P'), rs⟩, rest)

/-- The character that a text behind a backslash starts with, and what follows. -/
def character? (t : Text) : Option (Char × Text) :=
  let byte (base : Nat) (ds : Text) : Char := Char.ofNat (digitsValue base ds % 256)
  match t with
  | [] => none
  | 'x' :: '\x7b' :: rest =>
    let ds := rest.takeWhile isHex
    match rest.drop ds.length with
    | '\x7d' :: rest => some (byte 16 ds, rest)
    | _ => none
  | 'o' :: '\x7b' :: rest =>
    let ds := rest.takeWhile isOctal
    match rest.drop ds.length with
    | '\x7d' :: rest => some (byte 8 ds, rest)
    | _ => none
  | 'x' :: rest =>
    let ds := (rest.take 2).takeWhile isHex
    some (byte 16 ds, rest.drop ds.length)
  | 'c' :: c :: rest => some (Char.ofNat (c.toUpper.toNat ^^^ 64), rest)
  | '0' :: rest =>
    let ds := (rest.take 2).takeWhile isOctal
    some (byte 8 ds, rest.drop ds.length)
  | c :: rest => match c with
    | 't' => some ('\t', rest)
    | 'n' => some ('\n', rest)
    | 'r' => some ('\r', rest)
    | 'f' => some ('\x0c', rest)
    | 'e' => some ('\x1b', rest)
    | 'a' => some ('\x07', rest)
    | c => if c.isAlphanum then none else some (c, rest)

/-- What stands in brackets: a character, or ranges. -/
inductive Member
  /-- A character. -/
  | char (c : Char)
  /-- Ranges. -/
  | ranges (rs : List (Char × Char))

/-- What is said about brackets that are not closed. -/
def openBracket : Text := "missing terminating ] for character class"

/-- The name of a class in brackets, whether it is turned around, and what follows. -/
def className? (t : Text) : Option (Bool × Text × Text) :=
  let (turned, t) := match t with
    | '^' :: t => (true, t)
    | t => (false, t)
  let name := t.takeWhile Char.isAlpha
  match t.drop name.length with
  | ':' :: ']' :: rest => some (turned, name, rest)
  | _ => none

/-- The first member of a text in brackets. -/
def member (t : Text) : Except Text (Member × Text) :=
  match t with
  | [] => .error openBracket
  | '[' :: ':' :: rest => match className? rest with
    | some (turned, name, rest) =>
      let ranges := if name = "word".toList then some CharSet.word.ranges else CharSet.named? name
      match ranges with
      | some rs => .ok (.ranges (if turned then inverse rs else rs), rest)
      | none => .error "unknown POSIX class name"
    | none => .ok (.char '[', ':' :: rest)
  | ['\\'] => .error "\\ at end of pattern"
  | '\\' :: 'b' :: rest => .ok (.char '\x08', rest)
  | '\\' :: c :: rest => match ((classOf? c).map fun s => (s, rest)).or (property? c rest) with
    | some (s, rest) => .ok (.ranges (rangesOf s), rest)
    | none =>
      let octal := ((c :: rest).take 3).takeWhile isOctal
      if octal ≠ [] then .ok (.char (Char.ofNat (digitsValue 8 octal % 256)), (c :: rest).drop octal.length)
      else match character? (c :: rest) with
        | some (c, rest) => .ok (.char c, rest)
        | none => .error "unrecognized character follows \\"
  | c :: rest => .ok (.char c, rest)

/-- The ranges up to the closing bracket, which may also stand first. -/
def ranges : Nat → Bool → Text → Except Text (List (Char × Char) × Text)
  | 0, _, _ => .error openBracket
  | fuel + 1, first, t =>
    if !first && t.head? = some ']' then .ok ([], t.drop 1)
    else do
      let (a, rest) ← member t
      let single : List (Char × Char) := match a with
        | .char a => [(a, a)]
        | .ranges rs => rs
      match a, rest with
      | .char a, '-' :: c :: after =>
        if c = ']' then do
          let (more, rest) ← ranges fuel false rest
          return (single ++ more, rest)
        else match ← member (c :: after) with
          | (.char b, rest) => do
            if b < a then throw "range out of order in character class".toList
            let (more, rest) ← ranges fuel false rest
            return ((a, b) :: more, rest)
          | (.ranges rs, rest) => do
            let (more, rest) ← ranges fuel false rest
            return (single ++ ('-', '-') :: rs ++ more, rest)
      | _, _ => do
        let (more, rest) ← ranges fuel false rest
        return (single ++ more, rest)

/-- The expression for a set. -/
def ofSet (s : CharSet) : Reader Regex := do return .char (if (← get).switches.fold then s.folded else s)

/-! ### Repetitions -/

/-- The bounds in braces at the start of a text, and what follows them. -/
def bounds? (t : Text) : Option (Nat × Option Nat × Text) :=
  let first := t.takeWhile Char.isDigit
  match Text.toNat? first, t.drop first.length with
  | some n, '\x7d' :: rest => some (n, some n, rest)
  | some n, ',' :: rest =>
    let second := rest.takeWhile Char.isDigit
    match rest.drop second.length with
    | '\x7d' :: after => some (n, Text.toNat? second, after)
    | _ => none
  | _, _ => none

/-- The repetition at the start of a text, and what follows it. -/
def quantity? (t : Text) : Option (Nat × Option Nat × Text) :=
  match t with
  | '*' :: rest => some (0, none, rest)
  | '+' :: rest => some (1, none, rest)
  | '?' :: rest => some (0, some 1, rest)
  | '\x7b' :: rest => bounds? rest
  | _ => none

/-- How often something may be repeated at most. -/
def maxRepetition : Nat := 65535

/-- The number of characters that the expression matches, if it is always the same. -/
def length? : Regex → Option Nat
  | .char _ => some 1
  | .group _ r => length? r
  | .back _ => none
  | .seq a b => do return (← length? a) + (← length? b)
  | .alt a b => do if (← length? a) = (← length? b) then length? a else none
  | .repeat r least most => if most = some least then (length? r).map (least * ·) else none
  | .reluctant r least most => if most = some least then (length? r).map (least * ·) else none
  | .settled r => length? r
  | _ => some 0

/-- Has each alternative of the expression its own length? -/
def hasLengths : Regex → Bool
  | .alt a b => hasLengths a && hasLengths b
  | r => (length? r).isSome

/-! ### Expressions -/

/-- The end of the text, or the place before the newline at its end. -/
def lastEnd : Regex := .ahead true (.seq (.repeat (.char (.only '\n')) 0 (some 1)) .textEnd)

/-- Leave out blanks and comments if they count for nothing. -/
def skipBlanks : Nat → Reader Unit
  | 0 => return
  | fuel + 1 => do
    let p ← get
    if !p.switches.spaced || p.quoted then return
    match p.rest with
    | '#' :: rest => do
      goOn ((rest.dropWhile (· ≠ '\n')).drop 1)
      skipBlanks fuel
    | c :: rest => do
      if CharSet.space.holds false c then
        goOn rest
        skipBlanks fuel
      else return
    | [] => return

/-- What a group matched, by its number. -/
def reference (n : Nat) : Reader Regex := do
  modify fun p => { p with greatest := max n p.greatest }
  return .back n

/-- The reference to a group by its name, which stands before a character. -/
def namedReference (stop : Char) (t : Text) : Reader Regex := do
  let name := t.takeWhile (· ≠ stop)
  goOn (t.drop (name.length + 1))
  match (← get).names.lookup name with
  | some n => reference n
  | none => throw "reference to non-existent subpattern".toList

/-- The reference by a number, which may be counted back from here, in front of a text. -/
def countedReference (digits rest : Text) : Reader Regex := do
  goOn rest
  match digits with
  | '-' :: ds => reference ((← get).opened + 1 - (Text.toNat? ds).getD 0)
  | ds => reference ((Text.toNat? ds).getD 0)

/-- What stands behind a backslash. -/
def escape (t : Text) : Reader Regex := do
  match t with
  | [] => throw "\\ at end of pattern".toList
  | 'Q' :: rest => do
    modify fun p => { p with
      quoted := true
      rest := rest }
    return .empty
  | 'E' :: rest => do
    goOn rest
    return .empty
  | 'k' :: '\x7b' :: rest => namedReference '\x7d' rest
  | 'k' :: '<' :: rest => namedReference '>' rest
  | 'k' :: '\'' :: rest => namedReference '\'' rest
  | 'g' :: '\x7b' :: rest =>
    let inner := rest.takeWhile (· ≠ '\x7d')
    if inner.all fun c => c.isDigit || c = '-' then countedReference inner (rest.drop (inner.length + 1))
    else namedReference '\x7d' rest
  | 'g' :: rest =>
    let digits := rest.takeWhile fun c => c.isDigit || c = '-'
    countedReference digits (rest.drop digits.length)
  | c :: rest =>
    let simple (r : Regex) : Reader Regex := do
      goOn rest
      return r
    match c with
    | 'A' => simple .textStart
    | 'G' => simple .textStart
    | 'z' => simple .textEnd
    | 'Z' => simple lastEnd
    | 'b' => simple .wordEdge
    | 'B' => simple .noWordEdge
    | 'K' => simple .keep
    | 'R' => simple (.settled (.alt (.seq (.char (.only '\r')) (.char (.only '\n')))
        (.char ⟨false, [('\n', '\r'), (Char.ofNat 133, Char.ofNat 133)]⟩)))
    | 'X' => simple (.char .all)
    | _ => do
      let digits := (c :: rest).takeWhile Char.isDigit
      let n := (Text.toNat? digits).getD 0
      if c ≠ '0' && digits ≠ [] && (n < 10 || n ≤ (← get).opened) then
        countedReference digits ((c :: rest).drop digits.length)
      else if isOctal c then
        let ds := ((c :: rest).take 3).takeWhile isOctal
        goOn ((c :: rest).drop ds.length)
        ofSet (.only (Char.ofNat (digitsValue 8 ds % 256)))
      else match ((classOf? c).map fun s => (s, rest)).or (property? c rest), character? (c :: rest) with
        | some (s, rest), _ => do
          goOn rest
          return .char s
        | none, some (c, rest) => do
          goOn rest
          ofSet (.only c)
        | none, none => do
          if c = 'c' then throw "\\c at end of pattern".toList
          if c = 'p' || c = 'P' then throw "unknown property name after \\P or \\p".toList
          throw "unrecognized character follows \\".toList

/-- The switches after letters that turn them on, or off behind a dash. -/
def switched : Bool → Switches → Text → Option Switches
  | _, s, [] => some s
  | on, s, c :: cs => match c with
    | '-' => switched false s cs
    | '^' => switched on ⟨false, false, false, false⟩ cs
    | 'i' => switched on { s with fold := on } cs
    | 'm' => switched on { s with lines := on } cs
    | 's' => switched on { s with all := on } cs
    | 'x' => switched on { s with spaced := on } cs
    | 'n' => switched on s cs
    | 'a' => switched on s cs
    | 'u' => switched on s cs
    | _ => none

/-- The expression for a single sign, the first of a text. -/
def sign (c : Char) (rest : Text) : Reader Regex := do
  goOn rest
  let s := (← get).switches
  match c with
  | '.' => return .char (if s.all then .all else ⟨true, [('\n', '\n')]⟩)
  | '^' => return if s.lines then .lineStart else .textStart
  | '$' => return if s.lines then .lineEnd else lastEnd
  | '[' => do
    let (outside, t) := match rest with
      | '^' :: t => (true, t)
      | t => (false, t)
    let (rs, rest) ← liftM (ranges (t.length + 1) true t)
    goOn rest
    return .char ⟨outside, if s.fold then CharSet.bothCases rs else rs⟩
  | '\\' => escape rest
  | c => ofSet (.only c)

/-- The expression with the repetition that follows it. -/
def withQuantity (r : Regex) : Reader Regex := do
  skipBlanks (← get).rest.length
  match quantity? (← get).rest with
  | none => return r
  | some (least, most, rest) => do
    if maxRepetition < most.getD least then throw "number too big in \x7b\x7d quantifier".toList
    if most.any (· < least) then throw "numbers out of order in \x7b\x7d quantifier".toList
    match rest with
    | '?' :: rest => do
      goOn rest
      return .reluctant r least most
    | '+' :: rest => do
      goOn rest
      return .settled (.repeat r least most)
    | rest => do
      goOn rest
      return .repeat r least most

/-- What is said about a group that is not closed. -/
def openGroup : Text := "missing closing parenthesis"

/-- Read what closes a group, and give the switches back their state. -/
def closeGroup (s : Switches) : Reader Unit := do
  match (← get).rest with
  | ')' :: rest => modify fun p => { p with
    rest := rest
    switches := s }
  | _ => throw openGroup

mutual

/-- Read alternatives. -/
def alternatives : Nat → Reader Regex
  | 0 => throw "regular expression is too large".toList
  | fuel + 1 => do
    let a ← branch fuel
    match (← get).rest with
    | '|' :: rest => do
      goOn rest
      return .alt a (← alternatives fuel)
    | _ => return a

/-- Read expressions one after another. -/
def branch : Nat → Reader Regex
  | 0 => throw "regular expression is too large".toList
  | fuel + 1 => do
    let p ← get
    if p.quoted then
      match p.rest with
      | [] => return .empty
      | '\\' :: 'E' :: rest => do
        modify fun p => { p with
          quoted := false
          rest := rest }
        branch fuel
      | c :: rest => do
        goOn rest
        let r ← ofSet (.only c)
        let next ← get
        let r ← match next.rest with
          | '\\' :: 'E' :: rest => do
            modify fun p => { p with
              quoted := false
              rest := rest }
            withQuantity r
          | _ => pure r
        return .seq r (← branch fuel)
    else do
      skipBlanks p.rest.length
      match (← get).rest with
      | [] => return .empty
      | '|' :: _ => return .empty
      | ')' :: _ => return .empty
      | t => do
        if (quantity? t).isSome then throw "quantifier does not follow a repeatable item".toList
        let r ← item fuel
        let r ← if (← get).quoted then pure r else withQuantity r
        match ← branch fuel with
        | .empty => return r
        | b => return .seq r b

/-- Read an expression without the repetition that may follow. -/
def item : Nat → Reader Regex
  | 0 => throw "regular expression is too large".toList
  | fuel + 1 => do
    match (← get).rest with
    | '(' :: '?' :: rest => special fuel rest
    | '(' :: '*' :: rest => do
      goOn ((rest.dropWhile (· ≠ ')')).drop 1)
      return .empty
    | '(' :: rest => do
      goOn rest
      numbered fuel
    | c :: rest => sign c rest
    | [] => return .empty

/-- Read a group that has a number. -/
def numbered : Nat → Reader Regex
  | 0 => throw "regular expression is too large".toList
  | fuel + 1 => do
    let s := (← get).switches
    modify fun p => { p with opened := p.opened + 1 }
    let n := (← get).opened
    let r ← alternatives fuel
    closeGroup s
    return .group n r

/-- Read what a parenthesis with a question mark opens. -/
def special : Nat → Text → Reader Regex
  | 0, _ => throw "regular expression is too large".toList
  | fuel + 1, t => do
    let inside (rest : Text) : Reader Regex := do
      goOn rest
      let s := (← get).switches
      let r ← alternatives fuel
      closeGroup s
      return r
    let fixed (wanted : Bool) (rest : Text) : Reader Regex := do
      let r ← inside rest
      if !hasLengths r then throw "lookbehind assertion is not fixed length".toList
      return .behind wanted r
    let named (stop : Char) (rest : Text) : Reader Regex := do
      let name := rest.takeWhile (· ≠ stop)
      let p ← get
      set { p with
        rest := rest.drop (name.length + 1)
        names := (name, p.opened + 1) :: p.names }
      numbered fuel
    match t with
    | '#' :: rest => do
      goOn ((rest.dropWhile (· ≠ ')')).drop 1)
      return .empty
    | ':' :: rest => inside rest
    | '|' :: rest => inside rest
    | '>' :: rest => do return .settled (← inside rest)
    | '=' :: rest => do return .ahead true (← inside rest)
    | '!' :: rest => do return .ahead false (← inside rest)
    | '<' :: '=' :: rest => fixed true rest
    | '<' :: '!' :: rest => fixed false rest
    | '<' :: rest => named '>' rest
    | '\'' :: rest => named '\'' rest
    | 'P' :: '<' :: rest => named '>' rest
    | 'P' :: '=' :: rest => namedReference ')' rest
    | t => do
      let letters := t.takeWhile fun c => c.isAlpha || c = '-' || c = '^'
      let p ← get
      match switched true p.switches letters, t.drop letters.length with
      | some s, ')' :: rest => do
        set { p with
          rest := rest
          switches := s }
        return .empty
      | some s, ':' :: rest => do
        set { p with switches := s }
        goOn rest
        let r ← alternatives fuel
        closeGroup p.switches
        return r
      | _, _ => throw "unrecognized character after (? or (?-".toList

end

/-- Read an expression; also gives the names of its groups. -/
def compile (s : Switches) (t : Text) : Except Text (Compiled × List (Text × Nat)) := do
  let (r, p) ← (alternatives (4 * (t.length + 4))).run ⟨t, 0, [], 0, false, s⟩
  if p.rest ≠ [] then throw "unmatched closing parenthesis".toList
  if p.opened < p.greatest then throw "reference to non-existent subpattern".toList
  return (⟨r, ⟨s.fold, true, r.hasBack, false⟩⟩, p.names)

end Rollout.Regex.Rich
