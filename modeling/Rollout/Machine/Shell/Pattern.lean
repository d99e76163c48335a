import Rollout.Machine.Regex.Basic
import Rollout.Machine.Shell.Command

/-!
Patterns that cover texts: a star covers any text, a question mark one character, and brackets one character of a
set. The rich dialect also has groups of alternatives.
-/

namespace Rollout.Shell

/-- A part of a pattern. -/
inductive PatternPart
  /-- The character itself. -/
  | only (c : Char)
  /-- One character. -/
  | one
  /-- Any number of characters. -/
  | many
  /-- One character of a set. -/
  | among (s : CharSet)
  /-- What alternatives cover, as often as the mark says. -/
  | group (mark : Char) (alternatives : List (List PatternPart))

/-- A pattern is a list of parts. -/
abbrev Pattern := List PatternPart

namespace Pattern

/-! ### Covering -/

/-- All ends of a text, from the whole text on. -/
def ends : Text → List Text
  | [] => [[]]
  | c :: cs => (c :: cs) :: ends cs

/-- Ends of the same text without repetitions, the longest first. -/
def merge (ts us : List Text) : List Text :=
  ((ts ++ us).mergeSort fun a b => b.length ≤ a.length).foldr
    (fun t rest => if (rest.head?.map List.length) = some t.length then rest else t :: rest) []

/-- The ends after one character that passes a test. -/
def afterChar (p : Char → Bool) (ts : List Text) : List Text :=
  ts.filterMap fun
    | c :: cs => if p c then some cs else none
    | [] => none

/-- Repeat a step as long as there are new ends. -/
def closure (step : List Text → List Text) : Nat → List Text → List Text
  | 0, ts => ts
  | fuel + 1, ts =>
    let more := merge ts (step ts)
    if more.length = ts.length then ts else closure step fuel more

mutual

/-- What is left of ends after a part has covered as much of them as it may. -/
def afterPart (fuel : Nat) (p : PatternPart) (ts : List Text) : List Text :=
  match fuel with
  | 0 => []
  | fuel + 1 => match p with
    | .only c => afterChar (· = c) ts
    | .one => afterChar (fun _ => true) ts
    | .among s => afterChar (s.holds false) ts
    | .many => match ts with
      | [] => []
      | t :: _ => ends t
    | .group mark as =>
      let once (us : List Text) : List Text := as.foldl (fun found a => merge found (after fuel a us)) []
      let often (us : List Text) : List Text := closure once (((us.head?).map List.length).getD 0 + 1) us
      match mark with
      | '?' => merge ts (once ts)
      | '*' => often ts
      | '+' => often (once ts)
      | '!' => ts.foldl (fun found t =>
          let barred := once [t]
          merge found ((ends t).filter fun u => barred.all (·.length ≠ u.length))) []
      | _ => once ts

/-- What is left of ends after a pattern has covered as much of them as it may. -/
def after (fuel : Nat) (ps : Pattern) (ts : List Text) : List Text :=
  match fuel with
  | 0 => []
  | fuel + 1 => match ps with
    | [] => ts
    | p :: ps => after fuel ps (afterPart fuel p ts)

end

mutual

/-- A bound for the depth of covering with a part. -/
def partDepth : PatternPart → Nat
  | .group _ as => groupDepth as + 2
  | _ => 2

/-- A bound for the depth of covering with a pattern. -/
def depth : List PatternPart → Nat
  | [] => 1
  | p :: ps => partDepth p + depth ps + 1

/-- A bound for the depth of covering with alternatives. -/
def groupDepth : List (List PatternPart) → Nat
  | [] => 1
  | p :: ps => depth p + groupDepth ps + 1

end

/-- What may be left of a text when a pattern has covered its start, the longest first. -/
def rests (p : Pattern) (t : Text) : List Text := after (depth p) p [t]

/-- Does the pattern cover the text? -/
def covers (p : Pattern) (t : Text) : Bool := (rests p t).any List.isEmpty

/-! ### Reading -/

/-- A character with a mark whether it was quoted, so that it means itself. -/
abbrev Marked := Char × Bool

/-- The ranges of a class of characters that has a name between colons, and what follows its bracket. -/
def classAt (cs : List Marked) : Option (List (Char × Char) × List Marked) :=
  match cs with
  | ('[', false) :: (':', _) :: rest =>
    let name := rest.takeWhile fun c => c.1 ≠ ':'
    match rest.drop name.length with
    | (':', _) :: (']', _) :: after => (CharSet.named? (name.map (·.1))).map fun rs => (rs, after)
    | _ => none
  | _ => none

/-- A character of a set, which may stand behind a backslash, and what follows it. -/
def memberAt : List Marked → Option (Char × List Marked)
  | ('\\', false) :: (c, _) :: cs => some (c, cs)
  | (c, _) :: cs => some (c, cs)
  | [] => none

/-- The ranges up to the closing bracket, which may also stand first, and what follows it. -/
def ranges : Nat → Bool → List Marked → Option (List (Char × Char) × List Marked)
  | 0, _, _ => none
  | _, _, [] => none
  | fuel + 1, first, cs =>
    if !first && cs.head? = some (']', false) then some ([], cs.drop 1)
    else match classAt cs with
      | some (found, rest) => (ranges fuel false rest).map fun (rs, rest) => (found ++ rs, rest)
      | none => do
        let (a, rest) ← memberAt cs
        match rest with
        | ('-', false) :: next =>
          if next.head? = some (']', false) || next = [] then
            (ranges fuel false rest).map fun (rs, rest) => ((a, a) :: rs, rest)
          else do
            let (b, rest) ← memberAt next
            (ranges fuel false rest).map fun (rs, rest) => ((a, b) :: rs, rest)
        | rest => (ranges fuel false rest).map fun (rs, rest) => ((a, a) :: rs, rest)

/-- A set in brackets, after the opening one. -/
def set (d : Dialect) (cs : List Marked) : Option (PatternPart × List Marked) :=
  let read (outside : Bool) (cs : List Marked) : Option (PatternPart × List Marked) :=
    (ranges (cs.length + 1) true cs).map fun (rs, rest) => (.among ⟨outside, rs⟩, rest)
  match d, cs with
  | _, ('!', false) :: cs => read true cs
  | .rich, ('^', false) :: cs => read true cs
  | _, cs => read false cs

/-- The alternatives up to the closing parenthesis, and what follows it; with so many parentheses open, and the
characters of the current alternative in reverse. -/
def alternativesAt : Nat → List Marked → List Marked → Option (List (List Marked) × List Marked)
  | _, _, [] => none
  | 0, current, (')', false) :: cs => some ([current.reverse], cs)
  | n + 1, current, (')', false) :: cs => alternativesAt n ((')', false) :: current) cs
  | n, current, ('(', false) :: cs => alternativesAt (n + 1) (('(', false) :: current) cs
  | 0, current, ('|', false) :: cs => (alternativesAt 0 [] cs).map fun (as, rest) => (current.reverse :: as, rest)
  | n, current, c :: cs => alternativesAt n (c :: current) cs

/-- Is it a mark in front of alternatives? -/
def isGroupMark (c : Char) : Bool := "?*+@!".toList.contains c

/-- The pattern that the characters form. A bracket that is not closed means itself. -/
def read (d : Dialect) (groups : Bool) : Nat → List Marked → Pattern
  | 0, _ => []
  | _, [] => []
  | fuel + 1, (c, quoted) :: cs =>
    let grouped : Option (PatternPart × List Marked) :=
      if groups && !quoted && isGroupMark c && cs.head? = some ('(', false) then
        (alternativesAt 0 [] (cs.drop 1)).map fun (as, rest) => (.group c (as.map (read d groups fuel)), rest)
      else none
    match grouped with
    | some (p, rest) => p :: read d groups fuel rest
    | none =>
      if quoted then .only c :: read d groups fuel cs
      else match c with
        | '*' => .many :: read d groups fuel cs
        | '?' => .one :: read d groups fuel cs
        | '[' => match set d cs with
          | some (p, rest) => p :: read d groups fuel rest
          | none => .only '[' :: read d groups fuel cs
        | '\\' => match cs with
          | (e, _) :: cs => .only e :: read d groups fuel cs
          | [] => [.only '\\']
        | c => .only c :: read d groups fuel cs

/-- The pattern that the characters form. -/
def ofMarked (d : Dialect) (groups : Bool) (cs : List Marked) : Pattern := read d groups (cs.length + 1) cs

/-- Is there a character in it that has another meaning than itself? -/
def isSpecial (groups : Bool) : List Marked → Bool
  | [] => false
  | (c, quoted) :: cs =>
    (!quoted && (c = '*' || c = '?' || (c = '[' && cs.any fun e => e = (']', false))
      || (groups && isGroupMark c && cs.head? = some ('(', false)))) || isSpecial groups cs

/-! ### Covering parts of a text -/

/-- All starts of a text, from the empty one on. -/
def starts : Text → List Text
  | [] => [[]]
  | c :: cs => [] :: (starts cs).map (c :: ·)

/-- The text without the shortest or longest end or start that the pattern covers. -/
def trim (p : Pattern) (atEnd longest : Bool) (t : Text) : Text :=
  if atEnd then
    let candidates := if longest then starts t else (starts t).reverse
    (candidates.find? fun s => covers p (t.drop s.length)).getD t
  else
    let found := rests p t
    ((if longest then found.getLast? else found.head?)).getD t

/-- Texts one after another with a null character between two of them, without the shortest or longest end or start
of all of it that the pattern covers; it is only asked to cover what stands before a null character, and what is
looked at from the start on ends at one. -/
def trimJoined (p : Pattern) (atEnd longest : Bool) (ts : List Text) : List Text :=
  let t := Text.join ['\x00'] ts
  let covered (part : Text) : Bool := covers p (part.takeWhile (· ≠ '\x00'))
  let sizes := if atEnd = longest then List.range ((t.takeWhile (· ≠ '\x00')).length + 1)
    else (List.range (t.length + 1)).reverse
  let kept := if atEnd then (sizes.find? fun n => covered (t.drop n)).map t.take
    else (sizes.find? fun n => covered (t.take n)).map t.drop
  Text.split '\x00' (kept.getD t)

/-- The longest text at the start that the pattern covers. -/
def longestAt (p : Pattern) (t : Text) : Option Text :=
  ((rests p t).getLast?).map fun rest => t.take (t.length - rest.length)

/-- The text with other texts in place of what the pattern covers, perhaps only the first. -/
def replaceFrom (p : Pattern) (replacement : Text → Text) (every : Bool) : Nat → Text → Text
  | 0, t => t
  | _, [] => []
  | fuel + 1, c :: cs => match longestAt p (c :: cs) with
    | some (d :: found) =>
      let rest := cs.drop found.length
      replacement (d :: found) ++ (if every then replaceFrom p replacement every fuel rest else rest)
    | _ => c :: replaceFrom p replacement every fuel cs

/-- The text with other texts in place of what the pattern covers. -/
def replace (p : Pattern) (replacement : Text → Text) (which : Replacing) (t : Text) : Text :=
  match which with
  | .first => replaceFrom p replacement false (t.length + 1) t
  | .every => replaceFrom p replacement true (t.length + 1) t
  | .atStart => match longestAt p t with
    | some found => replacement found ++ t.drop found.length
    | none => t
  | .atEnd =>
    let start := trim p true true t
    if start.length < t.length || covers p [] then start ++ replacement (t.drop start.length) else t

end Pattern

end Rollout.Shell
