import Rollout.Text.Basic

/-!
Regular expressions, and how they match: of all matches the one that starts first counts, and of those the
longest, or the one that is found first. Alternatives are tried in order, and repetitions take as much as they can
unless they are reluctant.
-/

namespace Rollout

/-- A set of characters: those inside, or outside, of ranges. -/
structure CharSet where
  /-- Does the set hold what is outside of the ranges? -/
  outside : Bool
  /-- The ranges. -/
  ranges : List (Char × Char)
  deriving DecidableEq

namespace CharSet

/-- Every character. -/
def all : CharSet := ⟨true, []⟩

/-- One character. -/
def only (c : Char) : CharSet := ⟨false, [(c, c)]⟩

/-- Is the character in one of the ranges? -/
def inRanges (s : CharSet) (c : Char) : Bool := s.ranges.any fun r => r.1 ≤ c && c ≤ r.2

/-- Is the character in the set? Letters may count the same in both cases. -/
def holds (s : CharSet) (fold : Bool) (c : Char) : Bool :=
  (s.inRanges c || (fold && (s.inRanges c.toLower || s.inRanges c.toUpper))) != s.outside

/-- The ranges with the letters in them in both cases. -/
def bothCases (ranges : List (Char × Char)) : List (Char × Char) :=
  let moved (low high : Char) (shift : Char → Char) (r : Char × Char) : List (Char × Char) :=
    let a := if low ≤ r.1 then r.1 else low
    let b := if r.2 ≤ high then r.2 else high
    if a ≤ b then [(shift a, shift b)] else []
  ranges.flatMap fun r => r :: (moved 'a' 'z' Char.toUpper r ++ moved 'A' 'Z' Char.toLower r)

/-- The set of the same characters and of those that differ from them in case only. -/
def folded (s : CharSet) : CharSet := { s with ranges := bothCases s.ranges }

/-- The ranges of a class of characters that has a name. -/
def named? (name : Text) : Option (List (Char × Char)) :=
  let upper := ('A', 'Z')
  let lower := ('a', 'z')
  let digit := ('0', '9')
  let marks := [('!', '/'), (':', '@'), ('[', '`'), ('\x7b', '~')]
  match String.ofList name with
  | "alpha" => some [upper, lower]
  | "digit" => some [digit]
  | "alnum" => some [upper, lower, digit]
  | "upper" => some [upper]
  | "lower" => some [lower]
  | "space" => some [('\t', '\r'), (' ', ' ')]
  | "blank" => some [('\t', '\t'), (' ', ' ')]
  | "punct" => some marks
  | "print" => some [(' ', '~')]
  | "graph" => some [('!', '~')]
  | "cntrl" => some [('\x00', '\x1f'), ('\x7f', '\x7f')]
  | "xdigit" => some [digit, ('A', 'F'), ('a', 'f')]
  | _ => none

/-- Letters, digits and the underscore. -/
def word : CharSet := ⟨false, [('A', 'Z'), ('a', 'z'), ('0', '9'), ('_', '_')]⟩

/-- Digits. -/
def digit : CharSet := ⟨false, [('0', '9')]⟩

/-- Blanks of all kinds. -/
def space : CharSet := ⟨false, [('\t', '\r'), (' ', ' ')]⟩

end CharSet

/-- A regular expression. -/
inductive Regex
  /-- Nothing. -/
  | empty
  /-- A character of a set. -/
  | char (s : CharSet)
  /-- The start of a line. -/
  | lineStart
  /-- The end of a line. -/
  | lineEnd
  /-- The start of the text. -/
  | textStart
  /-- The end of the text. -/
  | textEnd
  /-- The start of a word. -/
  | wordStart
  /-- The end of a word. -/
  | wordEnd
  /-- The start or the end of a word. -/
  | wordEdge
  /-- Neither start nor end of a word. -/
  | noWordEdge
  /-- The place from which on what is matched counts. -/
  | keep
  /-- An expression of which it is known what it matched. -/
  | group (n : Nat) (r : Regex)
  /-- What a group has matched. -/
  | back (n : Nat)
  /-- One after the other. -/
  | seq (a b : Regex)
  /-- One or the other. -/
  | alt (a b : Regex)
  /-- So many times, or more. -/
  | repeat (r : Regex) (least : Nat) (most : Option Nat)
  /-- So many times, or more if it has to be. -/
  | reluctant (r : Regex) (least : Nat) (most : Option Nat)
  /-- An expression of which only the first match counts. -/
  | settled (r : Regex)
  /-- Does an expression match from here on? -/
  | ahead (wanted : Bool) (r : Regex)
  /-- Does an expression match up to here? -/
  | behind (wanted : Bool) (r : Regex)

namespace Regex

/-- Does it depend on what a group has matched? -/
def hasBack : Regex → Bool
  | .back _ => true
  | .group _ r => r.hasBack
  | .seq a b => a.hasBack || b.hasBack
  | .alt a b => a.hasBack || b.hasBack
  | .repeat r .. => r.hasBack
  | .reluctant r .. => r.hasBack
  | .settled r => r.hasBack
  | .ahead _ r => r.hasBack
  | .behind _ r => r.hasBack
  | _ => false

/-- The number of groups. -/
def groups : Regex → Nat
  | .group _ r => r.groups + 1
  | .seq a b => a.groups + b.groups
  | .alt a b => a.groups + b.groups
  | .repeat r .. => r.groups
  | .reluctant r .. => r.groups
  | .settled r => r.groups
  | .ahead _ r => r.groups
  | .behind _ r => r.groups
  | _ => 0

/-! ### Matching -/

/-- What counts while an expression is matched. -/
structure Mode where
  /-- Do letters count the same in both cases? -/
  fold : Bool
  /-- Do lines start and end at newlines inside of the text? -/
  lines : Bool
  /-- Is what groups have matched needed on the way? -/
  back : Bool
  /-- Does the longest match count, and not the first that is found? -/
  longest : Bool

/-- A place in a text. -/
structure Spot where
  /-- The number of characters before it. -/
  pos : Nat
  /-- The characters before it, the nearest first. -/
  before : Text
  /-- The characters after it. -/
  rest : Text

/-- What groups have matched, the latest first: where it starts, and the text. -/
abbrev Groups := List (Nat × Nat × Text)

/-- A place where a match may end. -/
abbrev End := Spot × Groups

namespace Spot

/-- The place after so many characters. -/
def skip (s : Spot) : Nat → Spot
  | 0 => s
  | n + 1 => match s.rest with
    | [] => s
    | c :: cs => skip ⟨s.pos + 1, c :: s.before, cs⟩ n

/-- The places before this one, the nearest first. -/
def earlier : Nat → Text → Text → List Spot
  | pos, c :: before, rest => ⟨pos - 1, before, c :: rest⟩ :: earlier (pos - 1) before (c :: rest)
  | _, [], _ => []

/-- The character before the place. -/
def prev (s : Spot) : Option Char := s.before.head?

/-- Is the character before the place part of a word? -/
def afterWord (s : Spot) : Bool := (s.prev.map (CharSet.word.holds false)).getD false

/-- Is the character after the place part of a word? -/
def beforeWord (s : Spot) : Bool := (s.rest.head?.map (CharSet.word.holds false)).getD false

/-- The places after characters of a set, of which there are at most so many, the first place first. -/
def along (holds : Char → Bool) : Option Nat → Nat → Text → Text → List Spot
  | some 0, _, _, _ => []
  | _, _, _, [] => []
  | most, pos, before, c :: cs =>
    if holds c then ⟨pos + 1, c :: before, cs⟩ :: along holds (most.map (· - 1)) (pos + 1) (c :: before) cs else []

end Spot

/-- Ends at the same place, of which only the first is kept. -/
def dropRepeats (m : Mode) : List (End × Nat) → List (End × Nat)
  | a :: b :: rest =>
    if a.1.1.pos = b.1.1.pos && (!m.back || a.1.2 == b.1.2) then dropRepeats m (a :: rest)
    else a :: dropRepeats m (b :: rest)
  | es => es
  termination_by es => es.length

/-- Do the places of ends go in one direction? -/
def oneWay (later : Nat → Nat → Bool) : List End → Bool
  | a :: b :: rest => later a.1.pos b.1.pos && oneWay later (b :: rest)
  | _ => true

/-- The ends in their order, of which those are left out that say the same as an earlier one. -/
def distinct (m : Mode) (es : List End) : List End :=
  if oneWay (· < ·) es || oneWay (· > ·) es then es
  else
    let sorted := es.zipIdx.mergeSort fun a b => a.1.1.pos ≤ b.1.1.pos
    ((dropRepeats m sorted).mergeSort fun a b => a.2 ≤ b.2).map (·.1)

/-- The ends after repetitions, each of which has to take something once there are enough. -/
def iterate (m : Mode) (eager : Bool) (once : Spot → Groups → List End) :
    Nat → Nat → Option Nat → Spot → Groups → List End
  | 0, _, _, s, g => [(s, g)]
  | fuel + 1, least, most, s, g =>
    if most = some 0 then [(s, g)]
    else
      let next := (once s g).filter fun e => 0 < least || s.pos < e.1.pos
      let more := next.flatMap fun e => iterate m eager once fuel (least - 1) (most.map (· - 1)) e.1 e.2
      distinct m (if 0 < least then more else if eager then more ++ [(s, g)] else (s, g) :: more)

/-- Where matches of an expression that start at a place may end, in the order in which they are tried. -/
def ends (m : Mode) : Regex → Spot → Groups → List End
  | .empty, s, g => [(s, g)]
  | .char set, s, g => match s.rest with
    | [] => []
    | c :: cs => if set.holds m.fold c then [(⟨s.pos + 1, c :: s.before, cs⟩, g)] else []
  | .lineStart, s, g => if s.before = [] || (m.lines && s.prev = some '\n') then [(s, g)] else []
  | .lineEnd, s, g => if s.rest = [] || (m.lines && s.rest.head? = some '\n') then [(s, g)] else []
  | .textStart, s, g => if s.before = [] then [(s, g)] else []
  | .textEnd, s, g => if s.rest = [] then [(s, g)] else []
  | .wordStart, s, g => if !s.afterWord && s.beforeWord then [(s, g)] else []
  | .wordEnd, s, g => if s.afterWord && !s.beforeWord then [(s, g)] else []
  | .wordEdge, s, g => if s.afterWord != s.beforeWord then [(s, g)] else []
  | .noWordEdge, s, g => if s.afterWord == s.beforeWord then [(s, g)] else []
  | .keep, s, g => [(s, (0, s.pos, []) :: g)]
  | .group n r, s, g => (ends m r s g).map fun e => (e.1, (n, s.pos, s.rest.take (e.1.pos - s.pos)) :: e.2)
  | .back n, s, g => match g.lookup n with
    | none => []
    | some (_, t) =>
      let same (a b : Char) : Bool := a = b || (m.fold && a.toLower = b.toLower)
      if t.length ≤ s.rest.length && (t.zip s.rest).all (fun p => same p.1 p.2) then [(s.skip t.length, g)] else []
  | .seq a b, s, g => distinct m ((ends m a s g).flatMap fun e => ends m b e.1 e.2)
  | .alt a b, s, g => distinct m (ends m a s g ++ ends m b s g)
  | .repeat r least most, s, g => match r with
    | .char set =>
      let spots := s :: Spot.along (set.holds m.fold) most s.pos s.before s.rest
      (spots.drop least).reverse.map fun e => (e, g)
    | r => iterate m true (ends m r) (least + s.rest.length + 1) least most s g
  | .reluctant r least most, s, g => iterate m false (ends m r) (least + s.rest.length + 1) least most s g
  | .settled r, s, g => (ends m r s g).take 1
  | .ahead true r, s, g => (ends m r s g).take 1 |>.map fun e => (s, e.2)
  | .ahead false r, s, g => if (ends m r s g).isEmpty then [(s, g)] else []
  | .behind wanted r, s, g =>
    let reaches (b : Spot) : Option End := (ends m r b g).find? fun e => e.1.pos = s.pos
    match (s :: Spot.earlier s.pos s.before s.rest).findSome? reaches with
    | some e => if wanted then [(s, e.2)] else []
    | none => if wanted then [] else [(s, g)]

/-- A match. -/
structure Match where
  /-- The number of characters before it. -/
  start : Nat
  /-- What is matched. -/
  text : Text
  /-- What groups have matched, the latest first. -/
  found : Groups

/-- What a group has matched; the group 0 is the whole expression. -/
def Match.group? (m : Match) (n : Nat) : Option Text := if n = 0 then some m.text else (m.found.lookup n).map (·.2)

/-- The number of characters before the end of the match. -/
def Match.finish (m : Match) : Nat := m.start + m.text.length

/-- The match from a place on that ends at another one. -/
def Match.ofEnd (s : Spot) (e : End) : Match :=
  match e.2.lookup 0 with
  | some (start, _) =>
    if s.pos ≤ start then ⟨start, (s.rest.drop (start - s.pos)).take (e.1.pos - start), e.2⟩
    else ⟨start, (s.before.take (s.pos - start)).reverse ++ s.rest.take (e.1.pos - s.pos), e.2⟩
  | none => ⟨s.pos, s.rest.take (e.1.pos - s.pos), e.2⟩

/-- The matches that start at a place, the best first. -/
def matchesAt (m : Mode) (r : Regex) (s : Spot) : List Match :=
  let es := ends m r s []
  let best := if m.longest && !oneWay (· > ·) es then es.mergeSort fun a b => b.1.pos ≤ a.1.pos else es
  best.map (Match.ofEnd s)

/-- The first match from a place on that is accepted where it stands. -/
def searchFrom (m : Mode) (r : Regex) (accepted : Spot → Match → Bool) : Nat → Spot → Option Match
  | 0, _ => none
  | fuel + 1, s =>
    match (matchesAt m r s).find? (accepted s) with
    | some found => some found
    | none => if s.rest = [] then none else searchFrom m r accepted fuel (s.skip 1)

/-- The place in a text after so many characters. -/
def spotAt (t : Text) (n : Nat) : Spot := (Spot.mk 0 [] t).skip n

/-- An expression with what counts while it is matched. -/
structure Compiled where
  /-- The expression. -/
  regex : Regex
  /-- What counts. -/
  mode : Mode

/-- The first match in a text that starts after so many characters or later. -/
def Compiled.search (c : Compiled) (t : Text) (after : Nat) : Option Match :=
  searchFrom c.mode c.regex (fun _ _ => true) (t.length + 2) (spotAt t after)

/-- The match at the start of a text. -/
def Compiled.atStart (c : Compiled) (t : Text) : Option Match := (matchesAt c.mode c.regex (spotAt t 0)).head?

end Regex

end Rollout
