import Rollout.Machine.Program.Bundle.Options
import Rollout.Machine.Program.Edit.Run

/-!
Names in archives: how they are written in lists, which of them patterns pick, and how they are changed on the way.
-/

namespace Rollout.Program.Bundle

open Unix

/-! ### Shown names -/

/-- A name in which escapes stand for what cannot be printed. -/
def shownName (t : Text) : Text := Quotation.backslashed '\\' t

/-- A name in front of a colon. -/
def colonName (t : Text) : Text := Quotation.backslashed ':' t

/-- A name with characters in the place of escapes. -/
def unescapedName : Nat → Text → Text
  | 0, t => t
  | fuel + 1, '\\' :: c :: cs =>
    match "abdefnrtv?\\".toList.idxOf? c with
    | some i =>
      "\x07\x08\x7f\x1b\x0c\n\r\t\x0b\x7f\\".toList.getD i c :: unescapedName fuel cs
    | none =>
      let digits := ((c :: cs).take 3).takeWhile fun d => '0' ≤ d && d ≤ '7'
      if digits.isEmpty then '\\' :: c :: unescapedName fuel cs
      else
        let n := digits.foldl (fun n d => 8 * n + (d.toNat - '0'.toNat)) 0
        Char.ofNat (n % 256) :: unescapedName fuel ((c :: cs).drop digits.length)
  | fuel + 1, c :: cs => c :: unescapedName fuel cs
  | _, [] => []

/-! ### Patterns -/

/-- The starts of a path that end with one of its components. -/
def leadingPaths (t : Text) : List Text :=
  let names := Text.split '/' t
  (List.range names.length).map fun i => Text.join ['/'] (names.take (i + 1))

/-- The ends of a path that start with one of its components. -/
def trailingPaths (t : Text) : List Text :=
  let names := Text.split '/' t
  (List.range names.length).filterMap fun i =>
    let rest := names.drop i
    if rest.head? = some [] && i ≠ 0 then none else some (Text.join ['/'] rest)

/-- Does a pattern cover the whole text? -/
def coversWhole (p : NamePattern) (t : Text) : Bool :=
  let like (t : Text) : Text := if p.manner.folded then t.map Char.toLower else t
  let part (p t : Text) : Bool := (namePattern (like p)).covers (like t)
  if !p.manner.wild then like p.text = like t
  else if p.manner.overSlashes then part p.text t
  else
    let (ps, ts) := (Text.split '/' p.text, Text.split '/' t)
    ps.length = ts.length && (ps.zip ts).all fun (p, t) => part p t

/-- Does a pattern pick a path, or a directory that leads to it? -/
def NamePattern.picks (p : NamePattern) (path : Text) : Bool :=
  (if p.manner.anchored then [path] else trailingPaths path).any fun t => (leadingPaths t).any (coversWhole p)

/-- Has a name characters that have a meaning in patterns? -/
def hasWildcards (t : Text) : Bool := t.any "*?[".toList.contains

/-! ### Safe names -/

/-- How much of a path is left out so that it leads nowhere outside: what it starts with up to the last step upwards,
and slashes. -/
def unsafeLength (path : Text) : Nat :=
  let names := Text.split '/' path
  let ups := names.zipIdx.filter (·.1 = ['.', '.'])
  let upTo := match ups.getLast? with
    | some (_, i) => (Text.join ['/'] (names.take (i + 1))).length
    | none => 0
  upTo + ((path.drop upTo).takeWhile (· = '/')).length

/-- Does a path step upwards? -/
def stepsUp (path : Text) : Bool := (Text.split '/' path).contains ['.', '.']

/-- A path without its first components; nothing is left if it has no more of them. -/
def stripped : Nat → Text → Text
  | 0, t => t
  | n + 1, t =>
    let rest := t.dropWhile (· ≠ '/')
    stripped n (rest.dropWhile (· = '/'))

/-- The name of an archive without the ending that says it is one. -/
def stemOf (path : Text) : Text :=
  let name := baseName path
  let ends : List Text := [".gz", ".tgz", ".Z", ".bz2", ".xz", ".zst", ".lzma", ".taz"].map String.toList
  let stem := match ends.find? (·.isSuffixOf name) with
    | some e => name.take (name.length - e.length)
    | none => name
  if ".tar".toList.isSuffixOf stem then stem.take (stem.length - 4) else stem

/-! ### Changes -/

/-- A change of names. -/
structure NameChange where
  /-- What is replaced by what. -/
  replacing : Edit.Replacing
  /-- Are names of files changed? -/
  names : Bool
  /-- Are paths changed to which symbolic links lead? -/
  symbolic : Bool
  /-- Are paths changed to which hard links lead? -/
  hard : Bool

namespace NameChange

/-- The change after one more letter. -/
def withLetter (x : NameChange) (c : Char) : Option NameChange :=
  match c with
  | 'r' => some { x with names := true }
  | 'R' => some { x with names := false }
  | 's' => some { x with symbolic := true }
  | 'S' => some { x with symbolic := false }
  | 'h' => some { x with hard := true }
  | 'H' => some { x with hard := false }
  | _ => none

/-- Read a change behind its first letter. -/
def readOne (usual : NameChange) : Edit.Reading NameChange := do
  let fuel := (← get).rest.length + 1
  match ← Edit.nextChar with
  | none => Edit.wrong []
  | some delimiter => do
    let form (extended : Bool) : Edit.Form := ⟨extended, []⟩
    let pattern ← Edit.delimited (form false) delimiter true fuel
    let text ← Edit.delimited (form false) delimiter false fuel
    let letters ← Edit.readWhile (· ≠ ';')
    match pattern, text with
    | some pattern, some text => do
      let known (c : Char) : Bool := "gixrRsShH".toList.contains c || c.isDigit
      if !letters.all known then Edit.wrong []
      let compiled ← Edit.expression (form (letters.contains 'x')) (letters.contains 'i') false pattern
      match Edit.piecesOf none [] text with
      | .error e => Edit.wrong e
      | .ok pieces =>
        let first := (Text.toNat? (letters.filter Char.isDigit)).getD 1
        let x : NameChange := { usual with
          replacing := ⟨compiled, pieces, first, letters.contains 'g', false, none⟩ }
        return letters.foldl (fun x c => (x.withLetter c).getD x) x
    | _, _ => Edit.wrong []

/-- Read changes, one after another. -/
def readAll : Nat → NameChange → Edit.Reading (List NameChange)
  | 0, _ => return []
  | fuel + 1, usual => do
    match ← Edit.peek with
    | none => return []
    | some ';' => do
      let _ ← Edit.nextChar
      readAll fuel usual
    | some 's' => do
      let _ ← Edit.nextChar
      let x ← readOne usual
      return x :: (← readAll fuel usual)
    | some _ => do
      let word ← Edit.readWhile (· ≠ ';')
      if "flags=".toList.isPrefixOf word then
        let none : NameChange := { usual with
          names := false
          symbolic := false
          hard := false }
        readAll fuel ((word.drop 6).foldl (fun x c => (x.withLetter c).getD x) none)
      else Edit.wrong []

/-- The changes that a text describes. -/
def ofText? (t : Text) : Option (List NameChange) :=
  let usual : NameChange := ⟨⟨none, [], 1, false, false, none⟩, true, true, true⟩
  match readAll (t.length + 1) usual |>.run ⟨t, 0⟩ with
  | .ok (xs, _) => some xs
  | .error _ => none

/-- The text after a change. -/
def apply (x : NameChange) (t : Text) : Text :=
  match x.replacing.expression with
  | some c => (Edit.replaceFrom c x.replacing t (2 * t.length + 2) 0 1 none).1
  | none => t

end NameChange

end Rollout.Program.Bundle
