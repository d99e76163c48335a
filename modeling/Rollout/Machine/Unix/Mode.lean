import Rollout.FileTree

/-!
Permissions: three bits each for the owner, the group and the others, changes of them, and how they are shown.
-/

namespace Rollout.Unix

/-- The permissions that octal digits denote. -/
def octalMode? (t : Text) : Option Nat :=
  if t ≠ [] && t.all (fun c => '0' ≤ c && c ≤ '7') then
    let n := t.foldl (fun n c => 8 * n + (c.toNat - '0'.toNat)) 0
    if n ≤ 0o7777 then some n else none
  else none

/-- The bits of the owner, the group, and the others that letters stand for. -/
def whoMask (who : Text) : Nat :=
  who.foldl (fun n c => n ||| (match c with
    | 'u' => 0o4700
    | 'g' => 0o2070
    | 'o' => 0o1007
    | _ => 0o7777)) 0

/-- The bits that letters of permissions stand for. -/
def permissionBits (old : Nat) (isDir : Bool) (letters : Text) : Nat :=
  letters.foldl (fun n c => n ||| (match c with
    | 'r' => 0o444
    | 'w' => 0o222
    | 'x' => 0o111
    | 'X' => if isDir || old &&& 0o111 ≠ 0 then 0o111 else 0
    | 's' => 0o6000
    | 't' => 0o1000
    | 'u' => (old >>> 6 &&& 7) * 0o111
    | 'g' => (old >>> 3 &&& 7) * 0o111
    | _ => (old &&& 7) * 0o111)) 0

/-- The permissions after the actions of a clause. -/
def applyActions (mask : Nat) (isDir : Bool) (who : Text) : Nat → Text → Nat → Option Nat
  | 0, _, _ => none
  | _, [], old => some old
  | fuel + 1, op :: t, old =>
    if op ≠ '+' && op ≠ '-' && op ≠ '=' then none
    else
      let letters := t.takeWhile ("rwxXstugo".toList.contains ·)
      let reach := if who = [] then 0o7777 ^^^ mask else whoMask who
      let bits := permissionBits old isDir letters &&& reach
      let new := match op with
        | '+' => old ||| bits
        | '-' => old &&& (0o7777 ^^^ bits)
        | _ => (old &&& (0o7777 ^^^ (if who = [] then 0o777 else reach &&& 0o777))) ||| bits
      applyActions mask isDir who fuel (t.drop letters.length) new

/-- The permissions after a change that a text describes. -/
def changeMode (mask : Nat) (isDir : Bool) (t : Text) (old : Nat) : Option Nat :=
  match octalMode? t with
  | some n => some n
  | none => (Text.split ',' t).foldl (fun m clause => m.bind fun old =>
      let who := clause.takeWhile ("ugoa".toList.contains ·)
      let actions := clause.drop who.length
      if actions = [] then none else applyActions mask isDir who (clause.length + 1) actions old) (some old)

/-- The permissions of something; links have them all. -/
def modeOf (t : FileTree) : Nat := t.about.mode

/-- The same with other permissions. -/
def withMode (mode : Nat) (t : FileTree) : FileTree := t.withAbout { t.about with mode := mode }

/-- The letter for the kind of something. -/
def kindLetter : FileTree → Char
  | .dir .. => 'd'
  | .link .. => 'l'
  | .device .pipe _ => 'p'
  | .device .. => 'c'
  | .file .. => '-'

/-- Permissions as letters. -/
def modeText (mode : Nat) : Text :=
  let bit (n : Nat) (c : Char) : Char := if mode &&& n ≠ 0 then c else '-'
  let run (x special : Nat) (both alone : Char) : Char :=
    if mode &&& special ≠ 0 then (if mode &&& x ≠ 0 then both else alone) else bit x 'x'
  [bit 0o400 'r', bit 0o200 'w', run 0o100 0o4000 's' 'S', bit 0o40 'r', bit 0o20 'w', run 0o10 0o2000 's' 'S',
    bit 4 'r', bit 2 'w', run 1 0o1000 't' 'T']

/-- A number with octal digits. -/
def octalText (n : Nat) : Text := Nat.toDigits 8 n

end Rollout.Unix
