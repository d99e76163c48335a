import Rollout.Text.Basic

/-!
The order of names that have versions in them. Digits count by the number that they make, and what stands between
them by its characters; endings like those of archives count only between names that are otherwise the same.
-/

namespace Rollout.Version

/-- The place of a character between the digits of versions; what ends comes before all but a tilde. -/
def rank : Option Char → Int
  | none => -1
  | some '~' => -2
  | some c => if c.isDigit then 0 else if c.isAlpha then c.toNat else c.toNat + 256

/-- Compare parts of names: words by their characters, then numbers, one after another. -/
def compareParts : Nat → Text → Text → Ordering
  | 0, _, _ => .eq
  | fuel + 1, a, b =>
    let isWord (t : Text) : Bool := t.head?.any (!·.isDigit)
    if a = [] && b = [] then .eq
    else if isWord a || isWord b then
      (compare (rank a.head?) (rank b.head?)).then (compareParts fuel (a.drop 1) (b.drop 1))
    else
      let m := a.takeWhile Char.isDigit
      let n := b.takeWhile Char.isDigit
      (compare ((Text.toNat? m).getD 0) ((Text.toNat? n).getD 0)).then
        (compareParts fuel (a.drop m.length) (b.drop n.length))

/-- May the character stand in an ending? -/
def isEndingChar (c : Char) : Bool := c.isAlphanum || c = '~'

/-- Is a text made of endings, each a dot with a word behind it that starts with no digit? -/
def isEnding (t : Text) : Bool :=
  match t with
  | [] => true
  | '.' :: c :: cs =>
    (c.isAlpha || c = '~') && isEnding (cs.dropWhile isEndingChar)
  | _ => false
  termination_by t.length
  decreasing_by
    have := (List.dropWhile_suffix isEndingChar (l := cs)).length_le
    simp only [List.length_cons]
    omega

/-- A name without the longest ending that is not all of it. -/
def withoutEnding (t : Text) : Text :=
  match (List.range t.length).find? fun n => isEnding (t.drop (n + 1)) with
  | some n => t.take (n + 1)
  | none => t

/-- What comes first whatever versions say: nothing, a dot, two dots, and names that start with a dot. -/
def group (t : Text) : Nat :=
  match t with
  | [] => 0
  | ['.'] => 1
  | ['.', '.'] => 2
  | '.' :: _ => 3
  | _ => 4

/-- Compare names that have versions in them. -/
def compare (a b : Text) : Ordering :=
  let fuel := a.length + b.length + 1
  ((Ord.compare (group a) (group b)).then (compareParts fuel (withoutEnding a) (withoutEnding b))).then
    (compareParts fuel a b)

end Rollout.Version
