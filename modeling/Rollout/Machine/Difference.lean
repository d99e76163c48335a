import Rollout.Text.Basic

/-!
What has to be taken away from one sequence and put in to get another one. A shortest such change is searched for from
both ends at once, along diagonals on which elements of the sequences are the same: a place in both sequences where
the searches meet cuts the problem in two.
-/

namespace Rollout.Difference

/-! ### Same elements -/

/-- How many of so many elements are the same from two places on. -/
def sameFrom (xs ys : Array Nat) (x y : Nat) : Nat → Nat
  | 0 => 0
  | n + 1 => if xs[x]? = ys[y]? then sameFrom xs ys (x + 1) (y + 1) n + 1 else 0

/-- How many of so many elements are the same before two places. -/
def sameBefore (xs ys : Array Nat) (x y : Nat) : Nat → Nat
  | 0 => 0
  | n + 1 => if xs[x - 1]? = ys[y - 1]? then sameBefore xs ys (x - 1) (y - 1) n + 1 else 0

/-! ### The middle of a change -/

/-- A part of each of two sequences, from its start up to its end. -/
structure Window where
  /-- The start in the first sequence. -/
  left : Nat
  /-- The end in the first sequence. -/
  right : Nat
  /-- The start in the second sequence. -/
  top : Nat
  /-- The end in the second sequence. -/
  bottom : Nat

/-- How far a search from one end has come on each diagonal between the lowest and the highest one that it has
reached. -/
structure Frontier where
  /-- The place in the first sequence for each diagonal. -/
  places : Array Int
  /-- The lowest diagonal. -/
  low : Int
  /-- The highest diagonal. -/
  high : Int

namespace Frontier

/-- The place on a diagonal; the diagonals are counted from an offset on. -/
def place (f : Frontier) (offset d : Int) : Int := f.places.getD (d + offset).toNat 0

/-- The frontier with a place on a diagonal. -/
def put (f : Frontier) (offset d place : Int) : Frontier :=
  { f with places := f.places.setIfInBounds (d + offset).toNat place }

/-- The frontier with one more diagonal at either end, or with one less where the window ends; a new diagonal is
preceded by one on which the search is nowhere. -/
def widen (f : Frontier) (offset lowest highest nowhere : Int) : Frontier :=
  let f := if lowest < f.low then { f.put offset (f.low - 2) nowhere with low := f.low - 1 }
    else { f with low := f.low + 1 }
  if f.high < highest then { f.put offset (f.high + 2) nowhere with high := f.high + 1 }
  else { f with high := f.high - 1 }

end Frontier

/-- Is the diagonal between the ends of a frontier? -/
def Frontier.spans (f : Frontier) (d : Int) : Bool := f.low ≤ d && d ≤ f.high

/-- Take the forward search one step on, from this diagonal down; the place where it meets the other one, if it
does. -/
def advance (xs ys : Array Nat) (w : Window) (offset : Int) (back : Frontier) (meets : Bool) :
    Nat → Int → Frontier → Option (Int × Int) × Frontier
  | 0, _, f => (none, f)
  | fuel + 1, d, f =>
    if d < f.low then (none, f)
    else
      let below := f.place offset (d - 1)
      let above := f.place offset (d + 1)
      let start := if below < above then above else below + 1
      let room := min (w.right - start) (w.bottom - (start - d))
      let x := start + sameFrom xs ys start.toNat (start - d).toNat room.toNat
      let f := f.put offset d x
      if meets && back.spans d && back.place offset d ≤ x then (some (x, x - d), f)
      else advance xs ys w offset back meets fuel (d - 2) f

/-- Take the backward search one step on, from this diagonal down; the place where it meets the other one, if it
does. -/
def retreat (xs ys : Array Nat) (w : Window) (offset : Int) (front : Frontier) (meets : Bool) :
    Nat → Int → Frontier → Option (Int × Int) × Frontier
  | 0, _, f => (none, f)
  | fuel + 1, d, f =>
    if d < f.low then (none, f)
    else
      let below := f.place offset (d - 1)
      let above := f.place offset (d + 1)
      let start := if below < above then below else above - 1
      let room := min (start - w.left) (start - d - w.top)
      let x := start - sameBefore xs ys start.toNat (start - d).toNat room.toNat
      let f := f.put offset d x
      if meets && front.spans d && x ≤ front.place offset d then (some (x, x - d), f)
      else retreat xs ys w offset front meets fuel (d - 2) f

/-- Take both searches on until they meet. -/
def meeting (xs ys : Array Nat) (w : Window) (offset : Int) (odd : Bool) :
    Nat → Frontier → Frontier → Option (Int × Int)
  | 0, _, _ => none
  | fuel + 1, front, back =>
    let lowest : Int := w.left - w.bottom
    let highest : Int := w.right - w.top
    let steps := (highest - lowest).toNat + 2
    let front := front.widen offset lowest highest (-1)
    match advance xs ys w offset back odd steps front.high front with
    | (some p, _) => some p
    | (none, front) =>
      let back := back.widen offset lowest highest (w.right + w.bottom + 1)
      match retreat xs ys w offset front (!odd) steps back.high back with
      | (some p, _) => some p
      | (none, back) => meeting xs ys w offset odd fuel front back

/-- The place in both sequences where a shortest change of a window may be cut in two. -/
def middle (xs ys : Array Nat) (w : Window) : Nat × Nat :=
  let offset : Int := w.bottom + 2
  let nothing : Array Int := .replicate (w.right + w.bottom + 5) 0
  let first : Int := w.left - w.top
  let last : Int := w.right - w.bottom
  let front := Frontier.put ⟨nothing, first, first⟩ offset first w.left
  let back := Frontier.put ⟨nothing, last, last⟩ offset last w.right
  match meeting xs ys w offset ((first - last) % 2 ≠ 0) (w.right + w.bottom + 1) front back with
  | some (x, y) => (x.toNat, y.toNat)
  | none => (w.right, w.top)

/-! ### Changed elements -/

/-- For each element of two sequences, whether it is changed. -/
structure Marks where
  /-- The elements of the first sequence that are taken away. -/
  removed : Array Bool
  /-- The elements of the second sequence that are put in. -/
  added : Array Bool

/-- The flags, set from a place on up to another one. -/
def setRange (flags : Array Bool) (start stop : Nat) : Array Bool :=
  (List.range' start (stop - start)).foldl (fun flags i => flags.setIfInBounds i true) flags

/-- Mark what is changed inside of a window. -/
def compare (xs ys : Array Nat) : Nat → Window → Marks → Marks
  | 0, _, m => m
  | fuel + 1, w, m =>
    let head := sameFrom xs ys w.left w.top (min (w.right - w.left) (w.bottom - w.top))
    let left := w.left + head
    let top := w.top + head
    let tail := sameBefore xs ys w.right w.bottom (min (w.right - left) (w.bottom - top))
    let right := w.right - tail
    let bottom := w.bottom - tail
    if left = right then { m with added := setRange m.added top bottom }
    else if top = bottom then { m with removed := setRange m.removed left right }
    else
      let (x, y) := middle xs ys ⟨left, right, top, bottom⟩
      compare xs ys fuel ⟨x, right, y, bottom⟩ (compare xs ys fuel ⟨left, x, top, y⟩ m)

/-- The elements that occur in another sequence, each with its place. -/
def common (xs ys : Array Nat) : Array (Nat × Nat) := (xs.zipIdx).filter fun (x, _) => ys.contains x

/-- The flags of the elements of a part of a sequence, put where the elements are in the whole; the elements that
are not in the part are changed. -/
def spread (size : Nat) (part : Array (Nat × Nat)) (flags : Array Bool) : Array Bool :=
  (part.toList.zip flags.toList).foldl (fun all ((_, place), flag) => all.setIfInBounds place flag)
    (.replicate size true)

/-- What is changed between two sequences. Elements that only one of them has are set aside first. -/
def marks (xs ys : Array Nat) : Marks :=
  let us := common xs ys
  let vs := common ys xs
  let none : Marks := ⟨.replicate us.size false, .replicate vs.size false⟩
  let m := compare (us.map (·.1)) (vs.map (·.1)) (us.size + vs.size + 1) ⟨0, us.size, 0, vs.size⟩ none
  ⟨spread xs.size us m.removed, spread ys.size vs m.added⟩

/-! ### Moving changes -/

/-- A run of changed elements that is moved along a sequence, and the place that it has in the other one. -/
structure Run where
  /-- The changed elements. -/
  flags : Array Bool
  /-- Where the run starts. -/
  start : Nat
  /-- Where the run ends. -/
  stop : Nat
  /-- The place in the other sequence. -/
  other : Nat
  /-- The latest end of the run at which there is a run in the other sequence, too. -/
  matched : Option Nat

/-- Is the element changed? -/
def isSet (flags : Array Bool) (i : Nat) : Bool := flags.getD i false

/-- The first place, from this one on, of an element that is not changed. -/
def pastSet (flags : Array Bool) : Nat → Nat → Nat
  | 0, i => i
  | fuel + 1, i => if isSet flags i then pastSet flags fuel (i + 1) else i

/-- The start of the run of changed elements that ends before a place. -/
def runStart (flags : Array Bool) : Nat → Nat
  | 0 => 0
  | i + 1 => if isSet flags i then runStart flags i else i + 1

/-- The last place before this one, of an element that is not changed. -/
def unsetBefore (flags : Array Bool) : Nat → Nat
  | 0 => 0
  | i + 1 => if isSet flags i then unsetBefore flags i else i

namespace Run

/-- Move the run back while the element before it is the same as its last one; it takes up the runs that it
meets. -/
def back (xs : Array Nat) (others : Array Bool) : Nat → Run → Run
  | 0, r => r
  | fuel + 1, r =>
    if r.start ≠ 0 && xs[r.start - 1]? = xs[r.stop - 1]? then
      let flags := (r.flags.setIfInBounds (r.start - 1) true).setIfInBounds (r.stop - 1) false
      back xs others fuel { r with
        flags := flags
        start := runStart flags (r.start - 1)
        stop := r.stop - 1
        other := unsetBefore others r.other }
    else r

/-- Move the run on while the element after it is the same as its first one; it takes up the runs that it meets. -/
def on (xs : Array Nat) (others : Array Bool) : Nat → Run → Run
  | 0, r => r
  | fuel + 1, r =>
    if r.stop < xs.size && xs[r.start]? = xs[r.stop]? then
      let flags := (r.flags.setIfInBounds r.start false).setIfInBounds r.stop true
      let stop := pastSet flags xs.size (r.stop + 1)
      let next := r.other + 1
      let other := pastSet others others.size next
      on xs others fuel { r with
        flags := flags
        start := r.start + 1
        stop := stop
        other := other
        matched := if next < other then some stop else r.matched }
    else r

/-- Move the run back and on until it does not grow any more. -/
def grow (xs : Array Nat) (others : Array Bool) : Nat → Run → Run
  | 0, r => r
  | fuel + 1, r =>
    let b := r.back xs others (xs.size + 1)
    let matched := if b.other ≠ 0 && isSet others (b.other - 1) then some b.stop else none
    let f := { b with matched }.on xs others (xs.size + 1)
    if f.stop - f.start = r.stop - r.start then f else grow xs others fuel f

/-- Move the run back to where there is a run in the other sequence. -/
def settle (others : Array Bool) : Nat → Run → Run
  | 0, r => r
  | fuel + 1, r =>
    match r.matched with
    | none => r
    | some place =>
      if place < r.stop then
        settle others fuel { r with
          flags := (r.flags.setIfInBounds (r.start - 1) true).setIfInBounds (r.stop - 1) false
          start := r.start - 1
          stop := r.stop - 1
          other := unsetBefore others r.other }
      else r

end Run

/-- Move the runs of changed elements of a sequence, from a place on in it and in the other one, as far on as
possible, or to where the other sequence has a run. -/
def shift (xs : Array Nat) (others : Array Bool) : Nat → Nat → Nat → Array Bool → Array Bool
  | 0, _, _, flags => flags
  | fuel + 1, i, j, flags =>
    if xs.size ≤ i then flags
    else if !isSet flags i then shift xs others fuel (i + 1) (pastSet others others.size j + 1) flags
    else
      let stop := pastSet flags xs.size (i + 1)
      let other := pastSet others others.size j
      let grown := (Run.mk flags i stop other none).grow xs others (xs.size + 1)
      let r := grown.settle others (xs.size + 1)
      shift xs others fuel r.stop r.other r.flags

/-- The marks with each run of changes where it is shown. -/
def Marks.settled (m : Marks) (xs ys : Array Nat) : Marks :=
  let removed := shift xs m.added (2 * xs.size + 2) 0 0 m.removed
  ⟨removed, shift ys removed (2 * ys.size + 2) 0 0 m.added⟩

/-! ### Changes -/

/-- Some elements of the first sequence, from a place on, make way for some elements of the second one. -/
structure Change where
  /-- Where the elements are in the first sequence. -/
  oldStart : Nat
  /-- How many are taken away. -/
  removed : Nat
  /-- Where the elements are in the second sequence. -/
  newStart : Nat
  /-- How many are put in. -/
  added : Nat
  deriving DecidableEq

/-- The changes from two places on. -/
def Marks.changes (m : Marks) : Nat → Nat → Nat → List Change
  | 0, _, _ => []
  | fuel + 1, i, j =>
    if m.removed.size ≤ i && m.added.size ≤ j then []
    else if isSet m.removed i || isSet m.added j then
      let next := pastSet m.removed m.removed.size i
      let after := pastSet m.added m.added.size j
      ⟨i, next - i, j, after - j⟩ :: m.changes fuel next after
    else m.changes fuel (i + 1) (j + 1)

/-- The changes that lead from one sequence to another one, where the first and last elements of both that are
known to be the same are left out except for some of them. -/
def changes (xs ys : Array Nat) (kept : Nat) : List Change :=
  let room := min xs.size ys.size
  let head := sameFrom xs ys 0 0 room
  let tail := sameBefore xs ys xs.size ys.size (room - head)
  let skipped := head - kept
  let dropped := tail - kept
  let us := xs.extract skipped (xs.size - dropped)
  let vs := ys.extract skipped (ys.size - dropped)
  let found := ((marks us vs).settled us vs).changes (us.size + vs.size + 1) 0 0
  found.map fun c => { c with oldStart := c.oldStart + skipped, newStart := c.newStart + skipped }

end Rollout.Difference
