import Rollout.Dict

/-!
Cutting the hosts of each tag into the groups that roll one after another. The hosts are shuffled
first, with words of 32 random bits: an index below a bound is drawn by multiplying, and words that
would favour some indices are passed over.
-/

namespace Rollout

/-! ### Random draws -/

/-- Words of 32 random bits; once they are used up, all further words are zero. -/
abbrev Words := List UInt32

namespace Words

/-- The last product, modulo 2^32, that favours no index below the bound. -/
def zone (bound : Nat) : Nat := bound <<< (31 - Nat.log2 bound) - 1

theorem index_lt (bound : Nat) (w : UInt32) (h : 0 < bound) : w.toNat * bound / 4294967296 < bound := by
  refine (Nat.div_lt_iff_lt_mul (by decide)).mpr ?_
  rw [Nat.mul_comm bound]
  exact Nat.mul_lt_mul_of_pos_right w.toNat_lt h

/-- Draw an index below the bound. Each word of 32 bits stands for a draw, as it does for bounds below 2^32; the
draws for bounds of 2^32 and more take words of 64 bits and are outside the model. -/
def draw (bound : Nat) (h : 0 < bound) : Words → Fin bound × Words
  | [] => (⟨0, h⟩, [])
  | w :: ws =>
    if w.toNat * bound % 4294967296 ≤ zone bound then (⟨w.toNat * bound / 4294967296, index_lt bound w h⟩, ws)
    else draw bound h ws

end Words

/-! ### Shuffling -/

/-- Swap the item at the index, and those below it, each with one drawn from those up to its own place. -/
def shuffleDown {α : Type} : Nat → Array α → Words → Array α × Words
  | 0, items, ws => (items, ws)
  | i + 1, items, ws =>
    let (j, ws) := Words.draw (i + 2) (Nat.succ_pos _) ws
    shuffleDown i (items.swapIfInBounds (i + 1) j) ws

/-- The items in random order. -/
def shuffle {α : Type} (items : List α) (ws : Words) : List α × Words :=
  let (shuffled, ws) := shuffleDown (items.length - 1) items.toArray ws
  (shuffled.toList, ws)

/-! ### Groups -/

theorem length_drop_lt {α : Type} {size : Nat} {items : List α} (h : ¬ (items = [] ∨ size = 0)) :
    (items.drop size).length < items.length := by
  have := List.length_pos_iff.mpr (not_or.mp h).1
  simp only [List.length_drop]
  omega

/-- The items in stretches of the size, of which the last may be shorter. -/
def chunks {α : Type} (size : Nat) (items : List α) : List (List α) :=
  if h : items = [] ∨ size = 0 then []
  else
    have := length_drop_lt h
    items.take size :: chunks size (items.drop size)
  termination_by items.length

/-- The hosts in groups of at most `serial`; zero stands for a single group of all. -/
def cut (serial : Nat) (hosts : List Text) : List (List Text) :=
  if serial = 0 then [hosts] else chunks serial hosts

/-- Why there are no batches. -/
inductive BatchError
  /-- A tag has no hosts. -/
  | noHosts (tag : Text)
  /-- There are no tags. -/
  | noTags
  deriving DecidableEq

/-- What the error is reported as. -/
def BatchError.message : BatchError → Text
  | .noHosts tag => "tag " ++ tag ++ " has no hosts"
  | .noTags => "empty batches, nothing to do"

/-- The groups of each tag, and the words left over. -/
def makeBatches (tags : Dict (List Text)) (serial : Nat) (ws : Words) :
    Except BatchError (Dict (List (List Text)) × Words) :=
  match tags.entries.find? fun e => e.2.isEmpty with
  | some e => .error (.noHosts e.1)
  | none =>
    if tags.isEmpty then .error .noTags
    else .ok (tags.mapState (fun hosts ws => ((cut serial (shuffle hosts ws).1), (shuffle hosts ws).2)) ws)

end Rollout
