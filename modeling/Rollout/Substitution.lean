import Rollout.Upfile.Basic

/-!
Expanding references. The names visible from a scope have values, and a dollar sign with a visible name
behind it refers to the value. A pass replaces all references from left to right, the longest name
first where several fit, and does not look at what it inserted; passes are repeated until no reference is
left. A line that still holds one after the last round is taken for cyclic.
-/

namespace Rollout

/-- What names are looked up in: an Upfile, and values injected on top of it. -/
structure Scope where
  /-- The Upfile. -/
  upfile : Upfile
  /-- The injected values, each name once. -/
  injected : List (Text × Text)
  deriving DecidableEq

instance : Inhabited Scope := ⟨⟨⟨.empty, []⟩, []⟩⟩

namespace Scope

/-- The scope of an Upfile alone. -/
def ofUpfile (u : Upfile) : Scope := ⟨u, []⟩

/-- A scope in which the name has the value, whatever it had before. -/
def withValue (s : Scope) (name value : Text) : Scope :=
  { s with injected := s.injected.filter (fun e => e.1 ≠ name) ++ [(name, value)] }

/-- The values of all names visible from the scope: an injected value wins over a command without guards,
and that over a variable. -/
def visible (vars : Dict Text) (s : Scope) : Dict Text :=
  (vars.insertAll s.upfile.values.entries).insertAll s.injected

end Scope

/-! ### References -/

/-- The longest visible name that the text starts with, with its value. -/
def longestName? (table : List (Text × Text)) (t : Text) : Option (Text × Text) :=
  table.foldl (fun best e =>
    if e.1.isPrefixOf t && best.all (fun b => b.1.length < e.1.length) then some e else best) none

/-- Does the text hold a reference to a visible name? -/
def hasReference (table : Dict Text) : Text → Bool
  | [] => false
  | c :: cs => (c = '$' && (longestName? table.entries cs).isSome) || hasReference table cs

/-- The text with each reference replaced by the value of the longest name that fits; `skip` characters
belong to a name that was replaced. -/
def replaceReferences (table : Dict Text) : Nat → Text → Text
  | _, [] => []
  | skip + 1, _ :: cs => replaceReferences table skip cs
  | 0, c :: cs =>
    if c = '$' then
      match longestName? table.entries cs with
      | some (name, value) => value ++ replaceReferences table name.length cs
      | none => c :: replaceReferences table 0 cs
    else c :: replaceReferences table 0 cs

/-- One pass over a text. -/
def pass (table : Dict Text) (t : Text) : Text := replaceReferences table 0 t

/-! ### Rounds -/

/-- The line whose references do not come to an end. -/
structure PossibleCycle where
  /-- The line as it was before the first pass. -/
  line : Text
  deriving DecidableEq

/-- What the cycle is reported as. -/
def PossibleCycle.message (e : PossibleCycle) : Text := "possible cycle detected in: " ++ e.line

/-- The number of passes that are made at most. -/
def maxRounds : Nat := 10

/-- Repeat the pass until it changes nothing, at most so many times. A text that a pass does not change
but that holds a reference refers to itself. -/
def settle (table : Dict Text) (line : Text) : Nat → Text → Except PossibleCycle Text
  | 0, _ => .error ⟨line⟩
  | rounds + 1, t =>
    let next := pass table t
    if next = t then
      if hasReference table t then .error ⟨line⟩ else .ok t
    else settle table line rounds next

/-- The line with all references expanded that are visible from the scope. -/
def substitute (vars : Dict Text) (s : Scope) (line : Text) : Except PossibleCycle Text :=
  settle (s.visible vars) line maxRounds line

end Rollout
