import Rollout.Dict
import Rollout.Text.Basic

/-!
Tags and hosts. A selection names all tags or some of them; as a list the tags are separated by commas,
with no regard to blanks around them, to order, or to repetition. An inventory lists the tags of each
host. It can be turned around into the hosts of each tag, and narrowed to the tags of a selection.
-/

namespace Rollout

/-! ### Selections -/

/-- The tag that stands for every tag, and that no host may carry. -/
def allTag : Text := "all".toList

/-- Which tags are wanted. -/
inductive TagSelection
  /-- Every tag. -/
  | all
  /-- The tags of a set. -/
  | only (tags : Dict Unit)
  deriving DecidableEq

/-- Why a list of tags is no selection. -/
inductive SelectionError
  /-- There is no tag in it. -/
  | noTags
  /-- The tag for all tags stands beside others. -/
  | allAmongOthers
  deriving DecidableEq

/-- What the error is reported as. -/
def SelectionError.message : SelectionError → Text
  | .noTags => "no tags given"
  | .allAmongOthers => "cannot use '" ++ allTag ++ "' tag alongside others"

namespace TagSelection

/-- A set of tags. -/
def tagSet (tags : List Text) : Dict Unit := Dict.ofList (tags.map fun t => (t, ()))

/-- The selection of one tag. -/
def single (tag : Text) : TagSelection := .only (tagSet [tag])

/-- Is the tag wanted? -/
def contains : TagSelection → Text → Bool
  | .all, _ => true
  | .only tags, tag => tags.contains tag

/-- The tags of a list. -/
def pieces (t : Text) : List Text := ((Text.split ',' t).map Text.trim).filter (· ≠ [])

/-- The selection that a list of tags describes. -/
def parse (t : Text) : Except SelectionError TagSelection :=
  let tags := tagSet (pieces t)
  if tags.isEmpty then .error .noTags
  else if tags.contains allTag then
    if tags.keys.length > 1 then .error .allAmongOthers else .ok .all
  else .ok (.only tags)

/-- The selection as a list of tags. -/
def display : TagSelection → Text
  | .all => allTag
  | .only tags => Text.commaList tags.keys

end TagSelection

/-! ### Inventories -/

/-- Hosts with their tags. -/
structure Inventory where
  /-- The tags of each host, in the order in which they are listed. -/
  hosts : Dict (List Text)
  deriving DecidableEq

/-- Why an inventory cannot be narrowed to a selection. -/
inductive SelectError
  /-- A host carries the tag that stands for all tags. -/
  | reservedTag
  /-- No host carries these wanted tags. -/
  | undefinedTags (tags : List Text)
  /-- No host is left. -/
  | noHosts
  deriving DecidableEq

/-- What the error is reported as. -/
def SelectError.message : SelectError → Text
  | .reservedTag => "reserved keyword '" ++ allTag ++ "' cannot be an inventory tag"
  | .undefinedTags tags => "tags not defined in inventory: " ++ Text.commaList tags
  | .noHosts => "no hosts in inventory"

namespace Inventory

/-- The tags of all hosts, one host after the other. -/
def allTags (inv : Inventory) : List Text := inv.hosts.values.flatten

/-- Add a host to a tag, unless it is there already. -/
def addHost (host : Text) (byTag : Dict (List Text)) (tag : Text) : Dict (List Text) :=
  let hosts := (byTag.get? tag).getD []
  if hosts.contains host then byTag else byTag.insert tag (hosts ++ [host])

/-- The hosts of each tag. -/
def hostsByTag (inv : Inventory) : Dict (List Text) :=
  inv.hosts.entries.foldl (fun byTag e => e.2.foldl (addHost e.1) byTag) .empty

/-- Each host with its wanted tags, without the hosts that are left with none. -/
def narrow (inv : Inventory) (s : TagSelection) : Inventory :=
  ⟨(inv.hosts.map fun _ tags => tags.filter s.contains).filter fun _ tags => !tags.isEmpty⟩

/-- The wanted tags that no host carries, in ascending order. -/
def missing (inv : Inventory) : TagSelection → List Text
  | .all => []
  | .only wanted => wanted.keys.filter fun tag => !inv.allTags.contains tag

/-- The inventory with nothing but the wanted tags and the hosts that carry one. -/
def select (inv : Inventory) (s : TagSelection) : Except SelectError Inventory :=
  if inv.allTags.contains allTag then .error .reservedTag
  else
    let narrowed := inv.narrow s
    if narrowed.missing s ≠ [] then .error (.undefinedTags (narrowed.missing s))
    else if narrowed.hosts.isEmpty then .error .noHosts
    else .ok narrowed

end Inventory

end Rollout
