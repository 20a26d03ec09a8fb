/-
The nodes of a document: scalars, sequences and mappings with their tags, and aliases, which stand
for the node that has their name as an anchor.
-/
import StagedRollout.Outer.Yaml.Tag

namespace StagedRollout.Yaml

inductive Node where
  | scalar (anchor : Option String) (tag : Tag) (text : String)
  | sequence (anchor : Option String) (tag : Tag) (items : List Node)
  | mapping (anchor : Option String) (tag : Tag) (rows : List (Node × Node))
  | alias (name : String)

namespace Node

instance : Inhabited Node := ⟨.scalar none .null ""⟩

/-- A node that is not written out. -/
def empty : Node := .scalar none .null ""

def anchor? : Node → Option String
  | .scalar anchor _ _ => anchor
  | .sequence anchor _ _ => anchor
  | .mapping anchor _ _ => anchor
  | .alias _ => none

/-- The tag of a node; an alias has none of its own. -/
def tag? : Node → Option Tag
  | .scalar _ tag _ => some tag
  | .sequence _ tag _ => some tag
  | .mapping _ tag _ => some tag
  | .alias _ => none

mutual

/-- A node and all nodes inside it. -/
def nodes : Node → List Node
  | .sequence anchor tag items => .sequence anchor tag items :: nodesOfList items
  | .mapping anchor tag rows => .mapping anchor tag rows :: nodesOfRows rows
  | node => [node]

def nodesOfList : List Node → List Node
  | [] => []
  | node :: rest => nodes node ++ nodesOfList rest

def nodesOfRows : List (Node × Node) → List Node
  | [] => []
  | (k, v) :: rest => nodes k ++ nodes v ++ nodesOfRows rest

end

/-- The nodes that aliases can stand for, by anchor. -/
def anchored (node : Node) : List (String × Node) :=
  node.nodes.filterMap fun n => n.anchor?.map fun name => (name, n)

end Node

end StagedRollout.Yaml
