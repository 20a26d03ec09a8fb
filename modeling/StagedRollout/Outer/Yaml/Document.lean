/-
The value of a document. Collections are filled level by level: first the root's parts, then the
parts of those, so of two faults the one nearer to the root shows. A mapping may take over the rows
of others under the key of merging, and a node that stands inside itself is cut off.
-/
import StagedRollout.Outer.Yaml.Node.Parser
import StagedRollout.Outer.Yaml.Scalar

namespace StagedRollout.Yaml

/-- A root node, and the nodes that aliases stand for. -/
structure Document where
  root : Node
  anchors : List (String × Node)

namespace Document

def ofNode (node : Node) : Document := ⟨node, node.anchored⟩

/-- The node that a node stands for. -/
def target (d : Document) : Node → Node
  | .alias name => (d.anchors.lookup name).getD Node.empty
  | node => node

def refuse {α : Type} : Except Fault α := .error (.yaml .constructor)

/-! ## Merged rows -/

def isMergeKey (node : Node) : Bool := node.tag? = some .merge

/-- The rows of a mapping after those that it takes over: the rows of a mapping under the key of
merging, or those of several mappings, of which the first one counts most. -/
def mergedRows (d : Document) : Nat → List (Node × Node) → Except Fault (List (Node × Node))
  | 0, rows => .ok (rows.filter fun row => !isMergeKey row.1)
  | fuel + 1, rows => do
    let taken ← (rows.filter fun row => isMergeKey row.1).mapM fun row =>
      match d.target row.2 with
      | .mapping _ _ inner => mergedRows d fuel inner
      | .sequence _ _ items => do
        let parts ← items.mapM fun item =>
          match d.target item with
          | .mapping _ _ inner => mergedRows d fuel inner
          | _ => refuse
        return parts.reverse.flatten
      | _ => refuse
    return taken.flatten ++ rows.filter fun row => !isMergeKey row.1

/-- The rows of a mapping with all that it takes over. -/
def allRows (d : Document) (rows : List (Node × Node)) : Except Fault (List (Node × Node)) :=
  mergedRows d (d.anchors.length + 1) rows

/-! ## Faults, level by level -/

/-- The text of a node under a scalar's tag, so many nodes deep. A mapping has the text under the
key of its own value. -/
def nestedText (d : Document) : Nat → Node → Except Fault String
  | 0, _ => refuse
  | fuel + 1, node =>
    match d.target node with
    | .scalar _ _ s => .ok s
    | .mapping _ _ rows =>
      match rows.find? fun row => (d.target row.1).tag? = some .value with
      | some row => nestedText d fuel row.2
      | none => refuse
    | _ => refuse

/-- The text of a node under a scalar's tag. -/
def scalarText (d : Document) (node : Node) : Except Fault String :=
  match d.target node with
  | .scalar _ _ s => .ok s
  | node => nestedText d (d.root.nodes.length + 1) node

/-- The tag of the node that a node stands for. -/
def tagOf (d : Document) (node : Node) : Tag := (d.target node).tag?.getD .null

/-- The value of a node that is no collection. -/
def scalarValue (d : Document) (node : Node) : Except Fault Value := do
  Scalar.read (d.tagOf node) (← scalarText d node)

/-- A node of a level: a scalar is read, a collection is left for the next level. -/
def checkNode (d : Document) (node : Node) : Except Fault (List Node) :=
  if (d.tagOf node).isCollection then .ok [d.target node]
  else do
    let _ ← scalarValue d node
    return []

/-- A key, which must be no collection. -/
def checkKey (d : Document) (node : Node) : Except Fault Unit :=
  if (d.tagOf node).isCollection then refuse
  else if d.tagOf node = .value then .ok ()
  else do
    let _ ← scalarValue d node

/-- The rows of a mapping. -/
def checkRows (d : Document) (rows : List (Node × Node)) : Except Fault (List Node) := do
  let parts ← (← allRows d rows).mapM fun row => do
    checkKey d row.1
    checkNode d row.2
  return parts.flatten

/-- The entries of an ordered map: mappings of one row each. -/
def checkPairs (d : Document) (items : List Node) : Except Fault (List Node) := do
  let parts ← items.mapM fun item =>
    match d.target item with
    | .mapping _ _ [(k, v)] => do
      let first ← checkNode d k
      let second ← checkNode d v
      return first ++ second
    | _ => refuse
  return parts.flatten

/-- The collections inside a collection, whose parts are read. -/
def checkParts (d : Document) (node : Node) : Except Fault (List Node) :=
  match node.tag?, node with
  | some .sequence, .sequence _ _ items => return (← items.mapM (checkNode d)).flatten
  | some .orderedMap, .sequence _ _ items => checkPairs d items
  | some .pairs, .sequence _ _ items => checkPairs d items
  | some .mapping, .mapping _ _ rows => checkRows d rows
  | some .set, .mapping _ _ rows => checkRows d rows
  | _, _ => refuse

/-- The nodes of a level that were not met before, and the anchors met by then. -/
def newNodes (seen : List String) : List Node → List Node × List String
  | [] => ([], seen)
  | node :: rest =>
    match node.anchor? with
    | some name =>
      if seen.contains name then newNodes seen rest
      else
        let (nodes, seen) := newNodes (name :: seen) rest
        (node :: nodes, seen)
    | none =>
      let (nodes, seen) := newNodes seen rest
      (node :: nodes, seen)

/-- Reads level after level. -/
def checkLevels (d : Document) : Nat → List String → List Node → Except Fault Unit
  | 0, _, _ => .ok ()
  | fuel + 1, seen, level => do
    let (nodes, seen) := newNodes seen level
    let inner ← nodes.mapM (checkParts d)
    if inner.flatten.isEmpty then return () else checkLevels d fuel seen inner.flatten

/-- The first fault of a document, if there is one. -/
def check (d : Document) : Except Fault Unit := do
  checkLevels d (d.root.nodes.length + 1) [] (← checkNode d d.root)

/-! ## Values -/

/-- What an alias stands for: its value, its text as a scalar, and the rows that it brings to a
mapping that merges it. -/
structure Target where
  value : Value
  text : String
  rows : List (Key × Value)

/-- The value of an alias that stands inside its own node. -/
def cutOff (node : Node) : Value :=
  match node with
  | .mapping _ .mapping _ => .object []
  | _ => .list []

/-- The value of a scalar without a fault. -/
def plainValue (tag : Tag) (s : String) : Value :=
  match Scalar.read tag s with
  | .ok v => v
  | .error _ => .null

/-- A value as a key; the key of a mapping's own value is a text. -/
def keyOf (node : Node) (v : Value) : Key :=
  match node with
  | .scalar _ .value s => .text s
  | _ => v.toKey?.getD .null

/-- The value of a mapping's rows under a tag. Under a scalar's tag only the mapping's own text
counts. -/
def rowsValue (tag : Tag) (text : String) (rows : List (Key × Value)) : Value :=
  match tag with
  | .set => .list ((Table.ofRows rows).map fun row => row.1.toValue)
  | .mapping => .object (Table.ofRows rows)
  | tag => plainValue tag text

/-- A row as an entry of an ordered map. -/
def pairValue (rows : List (Key × Value)) : Value :=
  match rows with
  | [(k, v)] => .list [k.toValue, v]
  | _ => .null

/-- Whether the entries of a sequence are single rows. -/
def holdsPairs : Tag → Bool
  | .orderedMap => true
  | .pairs => true
  | _ => false

mutual

/-- The text of a node under a scalar's tag, given what aliases stand for. -/
def textOf (targets : String → Target) : Node → String
  | .scalar _ _ s => s
  | .mapping _ _ rows => ownText targets rows
  | .sequence _ _ _ => ""
  | .alias name => (targets name).text

/-- The text under the key of a mapping's own value. -/
def ownText (targets : String → Target) : List (Node × Node) → String
  | [] => ""
  | (k, v) :: rest => if k.tag? = some .value then textOf targets v else ownText targets rest

end

mutual

/-- The value of a node, given what aliases stand for. -/
def valueOf (targets : String → Target) : Node → Value
  | .scalar _ tag s => plainValue tag s
  | .sequence _ tag items =>
    if holdsPairs tag then .list (pairsOf targets items) else .list (valuesOf targets items)
  | .mapping _ tag rows =>
    rowsValue tag (ownText targets rows) (takenRows targets rows ++ ownRows targets rows)
  | .alias name => (targets name).value

def valuesOf (targets : String → Target) : List Node → List Value
  | [] => []
  | node :: rest => valueOf targets node :: valuesOf targets rest

def pairsOf (targets : String → Target) : List Node → List Value
  | [] => []
  | node :: rest => pairValue (rowsOf targets node) :: pairsOf targets rest

/-- The rows that a node brings to a mapping that merges it. -/
def rowsOf (targets : String → Target) : Node → List (Key × Value)
  | .scalar _ _ _ => []
  | .sequence _ _ items => rowsOfList targets items
  | .mapping _ _ rows => takenRows targets rows ++ ownRows targets rows
  | .alias name => (targets name).rows

/-- The rows of several nodes, those of the last one first. -/
def rowsOfList (targets : String → Target) : List Node → List (Key × Value)
  | [] => []
  | node :: rest => rowsOfList targets rest ++ rowsOf targets node

/-- The rows that a mapping takes over. -/
def takenRows (targets : String → Target) : List (Node × Node) → List (Key × Value)
  | [] => []
  | (k, v) :: rest =>
    if isMergeKey k then rowsOf targets v ++ takenRows targets rest else takenRows targets rest

/-- The rows of a mapping without those that it takes over. -/
def ownRows (targets : String → Target) : List (Node × Node) → List (Key × Value)
  | [] => []
  | (k, v) :: rest =>
    if isMergeKey k then ownRows targets rest
    else (keyOf k (valueOf targets k), valueOf targets v) :: ownRows targets rest

end

/-- What an alias stands for, looking so many aliases deep. -/
def targetOf (d : Document) : Nat → String → Target
  | 0, name => ⟨cutOff (d.target (.alias name)), "", []⟩
  | fuel + 1, name =>
    let node := d.target (.alias name)
    let targets := targetOf d fuel
    ⟨valueOf targets node, textOf targets node, rowsOf targets node⟩

/-- The value of a document without a fault. -/
def value (d : Document) : Value := valueOf (targetOf d (d.anchors.length + 1)) d.root

end Document

/-! ## Texts -/

/-- The value of a text; a text without a document is null. -/
def read (s : String) : Except Fault Value := do
  if !s.toList.all isPrintable then throw (.yaml .reader)
  match ← Node.ofText? s with
  | none => return .null
  | some node =>
    let d := Document.ofNode node
    d.check
    return d.value

end StagedRollout.Yaml
