/-! The nodes of a YAML document. -/

namespace Kindred.Yaml

/-- How a scalar is written. -/
inductive Style where
  | plain
  | quoted
  | literal
  | folded
deriving DecidableEq, Repr

/-- A tag: a handle such as two exclamation marks, and a name. -/
structure Tag where
  handle : String
  name : String
deriving DecidableEq, Repr

/-- The name of a tag that every reader of YAML knows. -/
def Tag.coreName? (tag : Tag) : Option String :=
  if tag.handle = "!!" then some tag.name else none

/-- A scalar. What it stands for depends on its style and its tag. -/
structure Scalar where
  text : String
  style : Style := .plain
  tag : Option Tag := none
deriving DecidableEq, Repr, Inhabited

/-- A node. -/
inductive Node where
  | scalar (scalar : Scalar)
  | sequence (items : List Node)
  /-- The entries in the order in which they are written. -/
  | mapping (entries : List (Node × Node))
  /-- The node that has an anchor, given by the number of the anchor. -/
  | alias (anchor : Nat)
deriving Inhabited

/-- A document: its outermost node, and the nodes with anchors, the last one first. -/
structure Document where
  root : Node
  anchored : List (Nat × Node)

/-- The node that a node stands for. -/
def Document.node? (document : Document) : Node → Option Node
  | .alias anchor => document.anchored.lookup anchor
  | node => some node

/-- The scalar that a node stands for. -/
def Document.scalar? (document : Document) (node : Node) : Option Scalar :=
  match document.node? node with
  | some (.scalar scalar) => some scalar
  | _ => none

end Kindred.Yaml
