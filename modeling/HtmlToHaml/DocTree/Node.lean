/-!
# Nodes

A node of a document tree is a branch, which may hold children, or a leaf, which is text of some
kind. Nodes know each other by number: the links of a `Node` are numbers or nothing.
-/

namespace HtmlToHaml.DocTree

/-- A name with its value. -/
structure Attribute where
  /-- The name as written in the tree. -/
  name : String
  /-- The value after decoding. -/
  value : String
  deriving DecidableEq, Repr

/-- A node that may hold children. -/
inductive Branch where
  /-- The root of a whole document. -/
  | document
  /-- The root of a piece of a document. -/
  | fragment
  /-- An element; one that closes itself is written with a slash. -/
  | element (name : String) (attributes : List Attribute) (selfClosing : Bool)
  deriving DecidableEq, Repr

/-- A node without children. -/
inductive Leaf where
  /-- Character data. -/
  | text (content : String)
  /-- A comment. -/
  | comment (content : String)
  /-- A character data section. -/
  | cdata (content : String)
  /-- A document type with its public and system identifiers. -/
  | doctype (name : String) (externalId systemId : Option String)
  /-- A processing instruction. -/
  | instruction (content : String)
  deriving DecidableEq, Repr

/-- What a node is. -/
inductive NodeData where
  /-- A node that may hold children. -/
  | branch (branch : Branch)
  /-- A node without children. -/
  | leaf (leaf : Leaf)
  deriving DecidableEq, Repr

namespace NodeData

/-- The root of a whole document. -/
@[match_pattern] abbrev document : NodeData := .branch .document

/-- The root of a piece of a document. -/
@[match_pattern] abbrev fragment : NodeData := .branch .fragment

/-- An element. -/
@[match_pattern] abbrev element (name : String) (attributes : List Attribute)
    (selfClosing : Bool) : NodeData := .branch (.element name attributes selfClosing)

/-- Character data. -/
@[match_pattern] abbrev text (content : String) : NodeData := .leaf (.text content)

/-- A comment. -/
@[match_pattern] abbrev comment (content : String) : NodeData := .leaf (.comment content)

/-- A character data section. -/
@[match_pattern] abbrev cdata (content : String) : NodeData := .leaf (.cdata content)

/-- A document type. -/
@[match_pattern] abbrev doctype (name : String) (externalId systemId : Option String) : NodeData :=
  .leaf (.doctype name externalId systemId)

/-- A processing instruction. -/
@[match_pattern] abbrev instruction (content : String) : NodeData := .leaf (.instruction content)

end NodeData

/-- An identifier of a document type; an empty one counts as absent. -/
def presentId (id : Option String) : Option String :=
  id.filter (· ≠ "")

/-- The leaf as a tree holds it: empty identifiers of a document type are absent. -/
def Leaf.normal : Leaf → Leaf
  | .doctype name externalId systemId => .doctype name (presentId externalId) (presentId systemId)
  | leaf => leaf

/-- The number of a node: the order of its creation, from zero. -/
abbrev NodeId := Nat

/-- A node or nothing. -/
abbrev Link := Option NodeId

/-- A node with its place among the others. -/
structure Node where
  /-- What the node is. -/
  data : NodeData
  /-- The node above. -/
  parent : Link := none
  /-- The first of the children. -/
  firstChild : Link := none
  /-- The last of the children. -/
  lastChild : Link := none
  /-- The child before, under the same parent. -/
  prevSibling : Link := none
  /-- The child after, under the same parent. -/
  nextSibling : Link := none
  deriving DecidableEq, Repr

end HtmlToHaml.DocTree
