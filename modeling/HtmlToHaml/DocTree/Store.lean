import HtmlToHaml.DocTree.Node

/-!
# The node store

All nodes of a tree stand in one array and point at each other by number, so that a node can be
moved by changing links alone. Children are the chain from the first child along the next siblings;
the parent and the previous sibling are for looking back only. Every operation accepts links that
lead nowhere: a lookup there gives nothing and a change there changes nothing.
-/

namespace HtmlToHaml.DocTree

/-- Nodes by number, and the number of the root. -/
structure Store where
  /-- The nodes in the order of their creation. -/
  nodes : Array Node
  /-- The number of the root. -/
  root : NodeId
  deriving DecidableEq, Repr

namespace Store

/-- A store that holds a root only. -/
def ofRoot (data : NodeData) : Store :=
  ⟨#[{ data }], 0⟩

/-- A tree for a whole document. -/
def document : Store := ofRoot .document

/-- A tree for a piece of a document. -/
def fragment : Store := ofRoot .fragment

/-- The number of nodes, those that are no longer linked included. -/
def size (store : Store) : Nat :=
  store.nodes.size

/-- The node a link leads to. -/
def node? (store : Store) (link : Link) : Option Node :=
  link.bind (store.nodes[·]?)

/-- What the node with a given number is. -/
def data? (store : Store) (id : NodeId) : Option NodeData :=
  (store.node? id).map Node.data

/-- The node above. -/
def parent? (store : Store) (id : NodeId) : Link :=
  (store.node? id).bind Node.parent

/-- The first child. -/
def firstChild? (store : Store) (id : NodeId) : Link :=
  (store.node? id).bind Node.firstChild

/-- The last child. -/
def lastChild? (store : Store) (id : NodeId) : Link :=
  (store.node? id).bind Node.lastChild

/-- The sibling before. -/
def prevSibling? (store : Store) (id : NodeId) : Link :=
  (store.node? id).bind Node.prevSibling

/-- The sibling after. -/
def nextSibling? (store : Store) (id : NodeId) : Link :=
  (store.node? id).bind Node.nextSibling

/-- The store with one node changed, if the link leads to one. -/
def modify (store : Store) (link : Link) (f : Node → Node) : Store :=
  match link with
  | some id => { store with nodes := store.nodes.modify id f }
  | none => store

/-- The store with a new unlinked node, and the node's number. -/
def create (store : Store) (data : NodeData) : Store × NodeId :=
  ({ store with nodes := store.nodes.push { data } }, store.size)

/-- The store with a new unlinked leaf, in which empty identifiers count as absent. -/
def createLeaf (store : Store) (leaf : Leaf) : Store × NodeId :=
  store.create (.leaf leaf.normal)

/-- A change leaves the number of nodes as it is. -/
@[simp] theorem size_modify (store : Store) (link : Link) (f : Node → Node) :
    (store.modify link f).size = store.size := by
  cases link <;> simp [modify, size]

/-- A change leaves the root as it is. -/
@[simp] theorem root_modify (store : Store) (link : Link) (f : Node → Node) :
    (store.modify link f).root = store.root := by
  cases link <;> rfl

/-- A change is seen at the node it was made to and at no other. -/
theorem node?_modify (store : Store) (link : Link) (f : Node → Node) (id : NodeId) :
    (store.modify link f).node? id =
      if link = some id then (store.node? id).map f else store.node? id := by
  cases link with
  | none => rfl
  | some k => simp [modify, node?, Array.getElem?_modify]

/-- Puts a node at the end of a parent's children. -/
def append (store : Store) (parent child : Link) : Store :=
  let last := (store.node? parent).bind Node.lastChild
  let store := store.modify child fun node =>
    { node with parent := parent, prevSibling := last, nextSibling := none }
  let store := store.modify last fun node => { node with nextSibling := child }
  store.modify parent fun node =>
    { node with firstChild := node.firstChild.or child, lastChild := child }

/-- Puts a node right before one of a parent's children. -/
def insertBefore (store : Store) (sibling new : Link) : Store :=
  let parent := (store.node? sibling).bind Node.parent
  let prev := (store.node? sibling).bind Node.prevSibling
  let store := store.modify new fun node =>
    { node with parent := parent, prevSibling := prev, nextSibling := sibling }
  let store := store.modify sibling fun node => { node with prevSibling := new }
  if prev.isSome then store.modify prev fun node => { node with nextSibling := new }
  else store.modify parent fun node => { node with firstChild := new }

/-- The content of the text node a link leads to. -/
def textAt? (store : Store) (link : Link) : Option String :=
  match (store.node? link).map Node.data with
  | some (.text content) => some content
  | _ => none

/-- The node with more text, if it is a text. -/
def extendText (more : String) (node : Node) : Node :=
  match node.data with
  | .text content => { node with data := .text (content ++ more) }
  | _ => node

/-- Puts text at the end of a parent's children, joined to a text that stands there. -/
def appendText (store : Store) (parent : Link) (more : String) : Store :=
  let last := (store.node? parent).bind Node.lastChild
  if (store.textAt? last).isSome then store.modify last (extendText more)
  else
    let (store, id) := store.create (.text more)
    store.append parent id

/-- Takes a node away from its parent and its siblings. -/
def detach (store : Store) (target : Link) : Store :=
  match store.node? target with
  | none => store
  | some node =>
    let store :=
      if node.prevSibling.isSome then
        store.modify node.prevSibling fun prev => { prev with nextSibling := node.nextSibling }
      else store.modify node.parent fun above => { above with firstChild := node.nextSibling }
    let store :=
      if node.nextSibling.isSome then
        store.modify node.nextSibling fun next => { next with prevSibling := node.prevSibling }
      else store.modify node.parent fun above => { above with lastChild := node.prevSibling }
    store.modify target fun self =>
      { self with parent := none, prevSibling := none, nextSibling := none }

/-- The numbers along the next siblings, at most `n` of them. -/
def chain (store : Store) : Nat → Link → List NodeId
  | 0, _ => []
  | _ + 1, none => []
  | n + 1, some id => id :: store.chain n (store.nextSibling? id)

/-- The children of a node in order. Along a chain that ends, no number comes twice and only the
last one can lead nowhere, so one more step than there are nodes is enough. -/
def children (store : Store) (id : NodeId) : List NodeId :=
  store.chain (store.size + 1) (store.firstChild? id)

/-- Moves the children of one node to the end of another's. -/
def reparentChildren (store : Store) (source target : Link) : Store :=
  ((source.map store.children).getD []).foldl
    (fun store child => (store.detach (some child)).append target child) store

/-- The tree re-rooted at a new fragment that holds the children of a container. -/
def intoFragment (store : Store) (container : Link) : Store :=
  let (store, id) := store.create .fragment
  { store.reparentChildren container id with root := id }

end Store

end HtmlToHaml.DocTree
