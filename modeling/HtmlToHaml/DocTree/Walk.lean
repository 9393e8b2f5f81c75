import HtmlToHaml.DocTree.Store

/-!
# Reading a tree

The nodes below a node are listed in document order by a walk over a stack of pending nodes:
the first one is taken, and its children are put in its place. `preorder` states the same order by
recursion on the tree. What a whole subtree says, its text above all, is read off that list.
-/

namespace HtmlToHaml.DocTree.Store

/-- The nodes of the pending subtrees in document order, at most `n` of them. -/
def walk (store : Store) : Nat → List NodeId → List NodeId
  | 0, _ => []
  | _ + 1, [] => []
  | n + 1, id :: pending => id :: store.walk n (store.children id ++ pending)

/-- The nodes below a node in document order. A walk that ends passes along each of the two ways
on from a node, to its first child and to its next sibling, at most once per chain of distinct
nodes, so it ends within the bound given here. -/
def descendants (store : Store) (id : NodeId) : List NodeId :=
  store.walk (Nat.pow 2 (store.size + 1)) (store.children id)

/-- The nodes below a node, down to `n` levels: each child, then what is below it. -/
def preorder (store : Store) : Nat → NodeId → List NodeId
  | 0, _ => []
  | n + 1, id => (store.children id).flatMap fun child => child :: store.preorder n child

/-- The name of an element. -/
def elementName? (store : Store) (id : NodeId) : Option String :=
  match store.data? id with
  | some (.element name _ _) => some name
  | _ => none

/-- Whether a node is an element of a given name. -/
def isElementNamed (store : Store) (id : NodeId) (name : String) : Bool :=
  store.elementName? id == some name

/-- The attributes of an element, none for any other node. -/
def attributes (store : Store) (id : NodeId) : List Attribute :=
  match store.data? id with
  | some (.element _ attributes _) => attributes
  | _ => []

/-- The value of an attribute, the first one of its name. -/
def attribute? (store : Store) (id : NodeId) (name : String) : Option String :=
  ((store.attributes id).find? (·.name == name)).map Attribute.value

/-- Whether a node is an element that closes itself. -/
def isSelfClosing (store : Store) (id : NodeId) : Bool :=
  match store.data? id with
  | some (.element _ _ selfClosing) => selfClosing
  | _ => false

/-- The content of a text node. -/
def text? (store : Store) (id : NodeId) : Option String :=
  store.textAt? id

/-- Whether a node is a text. -/
def isText (store : Store) (id : NodeId) : Bool :=
  (store.text? id).isSome

/-- The characters a node adds to the text of what holds it: those of texts and of character data
sections. -/
def characters (store : Store) (id : NodeId) : List Char :=
  match store.data? id with
  | some (.text content) | some (.cdata content) => content.toList
  | _ => []

/-- The text of everything below a node. -/
def innerText (store : Store) (id : NodeId) : List Char :=
  (store.descendants id).flatMap store.characters

/-- The first node in document order that satisfies a condition. -/
def find? (store : Store) (p : NodeId → Bool) : Option NodeId :=
  (store.root :: store.descendants store.root).find? p

/-- The first element of a given name in document order. -/
def findByTag? (store : Store) (name : String) : Option NodeId :=
  store.find? (store.isElementNamed · name)

/-- Whether the tree holds nothing below its root. -/
def isEmpty (store : Store) : Bool :=
  (store.firstChild? store.root).isNone

end HtmlToHaml.DocTree.Store
