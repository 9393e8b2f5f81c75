import HtmlToHaml.Failure
import HtmlToHaml.DocTree.Store

/-!
# Trees as values

A `Shape` is a document tree without node numbers. `Shape.build` makes a store out of one,
parents before children and in document order; `Store.snapshot` reads the tree back and refuses one
that is deeper than a limit.
-/

namespace HtmlToHaml.DocTree

/-- A document tree as a value. -/
inductive Shape where
  /-- A node with its children. -/
  | branch (kind : Branch) (children : List Shape)
  /-- A node without children. -/
  | leaf (content : Leaf)
  deriving Repr

mutual

/-- Adds a tree at the end of a parent's children. -/
def Shape.addTo (parent : NodeId) (store : Store) : Shape → Store
  | .branch kind children =>
    let (store, id) := store.create (.branch kind)
    Shape.addAllTo id (store.append parent id) children
  | .leaf content =>
    let (store, id) := store.createLeaf content
    store.append parent id

/-- Adds trees at the end of a parent's children. -/
def Shape.addAllTo (parent : NodeId) (store : Store) : List Shape → Store
  | [] => store
  | tree :: rest => Shape.addAllTo parent (Shape.addTo parent store tree) rest

end

/-- A store that holds a root with the given children. -/
def Shape.build (root : Branch) (children : List Shape) : Store :=
  Shape.addAllTo 0 (Store.ofRoot (.branch root)) children

namespace Store

/-- The subtree at a node, if at most `levels` levels of it are needed, the node's own included;
`limit` is what the failure reports. A number that stands for no node reads as an empty document. -/
def snapshotAt (store : Store) (limit : Nat) : (levels : Nat) → NodeId → Except Failure Shape
  | 0, _ => .error (.tooDeep limit)
  | levels + 1, id =>
    match store.data? id with
    | some (.leaf content) => .ok (.leaf content)
    | some (.branch kind) =>
      (.branch kind ·) <$> (store.children id).mapM (store.snapshotAt limit levels)
    | none => .ok (.branch .document [])

/-- The whole tree, unless it goes deeper than the limit below its root. -/
def snapshot (store : Store) (limit : Nat) : Except Failure Shape :=
  store.snapshotAt limit (limit + 1) store.root

end Store

end HtmlToHaml.DocTree
