import HtmlToHaml.DocTree.Walk

/-!
# The stack of a walk

A walk goes on from node to node with nothing at hand but the nodes that are still to come, the next
one last. Each step takes a node from the end, puts its children there and turns these around, so
that the first of them comes next.
-/

namespace HtmlToHaml.DocTree.Store

/-- The stack that a walk below a node begins with. -/
def pending (store : Store) (id : NodeId) : List NodeId :=
  (store.children id).reverse

/-- The next node of a walk and the stack for the nodes behind it; nothing where the walk ends. -/
def next? (store : Store) (stack : List NodeId) : Option (NodeId × List NodeId) :=
  stack.getLast?.map fun id =>
    let start := stack.dropLast.length
    let extended := stack.dropLast ++ store.children id
    (id, extended.take start ++ (extended.drop start).reverse)

end HtmlToHaml.DocTree.Store
