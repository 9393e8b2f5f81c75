import HtmlToHaml.DocTree.Snapshot
import HtmlToHaml.Proofs.Forest.Walks

/-!
# The trees in a forest

In a store with consistent links every node stands for a tree, its shape. The nodes below a node are
those of its shape, each of them once and in document order, and what a whole subtree says is read
off the shape.
-/

namespace HtmlToHaml.DocTree

/-- The characters a leaf adds to the text of what holds it. -/
def Leaf.characters : Leaf → List Char
  | .text content | .cdata content => content.toList
  | _ => []

mutual

/-- The text of a tree. -/
def Shape.text : Shape → List Char
  | .branch _ children => Shape.textAll children
  | .leaf content => content.characters

/-- The text of trees. -/
def Shape.textAll : List Shape → List Char
  | [] => []
  | tree :: rest => tree.text ++ Shape.textAll rest

end

/-- The text of everything below the top of a tree. -/
def Shape.innerText : Shape → List Char
  | .branch _ children => Shape.textAll children
  | .leaf _ => []

/-- The content of a text. -/
def Shape.content? : Shape → Option (List Char)
  | .leaf (.text content) => some content.toList
  | _ => none

/-- Only a text has content of its own. -/
theorem Shape.exists_of_content? {tree : Shape} {text : List Char} (h : tree.content? = some text) :
    ∃ content, tree = .leaf (.text content) ∧ content.toList = text := by
  cases tree with
  | branch kind children => cases h
  | leaf leaf =>
    cases leaf with
    | text content => exact ⟨content, rfl, Option.some.inj h⟩
    | comment _ | cdata _ | doctype _ _ _ | instruction _ => cases h

/-- Whether a tree is an element of a given name. -/
def Shape.isNamed (name : String) : Shape → Bool
  | .branch (.element other _ _) _ => other == name
  | _ => false

namespace Store

mutual

/-- The tree at a node is a given one. -/
def Shows (store : Store) (id : NodeId) : Shape → Prop
  | .branch kind children =>
    store.data? id = some (.branch kind) ∧ store.ShowsAll (store.children id) children
  | .leaf content => store.data? id = some (.leaf content) ∧ store.children id = []

/-- The trees at some nodes are given ones. -/
def ShowsAll (store : Store) : List NodeId → List Shape → Prop
  | [], [] => True
  | id :: ids, tree :: rest => store.Shows id tree ∧ store.ShowsAll ids rest
  | _, _ => False

end

/-- The links are consistent, and nothing stands below a leaf. -/
structure Forest (store : Store) : Prop where
  /-- The links are those of a forest. -/
  consistent : store.Consistent
  /-- A leaf has no children. -/
  bare : ∀ {id leaf}, store.data? id = some (.leaf leaf) → store.children id = []

variable {store : Store} {id n : NodeId} {ids : List NodeId} {tree : Shape} {trees : List Shape}

/-- A node with content is in the store. -/
theorem lt_size_of_data? {data : NodeData} (h : store.data? id = some data) : id < store.size := by
  by_contra hc
  have hn : store.node? (some id) = none := by simpa [node?, size] using hc
  simp [data?, hn] at h

/-- What a text says is its content. -/
theorem text?_eq : store.text? id =
    match store.data? id with
    | some (.text content) => some content
    | _ => none :=
  rfl

/-- What a node adds to the text is what its leaf adds. -/
theorem characters_eq : store.characters id =
    match store.data? id with
    | some (.leaf content) => content.characters
    | _ => [] := by
  rw [characters]
  cases store.data? id with
  | none => rfl
  | some data =>
    cases data with
    | branch kind => rfl
    | leaf content => cases content <;> rfl

/-- A text shows its content. -/
theorem text?_of_shows (hs : store.Shows id tree) :
    (store.text? id).map String.toList = tree.content? := by
  cases tree with
  | branch kind children =>
    rw [Shows] at hs
    rw [text?_eq, hs.1]
    rfl
  | leaf leaf =>
    rw [Shows] at hs
    rw [text?_eq, hs.1]
    cases leaf <;> rfl

/-- A text shows a text. -/
theorem isText_of_shows (hs : store.Shows id tree) : store.isText id = tree.content?.isSome := by
  rw [← text?_of_shows hs, Option.isSome_map, isText]

/-- An element shows its name. -/
theorem isElementNamed_of_shows {name : String} (hs : store.Shows id tree) :
    store.isElementNamed id name = tree.isNamed name := by
  cases tree with
  | branch kind children =>
    rw [Shows] at hs
    rw [isElementNamed, elementName?, hs.1]
    cases kind <;> rfl
  | leaf leaf =>
    rw [Shows] at hs
    rw [isElementNamed, elementName?, hs.1]
    rfl

/-- No nodes show no trees. -/
theorem showsAll_nil : store.ShowsAll [] trees ↔ trees = [] := by
  cases trees with
  | nil => simp [ShowsAll]
  | cons tree more => simp [ShowsAll]

/-- The first of some nodes shows the first of their trees. -/
theorem showsAll_cons : store.ShowsAll (id :: ids) trees ↔
    ∃ tree more, trees = tree :: more ∧ store.Shows id tree ∧ store.ShowsAll ids more := by
  cases trees with
  | nil => simp [ShowsAll]
  | cons tree more => simp [ShowsAll]

mutual

/-- A node and what is below it say what its tree says. -/
theorem Shows.flatMap_listed (h : store.Consistent) :
    ∀ {tree : Shape} {id : NodeId}, store.Shows id tree →
      (store.listed id).flatMap store.characters = tree.text
  | .branch kind trees, id, hs => by
    rw [Shows] at hs
    rw [listed, List.flatMap_cons, characters_eq, hs.1, h.descendants_eq, hs.2.flatMap_listed h]
    rfl
  | .leaf content, id, hs => by
    rw [Shows] at hs
    rw [listed, List.flatMap_cons, characters_eq, hs.1, h.descendants_eq, hs.2, List.flatMap_nil,
      List.flatMap_nil, List.append_nil]
    rfl

/-- Some nodes and what is below them say what their trees say. -/
theorem ShowsAll.flatMap_listed (h : store.Consistent) :
    ∀ {trees : List Shape} {ids : List NodeId}, store.ShowsAll ids trees →
      (ids.flatMap store.listed).flatMap store.characters = Shape.textAll trees
  | [], [], _ => rfl
  | tree :: trees, id :: ids, hs => by
    rw [ShowsAll] at hs
    rw [List.flatMap_cons, List.flatMap_append, hs.1.flatMap_listed h, hs.2.flatMap_listed h,
      Shape.textAll]
  | _ :: _, [], hs => by rw [ShowsAll] at hs <;> simp_all
  | [], _ :: _, hs => by rw [ShowsAll] at hs <;> simp_all

end

/-- **The text below a node is that of its tree.** -/
theorem Shows.innerText (h : store.Consistent) (hs : store.Shows id tree) :
    store.innerText id = tree.innerText := by
  rw [Store.innerText, h.descendants_eq]
  cases tree with
  | branch kind trees =>
    rw [Shows] at hs
    exact hs.2.flatMap_listed h
  | leaf content =>
    rw [Shows] at hs
    rw [hs.2]
    rfl

/-- Nodes that each stand for a tree stand for a row of trees. -/
theorem exists_showsAll : ∀ {ids : List NodeId}, (∀ id ∈ ids, ∃ tree, store.Shows id tree) →
    ∃ trees, store.ShowsAll ids trees
  | [], _ => ⟨[], by rw [ShowsAll]; trivial⟩
  | id :: ids, hall => by
    obtain ⟨tree, ht⟩ := hall id List.mem_cons_self
    obtain ⟨trees, hts⟩ := exists_showsAll fun id hid => hall id (List.mem_cons_of_mem _ hid)
    exact ⟨tree :: trees, by rw [ShowsAll]; exact ⟨ht, hts⟩⟩

/-- **Every node of a forest stands for a tree.** -/
theorem Forest.exists_shows (h : store.Forest) (hi : id < store.size) :
    ∃ tree, store.Shows id tree := by
  induction id using h.consistent.grounded.induction with
  | _ id ih =>
    obtain ⟨node, hn⟩ : ∃ node, store.node? (some id) = some node :=
      ⟨store.nodes[id], Array.getElem?_eq_getElem hi⟩
    have hdata : store.data? id = some node.data := by rw [data?, hn]; rfl
    cases hd : node.data with
    | leaf content =>
      rw [hd] at hdata
      exact ⟨.leaf content, by rw [Shows]; exact ⟨hdata, h.bare hdata⟩⟩
    | branch kind =>
      rw [hd] at hdata
      obtain ⟨trees, ht⟩ := exists_showsAll fun child hc => ih child hc (h.consistent.lt_size hc)
      exact ⟨.branch kind trees, by rw [Shows]; exact ⟨hdata, ht⟩⟩

/-- A branch of a forest stands for a tree with that branch on top. -/
theorem Forest.exists_shows_branch (h : store.Forest) {kind : Branch}
    (hd : store.data? id = some (.branch kind)) : ∃ trees, store.Shows id (.branch kind trees) := by
  obtain ⟨tree, hs⟩ := h.exists_shows (lt_size_of_data? hd)
  cases tree with
  | branch found trees =>
    have hfound := hs
    rw [Shows] at hfound
    cases hd.symm.trans hfound.1
    exact ⟨trees, hs⟩
  | leaf content =>
    rw [Shows] at hs
    cases hd.symm.trans hs.1

end Store

end HtmlToHaml.DocTree
