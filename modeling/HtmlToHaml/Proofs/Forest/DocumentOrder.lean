import HtmlToHaml.Proofs.Forest.Depth
import HtmlToHaml.Proofs.Forest.Order

/-!
# Document order

What a store says is read off the nodes in the order in which a walk passes them, and this is the
order of the recursion on the tree. So the text below a node is the text below the top of its
snapshot, and an element is found by its name where the first one of that name stands in the tree.
-/

namespace HtmlToHaml.DocTree.Store

variable {store : Store} {id : NodeId}

/-- **Every node of a forest has a snapshot, and the text below the node is the text below the top
of it.** A number that stands for no node has an empty document as its snapshot. -/
theorem Forest.exists_snapshotAt (h : store.Forest) (id : NodeId) :
    ∃ tree : Shape, (∀ limit levels, store.snapshotAt limit levels id = tree.upTo limit levels) ∧
      store.innerText id = tree.innerText := by
  by_cases hid : id < store.size
  · obtain ⟨tree, hs⟩ := h.exists_shows hid
    exact ⟨tree, fun _ _ => hs.snapshotAt, hs.innerText h.consistent⟩
  · have hdata : store.data? id = none := by
      cases hd : store.data? id with
      | none => rfl
      | some data => exact absurd (lt_size_of_data? hd) hid
    have hchildren := h.consistent.children_eq_nil (Nat.not_lt.1 hid)
    refine ⟨.branch .document [], fun limit levels => ?_, ?_⟩
    · cases levels with
      | zero => rfl
      | succ levels =>
        rw [snapshotAt, hdata]
        rfl
    · rw [innerText, h.descendants_eq, hchildren]
      rfl

/-- An element is found by its name exactly if it is the first one of that name. -/
theorem findByTag?_eq_some_iff {name : String} : store.findByTag? name = some id ↔
    ∃ before after, store.listed store.root = before ++ id :: after ∧
      store.isElementNamed id name = true ∧ ∀ n ∈ before, store.isElementNamed n name = false := by
  rw [findByTag?, find?, List.find?_eq_some_iff_append]
  simp only [Bool.not_eq_true']
  constructor
  · rintro ⟨hname, before, after, he, hbefore⟩
    exact ⟨before, after, he, hname, hbefore⟩
  · rintro ⟨before, after, he, hname, hbefore⟩
    exact ⟨hname, before, after, he, hbefore⟩

/-- No element is found exactly if the tree has none of that name. -/
theorem Consistent.findByTag?_eq_none_iff (h : store.Consistent) {name : String} :
    store.findByTag? name = none ↔
      ∀ n, store.Within n store.root → store.isElementNamed n name = false := by
  rw [findByTag?, find?, List.find?_eq_none]
  simp only [h.mem_cons_descendants, Bool.not_eq_true]

/-- **A walk over a stack is the recursion on the tree.** Below any node it ends and passes exactly
the nodes below that node, each of them once and each child before what is below it; the first
element of a name in this order is the one that is found by its name. Where nothing stands below
leaves, every node has a snapshot, and the text below the node is that of the texts and character
data sections below the top of its snapshot. -/
theorem descendants_documentOrder (h : store.Consistent) :
    (∀ id,
      (∀ ids, store.Passes (store.pending id) ids ↔ ids = store.descendants id) ∧
        store.descendants id = store.preorder store.size id ∧
        store.descendants id =
          (store.children id).flatMap (fun child => child :: store.descendants child) ∧
        (∀ n, n ∈ store.descendants id ↔ store.Within n id ∧ n ≠ id) ∧
        (store.descendants id).Nodup) ∧
      (∀ name,
        (∀ id, store.findByTag? name = some id ↔
          ∃ before after, store.root :: store.descendants store.root = before ++ id :: after ∧
            store.isElementNamed id name = true ∧
            ∀ n ∈ before, store.isElementNamed n name = false) ∧
          (store.findByTag? name = none ↔
            ∀ n, store.Within n store.root → store.isElementNamed n name = false)) ∧
      (store.Forest → ∀ id, ∃ tree : Shape,
        (∀ limit levels, store.snapshotAt limit levels id = tree.upTo limit levels) ∧
          store.innerText id = tree.innerText) := by
  refine ⟨fun id => ⟨fun ids => h.passes_iff id, ?_, h.descendants_eq id,
      fun n => h.mem_descendants, h.nodup_descendants id⟩,
    fun name => ⟨fun id => findByTag?_eq_some_iff, h.findByTag?_eq_none_iff⟩,
    fun hforest => hforest.exists_snapshotAt⟩
  exact (h.preorder_eq (h.length_descendants_le id)).symm

/-- A list of two items, the first one with character data, in front of a text. -/
def listAndText : List Shape :=
  [.branch (.element "ul" [] false)
      [.branch (.element "li" [] false) [.leaf (.text "one"), .leaf (.cdata " & ")],
        .branch (.element "li" [] false) []],
    .leaf (.text "two")]

/-- All of it is passed from the root, its first item is found, and its text is that of its
snapshot. -/
theorem descendants_documentOrder_listAndText :
    (Shape.build .fragment listAndText).Consistent ∧ (Shape.build .fragment listAndText).Forest ∧
      (Shape.build .fragment listAndText).Passes [6, 1] [1, 2, 3, 4, 5, 6] ∧
      (Shape.build .fragment listAndText).findByTag? "li" = some 2 ∧
      ∃ tree : Shape, (Shape.build .fragment listAndText).snapshotAt 3 4 0 = tree.upTo 3 4 ∧
        "one & two".toList = tree.innerText := by
  have hforest := (forest_build .fragment listAndText).1
  obtain ⟨hwalk, hfound, htext⟩ := descendants_documentOrder hforest.consistent
  have hids : [1, 2, 3, 4, 5, 6] = (Shape.build .fragment listAndText).descendants 0 := by
    decide +kernel
  refine ⟨hforest.consistent, hforest, ((hwalk 0).1 _).2 hids, ((hfound "li").1 2).2 ?_, ?_⟩
  · exact ⟨[0, 1], [3, 4, 5, 6], congrArg (0 :: ·) hids.symm, by decide +kernel, by decide +kernel⟩
  · obtain ⟨tree, hshot, hinner⟩ := htext hforest 0
    have hread : (Shape.build .fragment listAndText).innerText 0 = "one & two".toList := by
      decide +kernel
    exact ⟨tree, hshot 3 4, hread.symm.trans hinner⟩

/-- A piece of a document that holds nothing but a text. -/
def textAlone : List Shape :=
  [.leaf (.text "x")]

/-- **What a text says is not below it**: the snapshot of a text has that text at its top. -/
theorem not_innerText_eq_text :
    ¬ ∀ store : Store, store.Forest → ∀ id limit levels tree,
      store.snapshotAt limit levels id = .ok tree → store.innerText id = tree.text := by
  intro hall
  have hshot : (Shape.build .fragment textAlone).snapshotAt 1 1 1 = .ok (.leaf (.text "x")) := rfl
  have htext := hall _ (forest_build .fragment textAlone).1 1 1 1 _ hshot
  exact absurd htext (by decide +kernel)

end HtmlToHaml.DocTree.Store
