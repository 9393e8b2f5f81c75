import HtmlToHaml.Proofs.Forest.Built

/-!
# The order of creation

A store that is built out of a shape creates its nodes in document order: listing the nodes below
the root counts their numbers up. What is below a node is listed child by child, and growth
elsewhere leaves the list as it is, so the numbers that a subtree got stay together.
-/

namespace HtmlToHaml.DocTree

mutual

/-- The number of nodes of a tree. -/
def Shape.nodeCount : Shape → Nat
  | .branch _ children => Shape.allNodeCount children + 1
  | .leaf _ => 1

/-- The number of nodes of some trees. -/
def Shape.allNodeCount : List Shape → Nat
  | [] => 0
  | tree :: rest => tree.nodeCount + Shape.allNodeCount rest

end

namespace Store

variable {store store' : Store} {parent id : NodeId} {kind : Branch}

/-- In a forest too, what is below a node is listed child by child. -/
theorem Forest.descendants_eq (h : store.Forest) (id : NodeId) :
    store.descendants id = (store.children id).flatMap store.listed :=
  h.consistent.descendants_eq id

/-- Below a node there is nothing new as long as nothing below it has new children. -/
theorem Forest.descendants_congr (h : store.Forest) (h' : store'.Forest) {id : NodeId}
    (hsame : ∀ n, store.Within n id → store'.children n = store.children n) :
    store'.descendants id = store.descendants id := by
  induction id using h.consistent.grounded.induction with
  | _ id ih =>
    rw [h'.descendants_eq, h.descendants_eq, hsame id .refl]
    refine List.flatMap_congr fun child hc => ?_
    rw [listed, listed, ih child hc fun n hn => hsame n (hn.tail hc)]

/-- The nodes of a tree that grew below the first new number are numbered in document order. -/
structure Counted (store store' : Store) (new : List NodeId) (count : Nat) : Prop where
  /-- The store has so many more nodes. -/
  size : store'.size = store.size + count
  /-- They are listed in the order of their numbers. -/
  listed : new.flatMap store'.listed = List.range' store.size count

/-- A branch is added by adding what it holds below a new node. -/
theorem addTo_branch (parent : NodeId) (store : Store) (kind : Branch) (trees : List Shape) :
    Shape.addTo parent store (.branch kind trees) =
      Shape.addAllTo store.size ((store.create (.branch kind)).1.append parent store.size)
        trees := by
  rw [Shape.addTo]
  rfl

/-- A leaf is added as a new node. -/
theorem addTo_leaf (parent : NodeId) (store : Store) (content : Leaf) :
    Shape.addTo parent store (.leaf content) =
      (store.create (.leaf content.normal)).1.append parent store.size :=
  rfl

/-- The numbers of a new node and of the nodes below it stay together. -/
theorem Forest.counted_of_below {mid : Store} {ids : List NodeId} {count : Nat} (h' : store'.Forest)
    (hmid : mid.size = store.size + 1) (hk : store'.children store.size = ids)
    (hc : Counted mid store' ids count) : Counted store store' [store.size] (count + 1) := by
  constructor
  · rw [hc.size, hmid, Nat.add_assoc, Nat.add_comm 1]
  · rw [List.flatMap_singleton, Store.listed, h'.descendants_eq, hk, hc.listed, hmid,
      List.range'_succ]

/-- Trees that are added one behind the other have their numbers one behind the other. -/
theorem Forest.counted_cons {mid : Store} {ids : List NodeId} {first rest : Nat} (h : mid.Forest)
    (hp : store.size ∈ mid.children parent) (hfirst : Counted store mid [store.size] first)
    (hg : Grown mid store' parent ids) (hrest : Counted mid store' ids rest) :
    Counted store store' (store.size :: ids) (first + rest) := by
  have hold : store'.descendants store.size = mid.descendants store.size := by
    refine h.descendants_congr hg.forest fun n hn => ?_
    have hn' := h.consistent.lt_size_of_within hn (h.consistent.lt_size hp)
    refine hg.children n hn' ?_
    rintro rfl
    exact h.consistent.not_within hp hn
  have hlisted := hfirst.listed
  rw [List.flatMap_singleton, Store.listed] at hlisted
  constructor
  · rw [hrest.size, hfirst.size, Nat.add_assoc]
  · rw [List.flatMap_cons, Store.listed, hold, hlisted, hrest.listed, hfirst.size,
      List.range'_append_1]

mutual

/-- A tree that is added is numbered in document order. -/
theorem Forest.counted_addTo :
    ∀ (tree : Shape) {store : Store} {parent : NodeId} {kind : Branch}, store.Forest →
      store.data? parent = some (.branch kind) →
      Counted store (Shape.addTo parent store tree) [store.size] tree.nodeCount
  | .branch kind trees, store, parent, _, h, hp => by
    obtain ⟨hg, hd, hc⟩ := h.append_create hp (.branch kind)
    obtain ⟨ids, hg', -⟩ := hg.forest.addAllTo trees hd
    have hk := hg'.children_parent
    rw [hc, List.nil_append] at hk
    rw [addTo_branch, Shape.nodeCount]
    exact hg'.forest.counted_of_below (by simp) hk (hg.forest.counted_addAllTo trees hd hg')
  | .leaf content, store, parent, _, h, hp => by
    obtain ⟨hg, hd, hc⟩ := h.append_create hp (.leaf content.normal)
    rw [addTo_leaf, Shape.nodeCount]
    exact hg.forest.counted_of_below (by simp) hc ⟨rfl, rfl⟩

/-- Trees that are added are numbered in document order. -/
theorem Forest.counted_addAllTo :
    ∀ (trees : List Shape) {store : Store} {parent : NodeId} {kind : Branch} {ids : List NodeId},
      store.Forest → store.data? parent = some (.branch kind) →
      Grown store (Shape.addAllTo parent store trees) parent ids →
      Counted store (Shape.addAllTo parent store trees) ids (Shape.allNodeCount trees)
  | [], store, parent, _, ids, h, hp, hg => by
    have hk := hg.children_parent
    rw [Shape.addAllTo, List.self_eq_append_right] at hk
    rw [hk]
    exact ⟨rfl, rfl⟩
  | tree :: trees, store, parent, kind, ids, h, hp, hg => by
    obtain ⟨hfirst, -⟩ := h.addTo tree hp
    have hp' := (hfirst.data? parent (lt_size_of_data? hp)).trans hp
    obtain ⟨more, hrest, -⟩ := hfirst.forest.addAllTo trees hp'
    have hids : ids = store.size :: more :=
      List.append_cancel_left (hg.children_parent.symm.trans (hfirst.trans hrest).children_parent)
    have hm : store.size ∈ (Shape.addTo parent store tree).children parent := by
      rw [hfirst.children_parent]
      simp
    rw [hids, Shape.allNodeCount]
    exact hfirst.forest.counted_cons hm (h.counted_addTo tree hp) hrest
      (hfirst.forest.counted_addAllTo trees hp' hrest)

end

/-- **The nodes of a store that is built out of shapes are numbered in document order.** -/
theorem listed_build (kind : Branch) (trees : List Shape) :
    (Shape.build kind trees).listed 0 = List.range (Shape.build kind trees).size := by
  have hkind : (ofRoot (.branch kind)).data? 0 = some (.branch kind) := rfl
  obtain ⟨ids, hg, -⟩ := (forest_ofRoot kind).addAllTo trees hkind
  have hcount := (forest_ofRoot kind).counted_addAllTo trees hkind hg
  have hk := hg.children_parent
  rw [(links_ofRoot (.branch kind)).children_eq, List.nil_append] at hk
  have hall : (Shape.build kind trees).descendants 0 =
      List.range' 1 (Shape.allNodeCount trees) := by
    rw [Shape.build, hg.forest.descendants_eq, hk]
    exact hcount.listed
  have hsize : (Shape.build kind trees).size = Shape.allNodeCount trees + 1 :=
    hcount.size.trans (Nat.add_comm _ _)
  rw [listed, hall, hsize, List.range_eq_range', List.range'_succ]

end Store

end HtmlToHaml.DocTree
