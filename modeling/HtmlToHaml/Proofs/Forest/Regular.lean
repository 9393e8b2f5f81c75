import HtmlToHaml.Proofs.Forest.Order
import Mathlib.Data.List.Chain

/-!
# Regular trees

A tree is regular if its links are consistent, its nodes are numbered in document order, what closes
itself holds nothing, only the root and elements hold anything, and no two texts stand side by side.
What a shape says about each of its parts holds of each node of a store that shows it, so a store
that is built out of tidy shapes is regular.
-/

namespace HtmlToHaml.DocTree

mutual

/-- Every part of a tree, the tree itself included, satisfies a condition. -/
def Shape.Every (P : Shape → Prop) : Shape → Prop
  | .branch kind children => P (.branch kind children) ∧ Shape.AllEvery P children
  | .leaf content => P (.leaf content)

/-- Every part of some trees satisfies a condition. -/
def Shape.AllEvery (P : Shape → Prop) : List Shape → Prop
  | [] => True
  | tree :: rest => tree.Every P ∧ Shape.AllEvery P rest

end

/-- No two texts stand side by side. -/
def Shape.Apart (trees : List Shape) : Prop :=
  trees.IsChain fun a b => ¬ (a.content?.isSome ∧ b.content?.isSome)

/-- A part of a tree is a leaf as a tree holds it, or an element whose texts are apart and which
holds nothing if it closes itself. -/
def Shape.Tidy : Shape → Prop
  | .branch (.element _ _ selfClosing) children =>
    (selfClosing = true → children = []) ∧ Shape.Apart children
  | .branch _ _ => False
  | .leaf content => content.normal = content

variable {P : Shape → Prop} {tree : Shape} {trees : List Shape}

/-- A tree is one of its parts. -/
theorem Shape.Every.self (h : tree.Every P) : P tree := by
  cases tree with
  | branch kind children => exact h.1
  | leaf content => exact h

/-- The condition on some trees is the condition on each of them. -/
theorem Shape.allEvery_iff : Shape.AllEvery P trees ↔ ∀ tree ∈ trees, tree.Every P := by
  induction trees with
  | nil => simp [Shape.AllEvery]
  | cons tree trees ih => rw [Shape.AllEvery, ih, List.forall_mem_cons]

mutual

/-- A tree of tidy parts is as a tree holds it. -/
theorem Shape.normal_of_tidy : ∀ {tree : Shape}, tree.Every Shape.Tidy → tree.normal = tree
  | .branch kind children, h => by rw [Shape.normal, Shape.allNormal_of_tidy h.2]
  | .leaf content, h => congrArg Shape.leaf h

/-- Trees of tidy parts are as a tree holds them. -/
theorem Shape.allNormal_of_tidy : ∀ {trees : List Shape}, Shape.AllEvery Shape.Tidy trees →
    Shape.allNormal trees = trees
  | [], _ => rfl
  | tree :: trees, h => by
    rw [Shape.allNormal, Shape.normal_of_tidy h.1, Shape.allNormal_of_tidy h.2]

end

namespace Store

variable {store : Store} {id n a b : NodeId} {ids : List NodeId} {kind : Branch}

/-- Each of the nodes shows one of the trees. -/
theorem ShowsAll.exists_mem : ∀ {ids : List NodeId} {trees : List Shape}, store.ShowsAll ids trees →
    ∀ id ∈ ids, ∃ tree ∈ trees, store.Shows id tree
  | [], _, _, _, hid => by cases hid
  | id :: ids, [], hs, _, _ => by rw [ShowsAll] at hs <;> simp_all
  | first :: ids, tree :: trees, hs, id, hid => by
    rw [ShowsAll] at hs
    rcases List.mem_cons.1 hid with rfl | hid
    · exact ⟨tree, List.mem_cons_self, hs.1⟩
    · obtain ⟨other, hm, ho⟩ := hs.2.exists_mem id hid
      exact ⟨other, List.mem_cons_of_mem _ hm, ho⟩

/-- Every node within a shown tree shows a part of it. -/
theorem Shows.exists_part (hs : store.Shows id tree) (he : tree.Every P) (hw : store.Within n id) :
    ∃ part, store.Shows n part ∧ part.Every P := by
  induction hw using Relation.ReflTransGen.head_induction_on with
  | refl => exact ⟨tree, hs, he⟩
  | @head child parent hc _ ih =>
    obtain ⟨part, hpart, hevery⟩ := ih
    cases part with
    | leaf content =>
      rw [Shows] at hpart
      rw [hpart.2] at hc
      cases hc
    | branch kind children =>
      rw [Shows] at hpart
      obtain ⟨below, hm, hbelow⟩ := hpart.2.exists_mem child hc
      exact ⟨below, hbelow, Shape.allEvery_iff.1 hevery.2 below hm⟩

/-- Nodes that show trees with their texts apart have their texts apart. -/
theorem ShowsAll.apart : ∀ {ids : List NodeId} {trees : List Shape}, store.ShowsAll ids trees →
    Shape.Apart trees → ids.IsChain fun a b => ¬ (store.isText a ∧ store.isText b)
  | [], _, _, _ => .nil
  | [_], _, _, _ => .singleton _
  | first :: second :: ids, [], hs, _ => by rw [ShowsAll] at hs <;> simp_all
  | first :: second :: ids, [_], hs, _ => by
    rw [ShowsAll] at hs
    rw [ShowsAll] at hs <;> simp_all
  | first :: second :: ids, tree :: other :: trees, hs, ha => by
    rw [ShowsAll] at hs
    have hrest := hs.2
    rw [ShowsAll] at hrest
    rw [Shape.Apart, List.isChain_cons_cons] at ha
    rw [List.isChain_cons_cons, isText_of_shows hs.1, isText_of_shows hrest.1]
    exact ⟨ha.1, hs.2.apart ha.2⟩

/-- A node and its next sibling are neighbours among the children of one parent. -/
theorem Consistent.exists_neighbours (h : store.Consistent) (hn : store.nextSibling? a = some b) :
    ∃ parent before after, store.children parent = before ++ a :: b :: after := by
  cases hp : store.parent? a with
  | none =>
    rw [(h.loose hp).2] at hn
    cases hn
  | some parent =>
    obtain ⟨before, after, hk⟩ := List.append_of_mem (h.parent.2 hp)
    have hnext : after.head? = some b := ((hk ▸ h.ring parent).between.2).symm.trans hn
    obtain ⟨rest, rfl⟩ := List.head?_eq_some_iff.1 hnext
    exact ⟨parent, before, rest, hk⟩

/-- What holds of every tree that is read from a row of events. -/
structure Regular (store : Store) : Prop where
  /-- The links are those of a forest. -/
  consistent : store.Consistent
  /-- In document order the nodes have the numbers from zero on. -/
  ordered : store.root :: store.descendants store.root = List.range store.size
  /-- An element that closes itself holds nothing. -/
  closed : ∀ id, store.isSelfClosing id = true → store.children id = []
  /-- Only the root and elements hold anything. -/
  holders : ∀ id, store.children id ≠ [] → id = store.root ∨ (store.elementName? id).isSome
  /-- Two texts are no neighbours. -/
  apart : ∀ a b, store.nextSibling? a = some b → ¬ (store.isText a ∧ store.isText b)

/-- A node of a numbered tree is the root or shows a part of what the root holds. -/
theorem Shows.root_or_part (h : store.Consistent)
    (ho : store.root :: store.descendants store.root = List.range store.size)
    (hs : store.Shows store.root (.branch kind trees)) (hall : Shape.AllEvery P trees)
    (hid : id < store.size) : id = store.root ∨ ∃ part, store.Shows id part ∧ P part := by
  have hw : store.Within id store.root := by
    rw [← h.mem_cons_descendants, ho]
    exact List.mem_range.2 hid
  rw [Shows] at hs
  rcases (within_iff _ _).1 hw with rfl | ⟨child, hc, hw⟩
  · exact Or.inl rfl
  · obtain ⟨tree, hm, htree⟩ := hs.2.exists_mem child hc
    obtain ⟨part, hpart, hevery⟩ := htree.exists_part (Shape.allEvery_iff.1 hall tree hm) hw
    exact Or.inr ⟨part, hpart, hevery.self⟩

/-- A node that shows a tidy part holds something only if it is an element that does not close
itself. -/
theorem Shows.tidy (hs : store.Shows id tree) (ht : tree.Tidy) (hk : store.children id ≠ []) :
    store.isSelfClosing id = false ∧ (store.elementName? id).isSome := by
  cases tree with
  | leaf content =>
    rw [Shows] at hs
    exact absurd hs.2 hk
  | branch kind trees =>
    rw [Shows] at hs
    cases kind with
    | document | fragment => exact absurd ht not_false
    | element name attributes selfClosing =>
      rw [isSelfClosing, elementName?, hs.1]
      refine ⟨?_, rfl⟩
      change selfClosing = false
      rw [Bool.eq_false_iff]
      intro hclosed
      obtain ⟨child, hc⟩ := List.exists_mem_of_ne_nil _ hk
      obtain ⟨tree, hm, -⟩ := hs.2.exists_mem child hc
      rw [ht.1 hclosed] at hm
      cases hm

/-- The texts below a node that shows a tidy part are apart. -/
theorem Shows.apart (hs : store.Shows id tree) (ht : tree.Tidy) :
    (store.children id).IsChain fun a b => ¬ (store.isText a ∧ store.isText b) := by
  cases tree with
  | leaf content =>
    rw [Shows] at hs
    rw [hs.2]
    exact .nil
  | branch kind trees =>
    rw [Shows] at hs
    cases kind with
    | document | fragment => exact absurd ht not_false
    | element name attributes selfClosing => exact hs.2.apart ht.2

/-- **A store whose root holds tidy trees and whose nodes are numbered in document order is
regular.** -/
theorem Shows.regular (h : store.Consistent)
    (ho : store.root :: store.descendants store.root = List.range store.size)
    (hs : store.Shows store.root (.branch kind trees)) (hkind : kind = .document ∨ kind = .fragment)
    (ha : Shape.Apart trees) (hall : Shape.AllEvery Shape.Tidy trees) : store.Regular := by
  have hroot : store.data? store.root = some (.branch kind) ∧
      store.ShowsAll (store.children store.root) trees := by rwa [Shows] at hs
  have hself : store.isSelfClosing store.root = false := by
    rw [isSelfClosing, hroot.1]
    rcases hkind with rfl | rfl <;> rfl
  refine ⟨h, ho, fun id hclosed => ?_, fun id hk => ?_, fun a b hnext htexts => ?_⟩
  · by_contra hk
    have hlt : id < store.size := by
      by_contra hge
      exact hk (h.children_eq_nil (Nat.not_lt.1 hge))
    rcases hs.root_or_part h ho hall hlt with rfl | ⟨part, hpart, ht⟩
    · simp [hself] at hclosed
    · simp [(hpart.tidy ht hk).1] at hclosed
  · have hlt : id < store.size := by
      by_contra hge
      exact hk (h.children_eq_nil (Nat.not_lt.1 hge))
    rcases hs.root_or_part h ho hall hlt with rfl | ⟨part, hpart, ht⟩
    · exact Or.inl rfl
    · exact Or.inr (hpart.tidy ht hk).2
  · obtain ⟨parent, before, after, hk⟩ := h.exists_neighbours hnext
    have hm : a ∈ store.children parent := by rw [hk]; simp
    have hlt : parent < store.size := h.parent_lt_size hm
    have hchain : (store.children parent).IsChain fun a b =>
        ¬ (store.isText a ∧ store.isText b) := by
      rcases hs.root_or_part h ho hall hlt with rfl | ⟨part, hpart, ht⟩
      · exact hroot.2.apart ha
      · exact hpart.apart ht
    rw [hk] at hchain
    exact (List.isChain_append_cons_cons.1 hchain).2.1 htexts

/-- **A store that is built out of tidy trees is regular.** -/
theorem regular_build (hkind : kind = .document ∨ kind = .fragment) (ha : Shape.Apart trees)
    (hall : Shape.AllEvery Shape.Tidy trees) : (Shape.build kind trees).Regular := by
  obtain ⟨hforest, hroot, -⟩ := forest_build kind trees
  refine (shows_build kind (Shape.allNormal_of_tidy hall)).regular hforest.consistent ?_
    hkind ha hall
  rw [hroot]
  exact listed_build kind trees

end Store

end HtmlToHaml.DocTree
