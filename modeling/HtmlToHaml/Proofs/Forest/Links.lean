import HtmlToHaml.DocTree.Store
import Mathlib.Data.List.Perm.Subperm
import Mathlib.Logic.Relation
import Mathlib.Order.WellFounded

/-!
# Consistent links

The children of a node form a ring: from the node itself to the first child, along the next siblings
and from the last child back to the node, and the same ring the other way round. `Store.Links` says
that every node has such a ring and that the rings make up a forest. The main statement is that the
children a store lists are then those of the rings.
-/

namespace HtmlToHaml.DocTree.Store

/-- The next place on the ring of a parent; nothing stands for the parent itself. -/
def forward (store : Store) (parent : NodeId) : Link → Link
  | none => store.firstChild? parent
  | some child => store.nextSibling? child

/-- The previous place on the ring of a parent; nothing stands for the parent itself. -/
def backward (store : Store) (parent : NodeId) : Link → Link
  | none => store.lastChild? parent
  | some child => store.prevSibling? child

/-- Two places of a ring lead to each other. -/
def Joined (store : Store) (parent : NodeId) (a b : Link) : Prop :=
  store.forward parent a = b ∧ store.backward parent b = a

/-- The ring of a parent runs through a list of children: wherever the list is cut, the places on
both sides of the cut are joined. -/
def Ring (store : Store) (parent : NodeId) (children : List NodeId) : Prop :=
  ∀ before after, children = before ++ after → store.Joined parent before.getLast? after.head?

/-- The links of a store are those of a forest with the given children. -/
structure Links (store : Store) (kids : NodeId → List NodeId) : Prop where
  /-- The children of every node are joined in their order. -/
  ring : ∀ parent, store.Ring parent (kids parent)
  /-- No node is listed twice. -/
  nodup : ∀ parent, (kids parent).Nodup
  /-- A node knows whose child it is. -/
  parent : ∀ {parent child}, child ∈ kids parent ↔ store.parent? child = some parent
  /-- A node without a parent has no siblings. -/
  loose : ∀ {child}, store.parent? child = none →
    store.prevSibling? child = none ∧ store.nextSibling? child = none
  /-- No node is below itself. -/
  grounded : WellFounded fun child parent => child ∈ kids parent

/-- The links of a store are consistent: those of the forest that it lists. -/
def Consistent (store : Store) : Prop :=
  store.Links store.children

/-- A node is another one or stands below it. -/
def Within (store : Store) (id top : NodeId) : Prop :=
  Relation.ReflTransGen (fun child parent => child ∈ store.children parent) id top

variable {store : Store} {kids : NodeId → List NodeId} {parent child : NodeId}

/-- A child stands between the last of those before it and the first of those after it. -/
theorem Ring.between {before after : List NodeId}
    (h : store.Ring parent (before ++ child :: after)) :
    store.prevSibling? child = before.getLast? ∧ store.nextSibling? child = after.head? := by
  have hb := (h before (child :: after) rfl).2
  have ha := (h (before ++ [child]) after (by simp)).1
  rw [List.getLast?_concat] at ha
  exact ⟨hb, ha⟩

/-- A ring begins with its first node. -/
theorem Ring.firstChild? {children : List NodeId} (h : store.Ring parent children) :
    store.firstChild? parent = children.head? :=
  (h [] children rfl).1

/-- A ring ends with its last node. -/
theorem Ring.lastChild? {children : List NodeId} (h : store.Ring parent children) :
    store.lastChild? parent = children.getLast? :=
  (h children [] (List.append_nil _).symm).2

/-- Following the next siblings along a ring gives the rest of its nodes. -/
theorem Ring.chain {children before after : List NodeId} (h : store.Ring parent children)
    (he : children = before ++ after) {n : Nat} (hn : after.length < n) :
    store.chain n after.head? = after := by
  induction after generalizing n before with
  | nil =>
    obtain ⟨n, rfl⟩ : ∃ m, n = m + 1 := ⟨n - 1, by simp at hn; omega⟩
    rfl
  | cons x after ih =>
    obtain ⟨n, rfl⟩ : ∃ m, n = m + 1 := ⟨n - 1, by simp at hn; omega⟩
    have hx : store.nextSibling? x = after.head? := (he ▸ h).between.2
    simp only [List.head?_cons, Store.chain, hx]
    have hrest : children = (before ++ [x]) ++ after := by simpa using he
    rw [ih hrest (by simpa using hn)]

/-- A node with a parent is in the store. -/
theorem lt_size_of_parent? (h : store.parent? child = some parent) : child < store.size := by
  by_contra hc
  have hn : store.node? (some child) = none := by
    simpa [node?, size] using hc
  simp [parent?, hn] at h

/-- A node with a first child is in the store. -/
theorem lt_size_of_firstChild? (h : store.firstChild? parent = some child) :
    parent < store.size := by
  by_contra hc
  have hn : store.node? (some parent) = none := by
    simpa [node?, size] using hc
  simp [firstChild?, hn] at h

namespace Links

/-- Children are in the store. -/
theorem lt_size (h : store.Links kids) (hc : child ∈ kids parent) : child < store.size :=
  lt_size_of_parent? (h.parent.1 hc)

/-- Parents are in the store. -/
theorem parent_lt_size (h : store.Links kids) (hc : child ∈ kids parent) :
    parent < store.size := by
  obtain ⟨first, hf⟩ : ∃ first, (kids parent).head? = some first := by
    cases hk : kids parent with
    | nil => simp [hk] at hc
    | cons first rest => exact ⟨first, rfl⟩
  exact lt_size_of_firstChild? ((h.ring parent).firstChild?.trans hf)

/-- There are no more children than nodes. -/
theorem length_le (h : store.Links kids) (parent : NodeId) :
    (kids parent).length ≤ store.size := by
  have hs : kids parent ⊆ List.range store.size :=
    fun _ hc => List.mem_range.2 (h.lt_size hc)
  simpa using ((h.nodup parent).subperm hs).length_le

/-- The children that a store lists are those of its rings. -/
theorem children_eq (h : store.Links kids) (parent : NodeId) :
    store.children parent = kids parent := by
  rw [children, (h.ring parent).firstChild?]
  have he : kids parent = [] ++ kids parent := rfl
  exact (h.ring parent).chain he (Nat.lt_succ_of_le (h.length_le parent))

/-- The links of a forest are consistent. -/
theorem consistent (h : store.Links kids) : store.Consistent := by
  have he : store.children = kids := funext h.children_eq
  rw [Consistent, he]
  exact h

/-- A node is a child of one parent only. -/
theorem parent_unique (h : store.Links kids) {other : NodeId} (hc : child ∈ kids parent)
    (ho : child ∈ kids other) : parent = other :=
  Option.some.inj ((h.parent.1 hc).symm.trans (h.parent.1 ho))

/-- A node without a parent is nobody's child. -/
theorem not_mem_of_parent?_eq_none (h : store.Links kids) (hc : store.parent? child = none)
    (parent : NodeId) : child ∉ kids parent := by
  intro hm
  simp [h.parent.1 hm] at hc

end Links

end HtmlToHaml.DocTree.Store
