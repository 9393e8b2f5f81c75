import HtmlToHaml.DocTree.Pending
import HtmlToHaml.Proofs.Forest.Links
import Mathlib.Data.List.Nodup

/-!
# What a walk passes

A walk over a stack of pending nodes passes what is below a node in the order that the recursion on
the tree gives: each child, then what is below it. The nodes that a stack stands for are those of
its pending subtrees, the next one first, and a step takes the first of these nodes away. So a walk
in a store with consistent links ends, and it passes every node once.
-/

namespace HtmlToHaml.DocTree.Store

variable {store : Store} {id n : NodeId} {ids more stack : List NodeId}

section Places

/-- A node below another one is below one of its children. -/
theorem within_iff (n id : NodeId) :
    store.Within n id ↔ n = id ∨ ∃ child ∈ store.children id, store.Within n child := by
  constructor
  · intro h
    rcases Relation.ReflTransGen.cases_tail h with he | ⟨child, hn, hc⟩
    · exact Or.inl he.symm
    · exact Or.inr ⟨child, hc, hn⟩
  · rintro (rfl | ⟨child, hc, hn⟩)
    · exact .refl
    · exact hn.tail hc

/-- Nothing else is below a node without children. -/
theorem within_of_children_eq_nil (h : store.children id = []) : store.Within n id ↔ n = id := by
  simp [within_iff _ id, h]

namespace Consistent

variable {child other parent : NodeId}

/-- A parent is not below its child. -/
theorem not_within (h : store.Consistent) (hc : child ∈ store.children parent) :
    ¬ store.Within parent child := by
  intro hw
  have hcycle :
      Relation.TransGen (fun child parent => child ∈ store.children parent) parent parent :=
    .tail' hw hc
  exact (WellFounded.transGen h.grounded).irrefl.irrefl parent hcycle

/-- Two nodes above the same node stand above one another. -/
theorem within_or_within (h : store.Consistent) (hc : store.Within n child)
    (ho : store.Within n other) : store.Within child other ∨ store.Within other child :=
  Relation.ReflTransGen.total_of_right_unique (fun _ _ _ hb hc => h.parent_unique hb hc) hc ho

/-- A child that is below its sibling is the sibling. -/
theorem eq_of_within_sibling (h : store.Consistent) (hc : child ∈ store.children parent)
    (ho : other ∈ store.children parent) (hw : store.Within child other) : child = other := by
  rcases Relation.ReflTransGen.cases_head hw with he | ⟨above, ha, hw'⟩
  · exact he
  · have he : above = parent := h.parent_unique ha hc
    exact absurd (he ▸ hw') (h.not_within ho)

/-- No node is below two children of the same parent. -/
theorem sibling_unique (h : store.Consistent) (hc : child ∈ store.children parent)
    (ho : other ∈ store.children parent) (hn : store.Within n child)
    (hn' : store.Within n other) : child = other := by
  rcases h.within_or_within hn hn' with hw | hw
  · exact h.eq_of_within_sibling hc ho hw
  · exact (h.eq_of_within_sibling ho hc hw).symm

/-- The trees at the children of a node are separate. -/
theorem children_separate (h : store.Consistent) :
    (store.children parent).Pairwise fun a b => ∀ n, ¬ (store.Within n a ∧ store.Within n b) :=
  (h.nodup parent).imp_of_mem fun ha hb hne _ hw => hne (h.sibling_unique ha hb hw.1 hw.2)

/-- What is below a node of the store is in the store. -/
theorem lt_size_of_within (h : store.Consistent) (hw : store.Within n id) (hi : id < store.size) :
    n < store.size := by
  rcases Relation.ReflTransGen.cases_head hw with rfl | ⟨above, ha, _⟩
  · exact hi
  · exact h.lt_size ha

end Consistent

end Places

section Walks

/-- A walk over nodes that are separate lists them all in order: `ids` are the nodes the walk passes
from the pending ones on. -/
structure Walked (store : Store) (pending ids : List NodeId) : Prop where
  /-- The walk passes what is below the pending nodes. -/
  mem : ∀ n, n ∈ ids ↔ ∃ id ∈ pending, store.Within n id
  /-- It passes no node twice. -/
  nodup : ids.Nodup
  /-- It takes one step for each of them. -/
  walk : ∀ k more, store.walk (ids.length + k) (pending ++ more) = ids ++ store.walk k more

/-- A walk over no nodes passes none. -/
theorem Walked.nil : store.Walked [] [] :=
  ⟨by simp, List.nodup_nil, fun _ _ => by simp⟩

/-- A walk goes on with the next nodes. -/
theorem Walked.append {pending pending' ids' : List NodeId} (h : store.Walked pending ids)
    (h' : store.Walked pending' ids')
    (hd : ∀ id ∈ pending, ∀ id' ∈ pending', ∀ n, ¬ (store.Within n id ∧ store.Within n id')) :
    store.Walked (pending ++ pending') (ids ++ ids') := by
  refine ⟨fun n => ?_, ?_, fun k more => ?_⟩
  · rw [List.mem_append, h.mem, h'.mem]
    simp only [List.mem_append, or_and_right, exists_or]
  · apply h.nodup.append h'.nodup
    intro n hn hn'
    obtain ⟨id, hid, hw⟩ := (h.mem n).1 hn
    obtain ⟨id', hid', hw'⟩ := (h'.mem n).1 hn'
    exact hd id hid id' hid' n ⟨hw, hw'⟩
  · rw [List.length_append, Nat.add_assoc, List.append_assoc, h.walk, h'.walk, List.append_assoc]

/-- A walk begins with a node and goes on with its children. -/
theorem Walked.node (h : store.Consistent) (hc : store.Walked (store.children id) ids) :
    store.Walked [id] (id :: ids) := by
  refine ⟨fun n => ?_, ?_, fun k more => ?_⟩
  · rw [List.mem_cons, hc.mem]
    simp [within_iff _ id]
  · rw [List.nodup_cons, hc.mem]
    refine ⟨?_, hc.nodup⟩
    rintro ⟨child, hm, hw⟩
    exact h.not_within hm hw
  · rw [List.length_cons, Nat.add_right_comm]
    change id :: store.walk (ids.length + k) (store.children id ++ more) = _
    rw [hc.walk, List.cons_append]

/-- A walk from children of a node passes no more nodes than there are. -/
theorem Walked.length_le (h : store.Consistent) (hw : store.Walked (store.children id) ids) :
    ids.length ≤ store.size := by
  have hsub : ids ⊆ List.range store.size := by
    intro n hn
    obtain ⟨child, hc, hw⟩ := (hw.mem n).1 hn
    exact List.mem_range.2 (h.lt_size_of_within hw (h.lt_size hc))
  simpa using (hw.nodup.subperm hsub).length_le

/-- A walk from children that a node has is the list of what is below the node. -/
theorem Walked.descendants_eq (h : store.Consistent) (hw : store.Walked (store.children id) ids) :
    store.descendants id = ids := by
  have hlen := hw.length_le h
  have hpow : store.size + 1 < 2 ^ (store.size + 1) := Nat.lt_two_pow_self
  obtain ⟨k, hk⟩ : ∃ k, Nat.pow 2 (store.size + 1) = ids.length + k :=
    Nat.exists_eq_add_of_le (by rw [Nat.pow_eq]; omega)
  have hend : store.walk k [] = [] := by cases k <;> rfl
  have hall := hw.walk k []
  rwa [List.append_nil, hend, List.append_nil, ← hk] at hall

/-- A node and what is below it, in document order. -/
def listed (store : Store) (id : NodeId) : List NodeId :=
  id :: store.descendants id

/-- A walk from separate nodes lists one of them after the other, if below each of them it does. -/
theorem Consistent.walked_listed (h : store.Consistent) :
    ∀ {ids : List NodeId},
      (∀ id ∈ ids, store.Walked (store.children id) (store.descendants id)) →
      ids.Pairwise (fun a b => ∀ n, ¬ (store.Within n a ∧ store.Within n b)) →
      store.Walked ids (ids.flatMap store.listed)
  | [], _, _ => .nil
  | id :: ids, hbelow, hd => by
    rw [List.forall_mem_cons] at hbelow
    rw [List.pairwise_cons] at hd
    refine (hbelow.1.node h).append (h.walked_listed hbelow.2 hd.2) ?_
    simpa using hd.1

/-- Below a node a walk passes the children one after the other. -/
theorem Consistent.walked_children (h : store.Consistent) (id : NodeId) :
    store.Walked (store.children id) ((store.children id).flatMap store.listed) := by
  induction id using h.grounded.induction with
  | _ id ih =>
    refine h.walked_listed (fun child hc => ?_) h.children_separate
    have hw := ih child hc
    exact (hw.descendants_eq h).symm ▸ hw

/-- **What is below a node are its children, each followed by what is below it.** -/
theorem Consistent.descendants_eq (h : store.Consistent) (id : NodeId) :
    store.descendants id = (store.children id).flatMap store.listed :=
  (h.walked_children id).descendants_eq h

end Walks

section Nodes

/-- What is below a node is what stands within it, without the node itself. -/
theorem Consistent.mem_descendants (h : store.Consistent) :
    n ∈ store.descendants id ↔ store.Within n id ∧ n ≠ id := by
  have hw := h.walked_children id
  rw [h.descendants_eq, hw.mem, within_iff n id]
  constructor
  · rintro ⟨child, hc, hn⟩
    refine ⟨Or.inr ⟨child, hc, hn⟩, ?_⟩
    rintro rfl
    exact h.not_within hc hn
  · rintro ⟨hn, hne⟩
    exact hn.resolve_left hne

/-- A node and what is below it are the nodes within it. -/
theorem Consistent.mem_cons_descendants (h : store.Consistent) :
    n ∈ id :: store.descendants id ↔ store.Within n id := by
  rw [List.mem_cons, h.mem_descendants]
  by_cases hn : n = id
  · simp [hn, Within, Relation.ReflTransGen.refl]
  · simp [hn]

/-- No node is passed twice. -/
theorem Consistent.nodup_descendants (h : store.Consistent) (id : NodeId) :
    (store.descendants id).Nodup := by
  have hw := h.walked_children id
  exact h.descendants_eq id ▸ hw.nodup

/-- There are no more nodes below a node than there are at all. -/
theorem Consistent.length_descendants_le (h : store.Consistent) (id : NodeId) :
    (store.descendants id).length ≤ store.size := by
  have hw := h.walked_children id
  exact h.descendants_eq id ▸ hw.length_le h

/-- Recursion on the tree lists what is below a node, if it goes as deep as there are nodes. -/
theorem Consistent.preorder_eq (h : store.Consistent) {levels : Nat}
    (hn : (store.descendants id).length ≤ levels) :
    store.preorder levels id = store.descendants id := by
  induction levels generalizing id with
  | zero =>
    rw [List.eq_nil_of_length_eq_zero (Nat.le_zero.1 hn)]
    rfl
  | succ levels ih =>
    rw [preorder, h.descendants_eq]
    refine List.flatMap_congr fun child hc => ?_
    -- A child is passed before what is below it, so that there is less below the child.
    have hsub : (store.listed child).Sublist (store.descendants id) := by
      rw [h.descendants_eq]
      exact List.sublist_flatten_of_mem (List.mem_map_of_mem hc)
    have hless := hsub.length_le
    rw [listed, List.length_cons] at hless
    rw [listed, ih (by omega)]

end Nodes

section Steps

/-- The nodes that a walk from a stack passes, one after the other, until it ends. -/
inductive Passes (store : Store) : List NodeId → List NodeId → Prop
  /-- Where no node is next the walk has ended. -/
  | done {stack : List NodeId} : store.next? stack = none → Passes store stack []
  /-- The next node is passed, and the walk goes on from the stack behind it. -/
  | next {stack rest ids : List NodeId} {id : NodeId} : store.next? stack = some (id, rest) →
    Passes store rest ids → Passes store stack (id :: ids)

/-- The last node of a stack is next, and its children come in its place, the first one last. -/
theorem next?_concat (stack : List NodeId) (id : NodeId) :
    store.next? (stack ++ [id]) = some (id, stack ++ (store.children id).reverse) := by
  simp [next?]

/-- A walk passes one list of nodes. -/
theorem Passes.unique (h : store.Passes stack ids) (h' : store.Passes stack more) : ids = more := by
  induction h generalizing more with
  | done hend =>
    cases h' with
    | done => rfl
    | next hstep => cases hend.symm.trans hstep
  | next hstep _ ih =>
    cases h' with
    | done hend => cases hstep.symm.trans hend
    | next hstep' hrest =>
      obtain ⟨rfl, rfl⟩ := Prod.mk.inj (Option.some.inj (hstep.symm.trans hstep'))
      rw [ih hrest]

/-- Nodes that come off a stack one after the other, each with what is below it, come
off it together. -/
theorem Passes.append_reverse
    (hone : ∀ id ∈ ids, ∀ {stack more}, store.Passes stack more →
      store.Passes (stack ++ [id]) (store.listed id ++ more))
    (h : store.Passes stack more) :
    store.Passes (stack ++ ids.reverse) (ids.flatMap store.listed ++ more) := by
  induction ids with
  | nil => simpa using h
  | cons id ids ih =>
    obtain ⟨hid, hids⟩ := List.forall_mem_cons.1 hone
    have hlast := hid (ih hids)
    rwa [List.append_assoc, ← List.reverse_cons, ← List.append_assoc, ← List.flatMap_cons] at hlast

/-- The last node of a stack comes off it with what is below it. -/
theorem Consistent.passes_concat (h : store.Consistent) (hp : store.Passes stack more)
    (id : NodeId) :
    store.Passes (stack ++ [id]) (store.listed id ++ more) := by
  induction id using h.grounded.induction generalizing stack more with
  | _ id ih =>
    refine .next (next?_concat stack id) ?_
    rw [h.descendants_eq]
    exact Passes.append_reverse (fun child hc _ _ hp => ih child hc hp) hp

/-- **A walk over a stack ends, and it passes what is below the node that it began with.** -/
theorem Consistent.passes_iff (h : store.Consistent) (id : NodeId) :
    store.Passes (store.pending id) ids ↔ ids = store.descendants id := by
  have hp : store.Passes (store.pending id) (store.descendants id) := by
    have hend : store.Passes [] [] := .done rfl
    have hone : ∀ child ∈ store.children id, ∀ {stack more}, store.Passes stack more →
        store.Passes (stack ++ [child]) (store.listed child ++ more) :=
      fun child _ _ _ hp => h.passes_concat hp child
    have hall := Passes.append_reverse hone hend
    rwa [List.nil_append, List.append_nil, ← h.descendants_eq] at hall
  exact ⟨fun hids => hids.unique hp, fun hids => hids ▸ hp⟩

end Steps

end HtmlToHaml.DocTree.Store
