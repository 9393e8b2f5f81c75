import HtmlToHaml.Proofs.Forest.Built

/-!
# How deep a tree goes

A snapshot counts levels from the root down. It is the tree that the store shows if the tree has no
more levels than the limit admits, and a tree has more levels than that exactly when one of its
nodes stands deeper below the root than the limit says. So the snapshot of a store that is built out
of a tree is that tree again.
-/

namespace HtmlToHaml.DocTree

mutual

/-- The number of levels of a tree. -/
def Shape.height : Shape → Nat
  | .branch _ children => Shape.allHeight children + 1
  | .leaf _ => 1

/-- The number of levels of the highest of some trees. -/
def Shape.allHeight : List Shape → Nat
  | [] => 0
  | tree :: rest => max tree.height (Shape.allHeight rest)

end

/-- A tree, unless it has more levels than are wanted; `limit` is what the failure reports. -/
def Shape.upTo (limit levels : Nat) (tree : Shape) : Except Failure Shape :=
  if tree.height ≤ levels then .ok tree else .error (.tooDeep limit)

/-- Some trees, unless one of them has more levels than are wanted. -/
def Shape.allUpTo (limit levels : Nat) (trees : List Shape) : Except Failure (List Shape) :=
  if Shape.allHeight trees ≤ levels then .ok trees else .error (.tooDeep limit)

/-- A tree has a level at least. -/
theorem Shape.height_pos (tree : Shape) : 0 < tree.height := by
  cases tree with
  | branch kind children => exact Nat.succ_pos _
  | leaf content => exact Nat.one_pos

/-- The highest of some trees is the first one or among the others. -/
theorem Shape.allHeight_cons_le {tree : Shape} {trees : List Shape} {levels : Nat} :
    Shape.allHeight (tree :: trees) ≤ levels ↔
      tree.height ≤ levels ∧ Shape.allHeight trees ≤ levels :=
  Nat.max_le

mutual

/-- A tree has as many levels as a tree holds of it. -/
theorem Shape.height_normal : ∀ tree : Shape, tree.normal.height = tree.height
  | .branch kind children => by
    rw [Shape.normal, Shape.height, Shape.height, Shape.allHeight_allNormal children]
  | .leaf content => rfl

/-- Trees have as many levels as a tree holds of them. -/
theorem Shape.allHeight_allNormal : ∀ trees : List Shape,
    Shape.allHeight (Shape.allNormal trees) = Shape.allHeight trees
  | [] => rfl
  | tree :: rest => by
    rw [Shape.allNormal, Shape.allHeight, Shape.allHeight, Shape.height_normal tree,
      Shape.allHeight_allNormal rest]

end

/-- A branch is read by reading what it holds. -/
theorem Shape.upTo_branch (limit levels : Nat) (kind : Branch) (trees : List Shape) :
    Shape.upTo limit (levels + 1) (.branch kind trees) =
      (.branch kind ·) <$> Shape.allUpTo limit levels trees := by
  rw [Shape.upTo, Shape.allUpTo, Shape.height]
  by_cases h : Shape.allHeight trees ≤ levels
  · rw [if_pos h, if_pos (Nat.succ_le_succ h)]
    rfl
  · rw [if_neg h, if_neg fun hs => h (Nat.le_of_succ_le_succ hs)]
    rfl

/-- Trees are read one after the other. -/
theorem Shape.allUpTo_cons (limit levels : Nat) (tree : Shape) (trees : List Shape) :
    Shape.allUpTo limit levels (tree :: trees) = (do
      let first ← tree.upTo limit levels
      let rest ← Shape.allUpTo limit levels trees
      pure (first :: rest)) := by
  rw [Shape.allUpTo, Shape.upTo, Shape.allUpTo]
  by_cases ht : tree.height ≤ levels <;> by_cases hr : Shape.allHeight trees ≤ levels
  · rw [if_pos (Shape.allHeight_cons_le.2 ⟨ht, hr⟩), if_pos ht, if_pos hr]
    rfl
  · rw [if_neg fun h => hr (Shape.allHeight_cons_le.1 h).2, if_pos ht, if_neg hr]
    rfl
  · rw [if_neg fun h => ht (Shape.allHeight_cons_le.1 h).1, if_neg ht]
    rfl
  · rw [if_neg fun h => ht (Shape.allHeight_cons_le.1 h).1, if_neg ht]
    rfl

namespace Store

variable {store : Store} {id n child : NodeId} {ids : List NodeId} {tree : Shape}
  {trees : List Shape} {limit levels depth : Nat}

mutual

/-- Reading down from a node gives the tree that the node shows. -/
theorem Shows.snapshotAt : ∀ {tree : Shape} {id : NodeId} {levels : Nat}, store.Shows id tree →
    store.snapshotAt limit levels id = tree.upTo limit levels
  | tree, id, 0, _ => by
    rw [Store.snapshotAt, Shape.upTo, if_neg (Nat.not_le.2 tree.height_pos)]
  | .branch kind trees, id, levels + 1, hs => by
    rw [Shows] at hs
    rw [Store.snapshotAt, hs.1, Shape.upTo_branch, ← hs.2.mapM_snapshotAt]
  | .leaf content, id, levels + 1, hs => by
    rw [Shows] at hs
    have hlow : (Shape.leaf content).height ≤ levels + 1 := Nat.succ_le_succ levels.zero_le
    rw [Store.snapshotAt, hs.1, Shape.upTo, if_pos hlow]

/-- Reading down from some nodes gives the trees that the nodes show. -/
theorem ShowsAll.mapM_snapshotAt : ∀ {trees : List Shape} {ids : List NodeId} {levels : Nat},
    store.ShowsAll ids trees →
      ids.mapM (store.snapshotAt limit levels) = Shape.allUpTo limit levels trees
  | [], [], levels, _ => by
    rw [List.mapM_nil, Shape.allUpTo, Shape.allHeight, if_pos levels.zero_le]
    rfl
  | tree :: trees, id :: ids, levels, hs => by
    rw [ShowsAll] at hs
    rw [List.mapM_cons, hs.1.snapshotAt, hs.2.mapM_snapshotAt, Shape.allUpTo_cons]
  | _ :: _, [], _, hs => by rw [ShowsAll] at hs <;> simp_all
  | [], _ :: _, _, hs => by rw [ShowsAll] at hs <;> simp_all

end

/-- **The snapshot of a store is the tree that its root shows, if the limit admits its levels.** -/
theorem Shows.snapshot (hs : store.Shows store.root tree) (limit : Nat) :
    store.snapshot limit = tree.upTo limit (limit + 1) :=
  hs.snapshotAt

/-- A node stands a number of levels below a top. -/
inductive Below (store : Store) (top : NodeId) : Nat → NodeId → Prop
  /-- The top stands at its own level. -/
  | refl : Below store top 0 top
  /-- A child stands a level below its parent. -/
  | child {depth : Nat} {parent child : NodeId} :
    Below store top depth parent → child ∈ store.children parent →
      Below store top (depth + 1) child

/-- What is below a child is below its parent, a level deeper. -/
theorem Below.of_child (hc : child ∈ store.children id) (h : store.Below child depth n) :
    store.Below id (depth + 1) n := by
  induction h with
  | refl => exact .child .refl hc
  | child _ hm ih => exact .child ih hm

/-- A node below the top is the top or below a child of it. -/
theorem Below.cases_top (h : store.Below id depth n) :
    depth = 0 ∧ n = id ∨
      ∃ above child, depth = above + 1 ∧ child ∈ store.children id ∧ store.Below child above n := by
  induction h with
  | refl => exact Or.inl ⟨rfl, rfl⟩
  | @child depth parent child hb hm ih =>
    refine Or.inr ?_
    rcases ih with ⟨rfl, rfl⟩ | ⟨above, top, rfl, htop, hbelow⟩
    · exact ⟨0, child, rfl, hm, .refl⟩
    · exact ⟨above + 1, top, rfl, htop, hbelow.child hm⟩

mutual

/-- A tree has so many levels exactly if its nodes stand within as many. -/
theorem Shows.height_le : ∀ {tree : Shape} {id : NodeId} {levels : Nat}, store.Shows id tree →
    (tree.height ≤ levels ↔ ∀ depth n, store.Below id depth n → depth < levels)
  | tree, id, 0, _ => by
    refine iff_of_false (Nat.not_le.2 tree.height_pos) fun hall => ?_
    exact Nat.not_lt_zero 0 (hall 0 id .refl)
  | .branch kind trees, id, levels + 1, hs => by
    rw [Shows] at hs
    rw [Shape.height, Nat.succ_le_succ_iff, hs.2.allHeight_le]
    constructor
    · intro hall depth n hb
      rcases hb.cases_top with ⟨rfl, _⟩ | ⟨above, child, rfl, hc, hb⟩
      · exact Nat.succ_pos levels
      · exact Nat.succ_lt_succ (hall child hc above n hb)
    · intro hall child hc depth n hb
      exact Nat.lt_of_succ_lt_succ (hall (depth + 1) n (hb.of_child hc))
  | .leaf content, id, levels + 1, hs => by
    rw [Shows] at hs
    refine iff_of_true (Nat.succ_le_succ levels.zero_le) fun depth n hb => ?_
    rcases hb.cases_top with ⟨rfl, _⟩ | ⟨above, child, rfl, hc, hb⟩
    · exact Nat.succ_pos levels
    · rw [hs.2] at hc
      cases hc

/-- Trees have so many levels exactly if their nodes stand within as many. -/
theorem ShowsAll.allHeight_le : ∀ {trees : List Shape} {ids : List NodeId} {levels : Nat},
    store.ShowsAll ids trees →
      (Shape.allHeight trees ≤ levels ↔
        ∀ id ∈ ids, ∀ depth n, store.Below id depth n → depth < levels)
  | [], [], levels, _ => by simp [Shape.allHeight]
  | tree :: trees, id :: ids, levels, hs => by
    rw [ShowsAll] at hs
    rw [Shape.allHeight_cons_le, hs.1.height_le, hs.2.allHeight_le, List.forall_mem_cons]
  | _ :: _, [], _, hs => by rw [ShowsAll] at hs <;> simp_all
  | [], _ :: _, _, hs => by rw [ShowsAll] at hs <;> simp_all

end

/-- **A snapshot succeeds exactly if no node stands deeper below the root than the limit.** -/
theorem Shows.snapshot_eq_ok_iff (hs : store.Shows store.root tree) (limit : Nat) :
    store.snapshot limit = .ok tree ↔
      ∀ depth n, store.Below store.root depth n → depth ≤ limit := by
  simp only [← Nat.lt_succ_iff]
  rw [hs.snapshot, ← hs.height_le, Shape.upTo]
  by_cases h : tree.height ≤ limit + 1
  · simp [h]
  · simp [h]

/-- **A store that is built out of a tree has this tree as its snapshot**, with absent identifiers
for empty ones, if no part of the tree stands deeper below the root than the limit; otherwise the
snapshot fails and reports the limit. -/
theorem snapshot_build_eq_ite (kind : Branch) (trees : List Shape) (limit : Nat) :
    (Shape.build kind trees).snapshot limit =
      if Shape.allHeight trees ≤ limit then .ok (.branch kind (Shape.allNormal trees))
      else .error (.tooDeep limit) := by
  obtain ⟨-, hroot, hs⟩ := forest_build kind trees
  rw [← hroot] at hs
  rw [hs.snapshot, Shape.upTo, Shape.height, Shape.allHeight_allNormal]
  exact if_congr Nat.add_le_add_iff_right rfl rfl

end Store

end HtmlToHaml.DocTree
