import HtmlToHaml.Proofs.Forest.Assembly
import HtmlToHaml.Proofs.Forest.Shapes

/-!
# Trees built out of shapes

The store that is built out of a shape, a node at a time and each at the end of its parent's
children, has consistent links and shows that shape. So every shape is the tree of some store.
-/

namespace HtmlToHaml.DocTree

mutual

/-- A shape as a tree holds it. -/
def Shape.normal : Shape → Shape
  | .branch kind children => .branch kind (Shape.allNormal children)
  | .leaf content => .leaf content.normal

/-- Shapes as a tree holds them. -/
def Shape.allNormal : List Shape → List Shape
  | [] => []
  | tree :: rest => tree.normal :: Shape.allNormal rest

end

namespace Store

variable {store store' : Store} {parent id n : NodeId} {data : NodeData}

/-- A new node leaves the children of the others. -/
theorem Consistent.children_create (h : store.Consistent) :
    (store.create data).1.children id = store.children id :=
  (h.create data).children_eq id

/-- A new node is no child. -/
theorem Consistent.create (h : store.Consistent) (data : NodeData) :
    (store.create data).1.Consistent :=
  (Links.create h data).consistent

mutual

/-- A tree is shown by every store that has its nodes. -/
theorem Shows.congr : ∀ {tree : Shape} {id : NodeId}, store.Shows id tree →
    (∀ n, store.Within n id → store'.data? n = store.data? n ∧
      store'.children n = store.children n) → store'.Shows id tree
  | .branch kind trees, id, hs, hsame => by
    rw [Shows] at hs ⊢
    rw [(hsame id .refl).1, (hsame id .refl).2]
    exact ⟨hs.1, hs.2.congr fun child hc n hn => hsame n (hn.tail hc)⟩
  | .leaf content, id, hs, hsame => by
    rw [Shows] at hs ⊢
    rwa [(hsame id .refl).1, (hsame id .refl).2]

/-- Trees are shown by every store that has their nodes. -/
theorem ShowsAll.congr : ∀ {trees : List Shape} {ids : List NodeId}, store.ShowsAll ids trees →
    (∀ id ∈ ids, ∀ n, store.Within n id →
      store'.data? n = store.data? n ∧ store'.children n = store.children n) →
      store'.ShowsAll ids trees
  | [], [], _, _ => by rw [ShowsAll]; trivial
  | tree :: trees, id :: ids, hs, hsame => by
    rw [ShowsAll] at hs ⊢
    exact ⟨hs.1.congr (hsame id List.mem_cons_self),
      hs.2.congr fun other ho => hsame other (List.mem_cons_of_mem _ ho)⟩
  | _ :: _, [], hs, _ => by rw [ShowsAll] at hs <;> simp_all
  | [], _ :: _, hs, _ => by rw [ShowsAll] at hs <;> simp_all

end

/-- A number that stands for no node has no children. -/
theorem Consistent.children_eq_nil (h : store.Consistent) (hn : store.size ≤ n) :
    store.children n = [] := by
  rw [List.eq_nil_iff_forall_not_mem]
  intro child hc
  exact Nat.lt_irrefl _ (Nat.lt_of_lt_of_le (h.parent_lt_size hc) hn)

/-- A store with new children of one node, the others being as before. -/
structure Grown (store store' : Store) (parent : NodeId) (new : List NodeId) : Prop where
  /-- The new store is a forest. -/
  forest : store'.Forest
  /-- No node gets lost. -/
  size_le : store.size ≤ store'.size
  /-- The root stays. -/
  root : store'.root = store.root
  /-- The old nodes are what they were. -/
  data? : ∀ n < store.size, store'.data? n = store.data? n
  /-- The other old nodes have the children they had. -/
  children : ∀ n < store.size, n ≠ parent → store'.children n = store.children n
  /-- The parent has the new children behind the old ones. -/
  children_parent : store'.children parent = store.children parent ++ new

/-- Growing twice at the same node is growing there. -/
theorem Grown.trans {mid : Store} {new more : List NodeId} (h : Grown store mid parent new)
    (h' : Grown mid store' parent more) : Grown store store' parent (new ++ more) where
  forest := h'.forest
  size_le := h.size_le.trans h'.size_le
  root := h'.root.trans h.root
  data? n hn := (h'.data? n (hn.trans_le h.size_le)).trans (h.data? n hn)
  children n hn hne := (h'.children n (hn.trans_le h.size_le) hne).trans (h.children n hn hne)
  children_parent := by rw [h'.children_parent, h.children_parent, List.append_assoc]

/-- Growing below a new node is growing where that node was added. -/
theorem Grown.below {mid : Store} {more : List NodeId} (h : Grown store mid parent [store.size])
    (h' : Grown mid store' store.size more) (hp : parent < store.size) :
    Grown store store' parent [store.size] where
  forest := h'.forest
  size_le := h.size_le.trans h'.size_le
  root := h'.root.trans h.root
  data? n hn := (h'.data? n (hn.trans_le h.size_le)).trans (h.data? n hn)
  children n hn hne :=
    (h'.children n (hn.trans_le h.size_le) (Nat.ne_of_lt hn)).trans (h.children n hn hne)
  children_parent :=
    (h'.children parent (hp.trans_le h.size_le) (Nat.ne_of_lt hp)).trans h.children_parent

/-- A new node at the end of a branch's children is growth. -/
theorem Forest.append_create (h : store.Forest) {kind : Branch}
    (hp : store.data? parent = some (.branch kind)) (data : NodeData) :
    Grown store ((store.create data).1.append parent store.size) parent [store.size] ∧
      ((store.create data).1.append parent store.size).data? store.size = some data ∧
      ((store.create data).1.append parent store.size).children store.size = [] := by
  have hlt := lt_size_of_data? hp
  have hlt' : parent < (store.create data).1.size := by simpa using Nat.lt_succ_of_lt hlt
  have hn : ¬ (store.create data).1.Within parent store.size := by
    have he : (store.create data).1.children = store.children :=
      funext fun id => h.consistent.children_create
    rw [Within, he]
    exact h.consistent.not_reflTransGen_size hlt
  have hl := (h.consistent.create data).append hlt' (by simp) parent?_create hn
  have hother : ∀ n, n ≠ parent →
      ((store.create data).1.append parent store.size).children n = store.children n :=
    fun n hne => (hl.children_of_ne hne).trans h.consistent.children_create
  have hself : ((store.create data).1.append parent store.size).children store.size = [] :=
    (hother _ (Nat.ne_of_gt hlt)).trans (h.consistent.children_eq_nil le_rfl)
  have hdata : ∀ n, ((store.create data).1.append parent store.size).data? n =
      if n = store.size then some data else store.data? n := fun n => by
    rw [data?_append, data?_create]
  refine ⟨⟨⟨hl.consistent, fun {id leaf} hd => ?_⟩, ?_, root_append, fun n hn => ?_,
    fun n _ hne => hother n hne, ?_⟩, ?_, hself⟩
  · rw [hdata] at hd
    split at hd
    · rename_i hid
      rw [hid]
      exact hself
    · have hne : id ≠ parent := by
        rintro rfl
        rw [hp] at hd
        cases hd
      exact (hother id hne).trans (h.bare hd)
  · simp
  · rw [hdata, if_neg (Nat.ne_of_lt hn)]
  · rw [hl.children_self, h.consistent.children_create]
  · rw [hdata, if_pos rfl]

mutual

/-- A shape that is added grows the store by a node that shows it. -/
theorem Forest.addTo :
    ∀ (tree : Shape) {store : Store} {parent : NodeId} {kind : Branch}, store.Forest →
      store.data? parent = some (.branch kind) →
      Grown store (Shape.addTo parent store tree) parent [store.size] ∧
        (Shape.addTo parent store tree).Shows store.size tree.normal
  | .branch kind trees, store, parent, _, h, hp => by
    obtain ⟨hg, hd, hc⟩ := h.append_create hp (.branch kind)
    obtain ⟨ids, hg', hs⟩ := hg.forest.addAllTo trees hd
    refine ⟨hg.below hg' (lt_size_of_data? hp), ?_⟩
    rw [Shape.normal, Shows]
    refine ⟨(hg'.data? _ (lt_size_of_data? hd)).trans hd, ?_⟩
    have hk := hg'.children_parent
    rw [hc, List.nil_append] at hk
    exact hk ▸ hs
  | .leaf content, store, parent, _, h, hp => by
    obtain ⟨hg, hd, hc⟩ := h.append_create hp (.leaf content.normal)
    refine ⟨hg, ?_⟩
    rw [Shape.normal, Shows]
    exact ⟨hd, hc⟩

/-- Shapes that are added grow the store by nodes that show them. -/
theorem Forest.addAllTo :
    ∀ (trees : List Shape) {store : Store} {parent : NodeId} {kind : Branch}, store.Forest →
      store.data? parent = some (.branch kind) →
      ∃ ids, Grown store (Shape.addAllTo parent store trees) parent ids ∧
        (Shape.addAllTo parent store trees).ShowsAll ids (Shape.allNormal trees)
  | [], store, parent, _, h, hp =>
    ⟨[], ⟨h, le_rfl, rfl, fun _ _ => rfl, fun _ _ _ => rfl, (List.append_nil _).symm⟩, by
      rw [Shape.allNormal, ShowsAll]; trivial⟩
  | tree :: trees, store, parent, kind, h, hp => by
    obtain ⟨hg, hs⟩ := h.addTo tree hp
    have hlt := lt_size_of_data? hp
    have hp' := (hg.data? parent hlt).trans hp
    obtain ⟨ids, hg', hs'⟩ := hg.forest.addAllTo trees hp'
    refine ⟨store.size :: ids, hg.trans hg', ?_⟩
    rw [Shape.allNormal, ShowsAll]
    refine ⟨hs.congr fun n hn => ?_, hs'⟩
    have hm : store.size ∈ (Shape.addTo parent store tree).children parent := by
      rw [hg.children_parent]; simp
    have hn' := hg.forest.consistent.lt_size_of_within hn (hg.forest.consistent.lt_size hm)
    refine ⟨hg'.data? n hn', hg'.children n hn' ?_⟩
    rintro rfl
    exact hg.forest.consistent.not_within hm hn

end

/-- A root alone is a forest. -/
theorem forest_ofRoot (kind : Branch) : (ofRoot (.branch kind)).Forest := by
  refine ⟨(links_ofRoot _).consistent, fun {id leaf} hd => ?_⟩
  rw [(links_ofRoot (.branch kind)).children_eq]

/-- **The store that is built out of shapes is a forest that shows them below its root.** -/
theorem forest_build (kind : Branch) (trees : List Shape) :
    (Shape.build kind trees).Forest ∧ (Shape.build kind trees).root = 0 ∧
      (Shape.build kind trees).Shows 0 (.branch kind (Shape.allNormal trees)) := by
  have hkind : (ofRoot (.branch kind)).data? 0 = some (.branch kind) := rfl
  obtain ⟨ids, hg, hs⟩ := (forest_ofRoot kind).addAllTo trees hkind
  have hk := hg.children_parent
  rw [(links_ofRoot (.branch kind)).children_eq, List.nil_append] at hk
  refine ⟨hg.forest, hg.root, ?_⟩
  rw [Shows]
  exact ⟨hg.data? 0 Nat.zero_lt_one, hk ▸ hs⟩

/-- Shapes that a tree holds as they are are shown as they are. -/
theorem shows_build (kind : Branch) {trees : List Shape} (hn : Shape.allNormal trees = trees) :
    (Shape.build kind trees).Shows (Shape.build kind trees).root (.branch kind trees) := by
  obtain ⟨-, hroot, hs⟩ := forest_build kind trees
  rw [hroot]
  rwa [hn] at hs

end Store

end HtmlToHaml.DocTree
