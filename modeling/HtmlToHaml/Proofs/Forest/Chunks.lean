import HtmlToHaml.Proofs.Forest.Calls
import HtmlToHaml.Proofs.Forest.Joining

/-!
# Text in pieces

A reader of HTML hands on the text of a page in pieces. Text that is put at the end of a row of
children is joined to the text there, so the pieces do not show. Text that is put right before a
sibling becomes a node of its own, so two pieces are two texts side by side. The main statement says
where that shows: exactly where a snapshot lists the children of the sibling's parent.
-/

namespace HtmlToHaml.DocTree

namespace Store

variable {store store' middle first second : Store} {parent top id sibling : NodeId}
  {before after new more : List NodeId} {limit levels : Nat} {kind : Branch} {tree : Shape}

section Reading

variable {α β : Type} {f g : α → Except Failure β} {items : List α} {results : List β}
  {failure : Failure}

/-- A row is read item by item. -/
theorem mapM_eq_ok_iff : items.mapM f = .ok results ↔
    List.Forall₂ (fun item result => f item = .ok result) items results := by
  induction items generalizing results with
  | nil =>
    rw [List.mapM_nil, List.forall₂_nil_left_iff]
    exact ⟨fun h => (Except.ok.inj h).symm, fun h => congrArg _ h.symm⟩
  | cons item rest ih =>
    rw [List.mapM_cons, List.forall₂_cons_left_iff]
    cases hitem : f item with
    | error failure => simp [bind, Except.bind]
    | ok first =>
      cases hrest : rest.mapM f with
      | error failure => simp [bind, Except.bind, ← ih, hrest]
      | ok others => simp [bind, Except.bind, pure, Except.pure, ← ih, hrest, eq_comm]

/-- Two readings that agree on every item of a row agree on the row. -/
theorem mapM_congr (h : ∀ item ∈ items, f item = g item) : items.mapM f = items.mapM g := by
  induction items with
  | nil => rfl
  | cons item rest ih =>
    rw [List.forall_mem_cons] at h
    rw [List.mapM_cons, List.mapM_cons, h.1, ih h.2]

/-- A row is read if each of its items is. -/
theorem isOk_mapM : (items.mapM f).isOk = items.all fun item => (f item).isOk := by
  induction items with
  | nil => rfl
  | cons item rest ih =>
    rw [List.mapM_cons, List.all_cons, ← ih]
    cases f item with
    | error failure => rfl
    | ok first => cases rest.mapM f <;> rfl

/-- A row that cannot be read fails for one of its items. -/
theorem exists_of_mapM_eq_error (h : items.mapM f = .error failure) :
    ∃ item ∈ items, f item = .error failure := by
  induction items with
  | nil => cases h
  | cons item rest ih =>
    rw [List.mapM_cons] at h
    cases hitem : f item with
    | error other =>
      rw [hitem] at h
      cases h
      exact ⟨item, List.mem_cons_self, hitem⟩
    | ok first =>
      cases hrest : rest.mapM f with
      | error other =>
        rw [hitem, hrest] at h
        cases h
        obtain ⟨found, hm, hf⟩ := ih hrest
        exact ⟨found, List.mem_cons_of_mem _ hm, hf⟩
      | ok others =>
        rw [hitem, hrest] at h
        cases h

/-- Two readings of a row with the same results agree on every item. -/
theorem exists_common_of_mapM (hf : items.mapM f = .ok results) (hg : items.mapM g = .ok results) :
    ∀ item ∈ items, ∃ result, f item = .ok result ∧ g item = .ok result := by
  rw [mapM_eq_ok_iff] at hf hg
  induction hf with
  | nil => simp
  | cons hitem hrest ih =>
    obtain ⟨hitem', hrest'⟩ := List.forall₂_cons.1 hg
    rw [List.forall_mem_cons]
    exact ⟨⟨_, hitem, hitem'⟩, ih hrest'⟩

end Reading

section Snapshots

/-- The snapshot of a branch is the branch with the snapshots of its children. -/
theorem snapshotAt_branch (hd : store.data? id = some (.branch kind)) :
    store.snapshotAt limit (levels + 1) id =
      (.branch kind ·) <$> (store.children id).mapM (store.snapshotAt limit levels) := by
  rw [snapshotAt, hd]

/-- A snapshot of a branch is a tree with that branch and with what the children show. -/
theorem snapshotAt_branch_eq_ok (hd : store.data? id = some (.branch kind)) :
    store.snapshotAt limit (levels + 1) id = .ok tree ↔
      ∃ trees, (store.children id).mapM (store.snapshotAt limit levels) = .ok trees ∧
        tree = .branch kind trees := by
  rw [snapshotAt_branch hd]
  cases (store.children id).mapM (store.snapshotAt limit levels) with
  | error failure => simp [Functor.map, Except.map]
  | ok trees => simp [Functor.map, Except.map, eq_comm]

/-- A snapshot of a branch succeeds if those of its children do. -/
theorem isOk_snapshotAt_branch (hd : store.data? id = some (.branch kind)) :
    (store.snapshotAt limit (levels + 1) id).isOk =
      (store.children id).all fun child => (store.snapshotAt limit levels child).isOk := by
  rw [snapshotAt_branch hd, ← isOk_mapM]
  cases (store.children id).mapM (store.snapshotAt limit levels) <;> rfl

/-- A snapshot fails for want of levels only. -/
theorem eq_of_snapshotAt_eq_error {failure : Failure}
    (h : store.snapshotAt limit levels id = .error failure) : failure = .tooDeep limit := by
  induction levels generalizing id with
  | zero => exact (Except.error.inj h).symm
  | succ levels ih =>
    rw [snapshotAt] at h
    split at h
    · cases h
    · cases hrow : (store.children id).mapM (store.snapshotAt limit levels) with
      | error other =>
        rw [hrow] at h
        cases h
        obtain ⟨child, -, hchild⟩ := exists_of_mapM_eq_error hrow
        exact ih hchild
      | ok trees =>
        rw [hrow] at h
        cases h
    · cases h

/-- A snapshot that does not succeed reports the limit. -/
theorem snapshotAt_eq_error_iff : store.snapshotAt limit levels id = .error (.tooDeep limit) ↔
    (store.snapshotAt limit levels id).isOk = false := by
  cases h : store.snapshotAt limit levels id with
  | error failure => simp [eq_of_snapshotAt_eq_error h, Except.isOk, Except.toBool]
  | ok tree => simp [Except.isOk, Except.toBool]

/-- A snapshot only depends on the nodes that it passes. -/
theorem snapshotAt_congr (passed : NodeId → Prop)
    (hdata : ∀ id, passed id → store'.data? id = store.data? id)
    (hrow : ∀ id kind, passed id → store.data? id = some (.branch kind) →
      store'.children id = store.children id ∧ ∀ child ∈ store.children id, passed child)
    (hid : passed id) : store'.snapshotAt limit levels id = store.snapshotAt limit levels id := by
  induction levels generalizing id with
  | zero => rfl
  | succ levels ih =>
    rw [snapshotAt, snapshotAt, hdata id hid]
    split
    · rfl
    · rename_i kind hkind
      obtain ⟨hsame, hchild⟩ := hrow id kind hid hkind
      rw [hsame, mapM_congr fun child hm => ih (hchild child hm)]
    · rfl

end Snapshots

/-- A snapshot from a top lists the children of a parent: the parent is reached from the top, over
branches only, and is a branch. -/
inductive Lists (store : Store) (parent : NodeId) : NodeId → Prop
  /-- A branch lists its own children. -/
  | here {kind : Branch} : store.data? parent = some (.branch kind) → Lists store parent parent
  /-- A branch lists what a child lists. -/
  | deeper {kind : Branch} {top child : NodeId} :
    store.data? top = some (.branch kind) → child ∈ store.children top → Lists store parent child →
      Lists store parent top

/-- The second store is the first one with new texts between two parts of a parent's children. -/
structure Inset (store store' : Store) (parent : NodeId) (before new after : List NodeId) :
    Prop where
  /-- The root stays. -/
  root : store'.root = store.root
  /-- The nodes stay what they are. -/
  data? : ∀ id < store.size, store'.data? id = store.data? id
  /-- No node gets lost. -/
  size_le : store.size ≤ store'.size
  /-- Nobody else's children change. -/
  others : ∀ other, other ≠ parent → store'.children other = store.children other
  /-- The parts stand next to each other before. -/
  row : store.children parent = before ++ after
  /-- The new nodes stand between them. -/
  row' : store'.children parent = before ++ new ++ after
  /-- The new nodes are texts. -/
  texts : ∀ id ∈ new, ∃ content, store'.data? id = some (.text content)

/-- Text that is inserted is one new text. -/
theorem Consistent.inset_insertText (h : store.Consistent)
    (hk : store.children parent = before ++ sibling :: after) (content : String) :
    (store.insertContentBefore sibling (.text content)).Consistent ∧
      Inset store (store.insertContentBefore sibling (.text content)) parent before [store.size]
        (sibling :: after) := by
  obtain ⟨hl, hsize, hdata⟩ := h.insertText hk content
  refine ⟨hl.consistent, (insertContentBefore_frame ..).1, fun id hid => ?_, ?_,
    fun other hne => hl.children_of_ne hne, hk, ?_, ?_⟩
  · exact (hdata id).trans (if_neg hid.ne)
  · exact hsize.ge.trans' (Nat.le_succ _)
  · rw [hl.children_self, List.append_assoc, List.singleton_append]
  · rintro id hid
    rw [List.mem_singleton] at hid
    exact ⟨content, (hdata id).trans (if_pos hid)⟩

namespace Inset

/-- Texts that come behind new texts are new with them. -/
theorem trans (h : Inset store middle parent before new after)
    (h' : Inset middle store' parent (before ++ new) more after)
    (hnew : ∀ id ∈ new, id < middle.size) :
    Inset store store' parent before (new ++ more) after where
  root := h'.root.trans h.root
  data? id hid := (h'.data? id (hid.trans_le h.size_le)).trans (h.data? id hid)
  size_le := h.size_le.trans h'.size_le
  others other hne := (h'.others other hne).trans (h.others other hne)
  row := h.row
  row' := by rw [h'.row', List.append_assoc before]
  texts id hid := by
    rcases List.mem_append.1 hid with hid | hid
    · obtain ⟨content, ht⟩ := h.texts id hid
      exact ⟨content, (h'.data? id (hnew id hid)).trans ht⟩
    · exact h'.texts id hid

/-- New texts do not show in a snapshot that does not list the children of the parent. -/
theorem snapshotAt_eq (h : Inset store store' parent before new after) (hc : store.Consistent)
    (hid : id < store.size) (hno : ¬ store.Lists parent id) :
    store'.snapshotAt limit levels id = store.snapshotAt limit levels id := by
  refine snapshotAt_congr (fun id => id < store.size ∧ ¬ store.Lists parent id)
    (fun id hid => h.data? id hid.1) (fun id kind hid hkind => ?_) ⟨hid, hno⟩
  have hne : id ≠ parent := by
    rintro rfl
    exact hid.2 (.here hkind)
  refine ⟨h.others id hne, fun child hm => ⟨hc.lt_size hm, fun hl => ?_⟩⟩
  exact hid.2 (.deeper hkind hm hl)

/-- A new text is read if there is a level for it. -/
theorem isOk_snapshotAt_new (h : Inset store store' parent before new after) (hid : id ∈ new) :
    (store'.snapshotAt limit (levels + 1) id).isOk = true := by
  obtain ⟨content, ht⟩ := h.texts id hid
  rw [snapshotAt, ht]
  rfl

/-- New texts beside a child go no deeper than the child. -/
theorem isOk_snapshotAt (h : Inset store store' parent before new (sibling :: after))
    (hc : store.Consistent) (hid : id < store.size) :
    (store'.snapshotAt limit levels id).isOk = (store.snapshotAt limit levels id).isOk := by
  induction levels generalizing id with
  | zero => rfl
  | succ levels ih =>
    cases hd : store.data? id with
    | none => rw [snapshotAt, snapshotAt, h.data? id hid, hd]
    | some data =>
      cases data with
      | leaf content => rw [snapshotAt, snapshotAt, h.data? id hid, hd]
      | branch kind =>
        rw [isOk_snapshotAt_branch hd, isOk_snapshotAt_branch ((h.data? id hid).trans hd)]
        have hold : ∀ {row : List NodeId}, row ⊆ store.children id →
            (row.all fun child => (store'.snapshotAt limit levels child).isOk) =
              row.all fun child => (store.snapshotAt limit levels child).isOk := by
          intro row hrow
          rw [Bool.eq_iff_iff, List.all_eq_true, List.all_eq_true]
          exact forall₂_congr fun child hm => by rw [ih (hc.lt_size (hrow hm))]
        by_cases hp : id = parent
        · subst hp
          cases levels with
          | zero => simp [h.row, h.row', snapshotAt, Except.isOk, Except.toBool]
          | succ levels =>
            have hall : (new.all fun child =>
                (store'.snapshotAt limit (levels + 1) child).isOk) = true :=
              List.all_eq_true.2 fun child hm => h.isOk_snapshotAt_new hm
            rw [h.row', List.append_assoc, List.all_append, List.all_append, hall, Bool.true_and,
              hold (by simp [h.row]), hold (by simp [h.row]), h.row, List.all_append]
        · rw [h.others id hp]
          exact hold (List.Subset.refl _)

/-- Different numbers of new texts show at the parent. -/
theorem snapshotAt_parent_ne (h : Inset store first parent before new after)
    (h' : Inset store second parent before more after) (hlen : new.length ≠ more.length)
    (hd : store.data? parent = some (.branch kind))
    (hr : first.snapshotAt limit levels parent = .ok tree) :
    second.snapshotAt limit levels parent ≠ .ok tree := by
  intro hr'
  have hlt := lt_size_of_data? hd
  cases levels with
  | zero => cases hr
  | succ levels =>
    obtain ⟨trees, hrow, rfl⟩ := (snapshotAt_branch_eq_ok ((h.data? parent hlt).trans hd)).1 hr
    obtain ⟨trees', hrow', hsame⟩ :=
      (snapshotAt_branch_eq_ok ((h'.data? parent hlt).trans hd)).1 hr'
    cases hsame
    have hn := (mapM_eq_ok_iff.1 hrow).length_eq.trans (mapM_eq_ok_iff.1 hrow').length_eq.symm
    rw [h.row', h'.row'] at hn
    simp only [List.length_append, Nat.add_right_cancel_iff, Nat.add_left_cancel_iff] at hn
    exact hlen hn

/-- **Different numbers of new texts show wherever the children of the parent are listed.** -/
theorem snapshotAt_ne (h : Inset store first parent before new after)
    (h' : Inset store second parent before more after) (hlen : new.length ≠ more.length)
    (hl : store.Lists parent top) (hr : first.snapshotAt limit levels top = .ok tree) :
    second.snapshotAt limit levels top ≠ .ok tree := by
  induction hl generalizing levels tree with
  | here hd => exact h.snapshotAt_parent_ne h' hlen hd hr
  | @deeper kind top child hd hm hl ih =>
    intro hr'
    by_cases hp : top = parent
    · subst hp
      exact h.snapshotAt_parent_ne h' hlen hd hr hr'
    have hlt := lt_size_of_data? hd
    cases levels with
    | zero => cases hr
    | succ levels =>
      obtain ⟨trees, hrow, rfl⟩ := (snapshotAt_branch_eq_ok ((h.data? top hlt).trans hd)).1 hr
      obtain ⟨trees', hrow', hsame⟩ := (snapshotAt_branch_eq_ok ((h'.data? top hlt).trans hd)).1 hr'
      cases hsame
      rw [h.others top hp] at hrow
      rw [h'.others top hp] at hrow'
      obtain ⟨shown, hchild, hchild'⟩ := exists_common_of_mapM hrow hrow' child hm
      exact ih hchild hchild'

/-- **A text in place of two shows unless the children of the parent are not listed or the snapshot
goes too deep.** -/
theorem snapshot_eq_iff (h : Inset store first parent before new (sibling :: after))
    (h' : Inset store second parent before more (sibling :: after)) (hs : store.Sound)
    (hlen : new.length ≠ more.length) :
    first.snapshot limit = second.snapshot limit ↔
      (store.Lists parent store.root → store.snapshot limit = .error (.tooDeep limit)) := by
  have hok : (first.snapshotAt limit (limit + 1) store.root).isOk =
      (store.snapshotAt limit (limit + 1) store.root).isOk :=
        h.isOk_snapshotAt hs.consistent hs.root_lt
  have hok' : (second.snapshotAt limit (limit + 1) store.root).isOk =
      (store.snapshotAt limit (limit + 1) store.root).isOk :=
        h'.isOk_snapshotAt hs.consistent hs.root_lt
  rw [snapshot, snapshot, snapshot, h.root, h'.root, snapshotAt_eq_error_iff]
  constructor
  · intro hsame hl
    rw [Bool.eq_false_iff, ← hok]
    intro hfirst
    cases hr : first.snapshotAt limit (limit + 1) store.root with
    | error failure =>
      rw [hr] at hfirst
      cases hfirst
    | ok tree => exact h.snapshotAt_ne h' hlen hl hr (hsame.symm.trans hr)
  · intro hdeep
    by_cases hl : store.Lists parent store.root
    · rw [hdeep hl, ← snapshotAt_eq_error_iff] at hok hok'
      exact hok.trans hok'.symm
    · rw [h.snapshotAt_eq hs.consistent hs.root_lt hl, h'.snapshotAt_eq hs.consistent hs.root_lt hl]

end Inset

section Apart

variable {kids : NodeId → List NodeId}

/-- A node stands apart from the listed children: neither it nor the node that it names before it is
one of them. -/
structure Stray (store : Store) (kids : NodeId → List NodeId) (sibling : NodeId) : Prop where
  /-- The children of every node are joined in their order. -/
  ring : ∀ parent, store.Ring parent (kids parent)
  /-- Children are in the store. -/
  lt_size : ∀ {parent child}, child ∈ kids parent → child < store.size
  /-- There are no more children than nodes. -/
  length_le : ∀ parent, (kids parent).length ≤ store.size
  /-- The node has no parent. -/
  parent : store.parent? sibling = none
  /-- The node is nobody's child. -/
  apart : ∀ parent, sibling ∉ kids parent
  /-- The node before it is nobody's child. -/
  behind : ∀ parent prev, store.prevSibling? sibling = some prev → prev ∉ kids parent

/-- A node without a parent stands apart. -/
theorem Consistent.stray (h : store.Consistent) (ho : store.parent? sibling = none) :
    store.Stray store.children sibling where
  ring := h.ring
  lt_size := h.lt_size
  length_le := h.length_le
  parent := ho
  apart := h.not_mem_of_parent?_eq_none ho
  behind _ _ hprev := by
    rw [(h.loose ho).1] at hprev
    cases hprev

/-- The children that a store lists beside a node that stands apart are those of its rings. -/
theorem Stray.children_eq (h : store.Stray kids sibling) : store.children = kids := by
  funext parent
  rw [children, (h.ring parent).firstChild?]
  have he : kids parent = [] ++ kids parent := rfl
  exact (h.ring parent).chain he (Nat.lt_succ_of_le (h.length_le parent))

/-- A change that leaves the ends of rows leaves the links of all places but its own. -/
theorem joined_modify {f : Node → Node} {link a b : Link}
    (hfirst : ∀ node, (f node).firstChild = node.firstChild)
    (hlast : ∀ node, (f node).lastChild = node.lastChild)
    (ha : ∀ id, a = some id → link ≠ some id) (hb : ∀ id, b = some id → link ≠ some id)
    (hj : store.Joined parent a b) : (store.modify link f).Joined parent a b := by
  constructor
  · refine Eq.trans ?_ hj.1
    cases a with
    | none => exact bind_modify Node.firstChild hfirst
    | some id => rw [forward, forward, nextSibling?, nextSibling?, node?_modify, if_neg (ha id rfl)]
  · refine Eq.trans ?_ hj.2
    cases b with
    | none => exact bind_modify Node.lastChild hlast
    | some id =>
      rw [backward, backward, prevSibling?, prevSibling?, node?_modify, if_neg (hb id rfl)]

/-- Inserting before a node without a parent leaves the links of all places but that node, the new
one and the one before. -/
theorem joined_insertBefore_of_loose {new : NodeId} {a b : Link} (ho : store.parent? sibling = none)
    (ha : ∀ id, a = some id → id ≠ new ∧ id ≠ sibling ∧ store.prevSibling? sibling ≠ some id)
    (hb : ∀ id, b = some id → id ≠ new ∧ id ≠ sibling ∧ store.prevSibling? sibling ≠ some id)
    (hj : store.Joined parent a b) : (store.insertBefore sibling new).Joined parent a b := by
  rw [insertBefore_eq ho rfl, setForward, setBackward, settle, if_pos Option.isSome_some]
  have hsibling : ∀ value prev next : Link,
      ((store.modify new fun node =>
          { node with parent := none, prevSibling := prev, nextSibling := next }).modify sibling
        fun node => { node with prevSibling := value }).Joined parent a b := by
    intro value prev next
    refine joined_modify (fun _ => rfl) (fun _ => rfl) (fun id he => ?_) (fun id he => ?_)
      (joined_modify (fun _ => rfl) (fun _ => rfl) (fun id he => ?_) (fun id he => ?_) hj)
    · simpa using (ha id he).2.1.symm
    · simpa using (hb id he).2.1.symm
    · simpa using (ha id he).1.symm
    · simpa using (hb id he).1.symm
  split
  · exact joined_modify (fun _ => rfl) (fun _ => rfl) (fun id he => (ha id he).2.2)
      (fun id he => (hb id he).2.2) (hsibling ..)
  · exact hsibling ..

/-- A node without a parent has none when something is inserted before it. -/
theorem parent?_insertBefore_of_loose {new : NodeId} (ho : store.parent? sibling = none)
    (hnew : new < store.size) : (store.insertBefore sibling new).parent? sibling = none := by
  rw [insertBefore_eq ho rfl, parent?_setForward, parent?_setBackward, parent?_settle hnew, ho,
    ite_self]

/-- What is inserted before a node is the node before it. -/
theorem eq_of_prevSibling?_insertBefore {new prev : NodeId} (ho : store.parent? sibling = none)
    (hprev : (store.insertBefore sibling new).prevSibling? sibling = some prev) : prev = new := by
  have hlink : (store.insertBefore sibling new).backward sibling sibling = some prev := hprev
  rw [insertBefore_eq ho rfl, backward_setForward, backward, prevSibling?, setBackward,
    if_pos (Option.isSome_some), node?_modify, if_pos rfl, Option.bind_map] at hlink
  obtain ⟨node, -, hnode⟩ := Option.bind_eq_some_iff.1 hlink
  exact (Option.some.inj hnode).symm

/-- Text before a node that stands apart leaves the listed children. -/
theorem Stray.insertText (h : store.Stray kids sibling) (content : String) :
    (store.insertContentBefore sibling (.text content)).Stray kids sibling := by
  have hsize := (insertContentBefore_frame store sibling (.text content)).2
  have ho : (store.create (.text content)).1.parent? sibling = none :=
    (bind_create Node.parent rfl).trans h.parent
  have hprev : (store.create (.text content)).1.prevSibling? sibling = store.prevSibling? sibling :=
    bind_create Node.prevSibling rfl
  refine ⟨fun parent before after he => ?_, fun hm => (h.lt_size hm).trans_le hsize,
    fun parent => (h.length_le parent).trans hsize, ?_, h.apart, fun parent prev hp hm => ?_⟩
  · have hlisted : ∀ id ∈ kids parent, id ≠ store.size ∧ id ≠ sibling ∧
        (store.create (.text content)).1.prevSibling? sibling ≠ some id := by
      intro id hm
      refine ⟨(h.lt_size hm).ne, ?_, fun hb => h.behind parent id (hprev.symm.trans hb) hm⟩
      rintro rfl
      exact h.apart parent hm
    refine joined_insertBefore_of_loose ho (fun id hid => hlisted id ?_)
      (fun id hid => hlisted id ?_) ?_
    · rw [he]
      exact List.mem_append_left _ (List.mem_of_getLast? hid)
    · rw [he]
      exact List.mem_append_right _ (List.mem_of_head? hid)
    · have hj := h.ring parent before after he
      exact ⟨forward_create.trans hj.1, backward_create.trans hj.2⟩
  · exact parent?_insertBefore_of_loose ho (size_create.ge.trans' le_rfl)
  · exact (h.lt_size hm).ne (eq_of_prevSibling?_insertBefore ho hp)

/-- Text before a node that stands apart does not show. -/
theorem Stray.snapshot_insertText (h : store.Stray store.children sibling)
    (hroot : store.root < store.size) (content : String) :
    (store.insertContentBefore sibling (.text content)).snapshot limit = store.snapshot limit := by
  have hrows := (h.insertText content).children_eq
  rw [snapshot, snapshot, (insertContentBefore_frame ..).1]
  refine snapshotAt_congr (fun id => id < store.size) (fun id hid => ?_)
    (fun id kind _ _ => ⟨congrFun hrows id, fun child hm => h.lt_size hm⟩) hroot
  exact data?_insertBefore.trans (data?_create.trans (if_neg hid.ne))

end Apart

/-- Text leaves the place beside an element. -/
theorem Consistent.getD_parent?_appendText (h : store.Consistent) (element : NodeId)
    {previous : NodeId} (hp : previous < store.size) (content : String) :
    ((store.appendText ((store.parent? element).getD previous) content).parent? element).getD
        previous = (store.parent? element).getD previous := by
  have ha : store.Admits ((store.parent? element).getD previous) (.text content) := trivial
  obtain ⟨hc, hplaced⟩ := h.appendContent (h.getD_parent?_lt element hp) ha
  cases ho : store.parent? element with
  | some parent =>
    rw [ho, Option.getD_some] at hc hplaced
    have hm := h.parent.2 ho
    have hm' : element ∈ (store.appendContent parent (.text content)).children parent := by
      rcases hplaced.here with ⟨new, -, hrow, -⟩ | ⟨last, old, -, -, hrow, -⟩
      · exact hrow ▸ List.mem_append_left _ hm
      · exact hrow ▸ List.mem_append_left _ hm
    exact congrArg (Option.getD · previous) (hc.parent.1 hm')
  | none =>
    rw [ho, Option.getD_none] at hc hplaced
    cases ho' : (store.appendContent previous (.text content)).parent? element with
    | none => exact congrArg (Option.getD · previous) ho'
    | some parent =>
      refine (congrArg (Option.getD · previous) ho').trans ?_
      by_contra hne
      have hm := hc.parent.2 ho'
      rw [hplaced.others parent hne] at hm
      exact h.not_mem_of_parent?_eq_none ho parent hm

end Store

/-- Text that is placed in two pieces shows like the same text in one piece. -/
def Call.Seamless (store : Store) (place : Content → Call) (first second : String)
    (limit : Nat) : Prop :=
  ((place (.text second)).run ((place (.text first)).run store)).snapshot limit =
    ((place (.text (first ++ second))).run store).snapshot limit

variable {store : Store} {sibling parent : NodeId} {limit : Nat}

/-- Text before a child shows its pieces wherever the parent's children are listed. -/
theorem Store.Sound.seamless_insertBefore (h : store.Sound)
    (ho : store.parent? sibling = some parent) (first second : String) :
    Call.Seamless store (.insertBefore sibling) first second limit ↔
      (store.Lists parent store.root → store.snapshot limit = .error (.tooDeep limit)) := by
  obtain ⟨before, after, hk⟩ := List.append_of_mem (h.consistent.parent.2 ho)
  obtain ⟨-, hjoined⟩ := h.consistent.inset_insertText hk (first ++ second)
  obtain ⟨hc, hfirst⟩ := h.consistent.inset_insertText hk first
  obtain ⟨-, hsecond⟩ := hc.inset_insertText hfirst.row' second
  refine (hfirst.trans hsecond fun id hid => ?_).snapshot_eq_iff hjoined h (by simp)
  rw [List.mem_singleton.1 hid]
  exact (h.consistent.insertText hk first).2.1.ge

/-- Text before a node without a parent does not show at all. -/
theorem Store.Sound.seamless_of_loose (h : store.Sound) (ho : store.parent? sibling = none)
    (first second : String) : Call.Seamless store (.insertBefore sibling) first second limit := by
  have hs := h.consistent.stray ho
  have hs' := hs.insertText first
  have hframe := store.insertContentBefore_frame sibling (.text first)
  rw [← hs'.children_eq] at hs'
  have hroot := (hframe.1.trans_lt h.root_lt).trans_le hframe.2
  exact (hs'.snapshot_insertText hroot second).trans
    ((hs.snapshot_insertText h.root_lt first).trans (hs.snapshot_insertText h.root_lt _).symm)

/-- **Text in pieces at the end of a row of children, or besides an element, shows like the text in
one piece. Text in pieces before a sibling does so only if the sibling has no parent, or the
snapshot does not list the parent's children, or it goes too deep.** -/
theorem Assembled.seamless (h : Assembled store) (first second : String) (limit : Nat) :
    (∀ parent < store.size, Call.Seamless store (.append parent) first second limit) ∧
    (∀ element, ∀ previous < store.size,
      Call.Seamless store (.besides element previous) first second limit) ∧
    ∀ sibling, Call.Seamless store (.insertBefore sibling) first second limit ↔
      ∀ parent, store.parent? sibling = some parent → store.Lists parent store.root →
        store.snapshot limit = .error (.tooDeep limit) := by
  have hc := h.sound.consistent
  refine ⟨fun parent hp => ?_, fun element previous hp => ?_, fun sibling => ?_⟩
  · exact congrArg (Store.snapshot · limit) (hc.appendText_append hp first second)
  · have hplace := hc.getD_parent?_appendText element hp first
    refine congrArg (Store.snapshot · limit) ?_
    simp only [Call.run, Store.appendBesides_eq, Store.appendContent, hplace]
    exact hc.appendText_append (hc.getD_parent?_lt element hp) first second
  · cases ho : store.parent? sibling with
    | none => exact iff_of_true (h.sound.seamless_of_loose ho first second) fun _ hp => by cases hp
    | some parent =>
      rw [h.sound.seamless_insertBefore ho]
      exact ⟨fun hl _ hp => Option.some.inj hp ▸ hl, fun hl => hl parent rfl⟩

/-- Two texts before a table show as two texts, while they show as one at the end of the
document. -/
theorem seamless_behind_table : Call.Seamless tableAndParagraph (.append 0) "a" "b" 9 ∧
    ¬ Call.Seamless tableAndParagraph (.insertBefore 1) "a" "b" 9 := by
  obtain ⟨hbehind, -, hbefore⟩ := Assembled.seamless assembled_tableAndParagraph "a" "b" 9
  refine ⟨hbehind 0 (by decide), fun hs => ?_⟩
  cases (hbefore 1).1 hs 0 rfl (.here rfl)

/-- Text does not show the same in two pieces as in one wherever it is placed. -/
theorem not_seamless_insertBefore :
    ¬ ∀ (store : Store) (sibling : NodeId) (first second : String) (limit : Nat),
      Assembled store → (Call.insertBefore sibling (.text first)).Allowed store → first ≠ "" →
      Call.Seamless store (.insertBefore sibling) first second limit := by
  intro hall
  have hs := hall tableAndParagraph 1 "a" "b" 9 assembled_tableAndParagraph ⟨0, rfl, trivial⟩
    (by decide)
  injection hs with hs
  injection hs with _ hs
  exact absurd (congrArg List.length hs) (by decide)

end HtmlToHaml.DocTree
