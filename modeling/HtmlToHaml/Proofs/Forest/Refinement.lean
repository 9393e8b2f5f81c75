import HtmlToHaml.Proofs.Forest.Calls
import HtmlToHaml.Proofs.Forest.Shapes

/-!
# The store as an ordered forest

Apart from its links a store is a family of rows: each node has a content and a row of children.
`Edit.onRows` says what an edit makes of the rows, as an operation on lists. The main statement is
that every edit that is allowed does to the rows of a store what it does to lists and keeps the
links consistent; taking a node away and putting it back, and moving children to where they are,
change nothing at all.
-/

namespace HtmlToHaml.DocTree

/-- A store without its links: what its nodes are, and the children of each of them in order. -/
structure Rows where
  /-- The number of nodes. -/
  size : Nat
  /-- What a node is. -/
  data : NodeId → Option NodeData
  /-- The children of a node. -/
  children : NodeId → List NodeId

/-- A row with a node right before a sibling. -/
def putBefore (sibling child : NodeId) (row : List NodeId) : List NodeId :=
  row.flatMap fun other => if other = sibling then [child, other] else [other]

namespace Rows

/-- The rows of a root alone. -/
def ofRoot (root : NodeData) : Rows where
  size := 1
  data := Function.update (fun _ => none) 0 (some root)
  children _ := []

/-- One more node, without children. -/
def add (rows : Rows) (data : NodeData) : Rows :=
  { rows with size := rows.size + 1, data := Function.update rows.data rows.size (some data) }

/-- Other children of one node. -/
def put (rows : Rows) (parent : NodeId) (children : List NodeId) : Rows :=
  { rows with children := Function.update rows.children parent children }

/-- The text that ends the children of a node, and its content. -/
def lastText? (rows : Rows) (parent : NodeId) : Option (NodeId × String) :=
  (rows.children parent).getLast?.bind fun last =>
    match rows.data last with
    | some (.text content) => some (last, content)
    | _ => none

/-- The text that ends the children is their last node, which is a text. -/
theorem lastText?_eq_some {rows : Rows} {parent last : NodeId} {content : String} :
    rows.lastText? parent = some (last, content) ↔
      (rows.children parent).getLast? = some last ∧ rows.data last = some (.text content) := by
  rw [lastText?, Option.bind_eq_some_iff]
  constructor
  · rintro ⟨id, hl, hd⟩
    split at hd
    · rename_i old hold
      obtain ⟨rfl, rfl⟩ := Prod.mk.inj (Option.some.inj hd)
      exact ⟨hl, hold⟩
    · cases hd
  · rintro ⟨hl, hd⟩
    exact ⟨last, hl, by simp only [hd]⟩

end Rows

/-- An edit of a store. -/
inductive Edit where
  /-- A new element. -/
  | element (name : String) (attributes : List Attribute) (selfClosing : Bool)
  /-- A new leaf. -/
  | leaf (content : Leaf)
  /-- A node at the end of a parent's children. -/
  | append (parent child : NodeId)
  /-- A node right before a sibling. -/
  | insertBefore (sibling child : NodeId)
  /-- A node away from its place. -/
  | detach (target : NodeId)
  /-- Text at the end of a parent's children. -/
  | appendText (parent : NodeId) (more : String)
  /-- The children of one node below another. -/
  | reparent (source target : NodeId)
  deriving DecidableEq, Repr

/-- The store after an edit. -/
def Edit.run (store : Store) : Edit → Store
  | .element name attributes selfClosing => (store.create (.element name attributes selfClosing)).1
  | .leaf content => (store.createLeaf content).1
  | .append parent child => store.append parent child
  | .insertBefore sibling child => store.insertBefore sibling child
  | .detach target => store.detach target
  | .appendText parent more => store.appendText parent more
  | .reparent source target => store.reparentChildren source target

/-- An edit is about nodes that exist, puts a node only where it does not come below itself and only
if it has no place yet, and moves no children below themselves. -/
def Edit.Allowed (store : Store) : Edit → Prop
  | .element .. | .leaf _ => True
  | .append parent child => parent < store.size ∧ child < store.size ∧
    store.parent? child = none ∧ ¬ store.Within parent child
  | .insertBefore sibling child => (store.parent? sibling).isSome = true ∧ child < store.size ∧
    store.parent? child = none ∧ ¬ store.Within sibling child
  | .detach target => target < store.size
  | .appendText parent _ => parent < store.size
  | .reparent source target => source < store.size ∧ target < store.size ∧
    (source = target ∨ ¬ store.Within target source)

/-- What an edit makes of rows. -/
def Edit.onRows (rows : Rows) : Edit → Rows
  | .element name attributes selfClosing => rows.add (.element name attributes selfClosing)
  | .leaf content => rows.add (.leaf content.normal)
  | .append parent child => rows.put parent (rows.children parent ++ [child])
  | .insertBefore sibling child =>
    { rows with children := fun id => putBefore sibling child (rows.children id) }
  | .detach target => { rows with children := fun id => (rows.children id).erase target }
  | .appendText parent more =>
    match rows.lastText? parent with
    | some (last, content) =>
      { rows with data := Function.update rows.data last (some (.text (content ++ more))) }
    | none => (rows.add (.text more)).put parent (rows.children parent ++ [rows.size])
  | .reparent source target =>
    if source = target then rows
    else (rows.put source []).put target (rows.children target ++ rows.children source)

/-- Every edit of a row of edits is allowed when its turn comes. -/
def Edit.AllAllowed (store : Store) : List Edit → Prop
  | [] => True
  | edit :: rest => edit.Allowed store ∧ Edit.AllAllowed (edit.run store) rest

namespace Store

variable {store store' : Store} {kids : NodeId → List NodeId} {parent child sibling id : NodeId}
  {before after : List NodeId}

/-- The rows of a store. -/
def rows (store : Store) : Rows where
  size := store.size
  data := store.data?
  children := store.children

section Unique

/-- **Links are known by the children they stand for**: stores with the same nodes and the same
forest are the same. -/
theorem Links.eq_of_data? (h : store.Links kids) (h' : store'.Links kids)
    (hr : store'.root = store.root) (hd : ∀ id, store'.data? id = store.data? id) :
    store' = store := by
  have hparent : ∀ id, store'.parent? id = store.parent? id := fun id =>
    Option.ext fun parent => h'.parent.symm.trans h.parent
  have hsiblings : ∀ id, store'.prevSibling? id = store.prevSibling? id ∧
      store'.nextSibling? id = store.nextSibling? id := by
    intro id
    cases hp : store.parent? id with
    | none =>
      obtain ⟨hprev, hnext⟩ := h.loose hp
      obtain ⟨hprev', hnext'⟩ := h'.loose ((hparent id).trans hp)
      exact ⟨hprev'.trans hprev.symm, hnext'.trans hnext.symm⟩
    | some parent =>
      obtain ⟨before, after, hk⟩ := List.append_of_mem (h.parent.2 hp)
      have hside := (hk ▸ h.ring parent).between
      have hside' := (hk ▸ h'.ring parent).between
      exact ⟨hside'.1.trans hside.1.symm, hside'.2.trans hside.2.symm⟩
  refine ext_node? hr fun id => ?_
  have hdata := hd id
  have hp := hparent id
  have hfirst := ((h'.ring id).firstChild?).trans ((h.ring id).firstChild?).symm
  have hlast := ((h'.ring id).lastChild?).trans ((h.ring id).lastChild?).symm
  obtain ⟨hprev, hnext⟩ := hsiblings id
  rw [data?, data?] at hdata
  simp only [parent?, Store.firstChild?, Store.lastChild?, prevSibling?, nextSibling?]
    at hp hfirst hlast hprev hnext
  cases hn : store.node? id with
  | none =>
    rw [hn] at hdata
    simpa using hdata
  | some node =>
    rw [hn] at hdata hp hfirst hlast hprev hnext
    obtain ⟨node', hn', hnode⟩ := Option.map_eq_some_iff.1 hdata
    rw [hn'] at hp hfirst hlast hprev hnext ⊢
    obtain ⟨_, _, _, _, _, _⟩ := node
    obtain ⟨_, _, _, _, _, _⟩ := node'
    simp only [Option.bind_some] at hp hfirst hlast hprev hnext hnode
    subst hp hfirst hlast hprev hnext hnode
    rfl

end Unique

section Returns

/-- A parent is not below a child that is away from its place. -/
theorem Consistent.not_within_detached (h : store.Consistent)
    (hk : store.children parent = before ++ child :: after) :
    ¬ Relation.ReflTransGen
      (fun child top => child ∈ withKids store.children parent (before ++ after) top)
      parent child := by
  have hn : ¬ store.Within parent child := h.not_within (by simp [hk])
  intro hw
  exact hn (reflTransGen_of_moved
    (fun hid => Or.inr (mem_of_mem_withKids (rest_subset hk) hid)) hn hw)

/-- **A last child that is taken away and appended again is where it was.** -/
theorem Consistent.append_detach (h : store.Consistent) (hp : store.parent? child = some parent)
    (hnext : store.nextSibling? child = none) :
    (store.detach child).append parent child = store := by
  obtain ⟨before, after, hk⟩ := List.append_of_mem (h.parent.2 hp)
  obtain rfl : after = [] :=
    List.head?_eq_none_iff.1 ((hk ▸ h.ring parent).between.2.symm.trans hnext)
  have hm : child ∈ store.children parent := by rw [hk]; simp
  have hl := (Links.detach h hk).append (by simpa using h.parent_lt_size hm)
    (by simpa using h.lt_size hm) (Links.parent?_detach h hk) (h.not_within_detached hk)
  have hsame : withKids (withKids store.children parent (before ++ [])) parent
      (withKids store.children parent (before ++ []) parent ++ [child]) = store.children := by
    rw [withKids_withKids, withKids_self, List.append_nil, ← hk, withKids_eq_self]
  rw [hsame] at hl
  exact Links.eq_of_data? h hl (by simp) fun id => by simp

/-- **A child that is taken away and inserted before its next sibling again is where it was.** -/
theorem Consistent.insertBefore_detach {next : NodeId} (h : store.Consistent)
    (hnext : store.nextSibling? child = some next) :
    (store.detach child).insertBefore next child = store := by
  obtain ⟨parent, hp⟩ : ∃ parent, store.parent? child = some parent := by
    rw [← Option.ne_none_iff_exists']
    intro ho
    cases (h.loose ho).2.symm.trans hnext
  obtain ⟨before, rest, hk⟩ := List.append_of_mem (h.parent.2 hp)
  obtain ⟨after, rfl⟩ : ∃ after, rest = next :: after :=
    List.head?_eq_some_iff.1 ((hk ▸ h.ring parent).between.2.symm.trans hnext)
  have hm : child ∈ store.children parent := by rw [hk]; simp
  have hl := (Links.detach h hk).insertBefore withKids_self (by simpa using h.lt_size hm)
    (Links.parent?_detach h hk) (h.not_within_detached hk)
  have hsame : withKids (withKids store.children parent (before ++ next :: after)) parent
      (before ++ child :: next :: after) = store.children := by
    rw [withKids_withKids, ← hk, withKids_eq_self]
  rw [hsame] at hl
  exact Links.eq_of_data? h hl (by simp) fun id => by simp

/-- Moving the first children of a node behind its others turns the row. -/
theorem Links.moveAll_self {source : NodeId} :
    ∀ {rest moved : List NodeId} {store : Store} {kids : NodeId → List NodeId}, store.Links kids →
      kids source = rest ++ moved →
      (rest.foldl (fun store child => (store.detach (some child)).append source child) store).Links
        (withKids kids source (moved ++ rest)) := by
  intro rest
  induction rest with
  | nil =>
    intro moved store kids h hk
    rw [List.append_nil, ← List.nil_append moved, ← hk, withKids_eq_self]
    exact h
  | cons child rest ih =>
    intro moved store kids h hk
    obtain rfl : store.children = kids := funext h.children_eq
    have hm : child ∈ store.children source := by rw [hk]; simp
    have hn : ¬ store.Within source child := Consistent.not_within h hm
    rw [List.cons_append] at hk
    have hl := h.moveFirst (h.parent_lt_size hm) hk hn
    rw [withKids_withKids, withKids_self, List.append_assoc] at hl
    have hall := ih hl withKids_self
    rw [List.foldl_cons]
    rwa [withKids_withKids, List.append_assoc, List.singleton_append] at hall

/-- What the nodes are stays when children are moved. -/
theorem data?_reparentChildren (store : Store) (source target : Link) (id : NodeId) :
    (store.reparentChildren source target).data? id = store.data? id := by
  rw [reparentChildren]
  generalize (source.map store.children).getD [] = children
  induction children generalizing store with
  | nil => rfl
  | cons child rest ih =>
    rw [List.foldl_cons, ih, data?_append, data?_detach]

/-- **Children that are moved to where they are stay as they are.** -/
theorem Consistent.reparentChildren_self (h : store.Consistent) :
    store.reparentChildren id id = store := by
  have hl : (store.reparentChildren id id).Links store.children := by
    have hall := Links.moveAll_self h (List.append_nil (store.children id)).symm
    rwa [List.nil_append, withKids_eq_self] at hall
  exact Links.eq_of_data? h hl (reparentChildren_frame store id id).1
    (data?_reparentChildren store id id)

end Returns

section Steps

/-- A store with the nodes of some rows and the links of their children has these rows. -/
theorem Links.rows_eq {rows : Rows} (h : store.Links rows.children) (hs : store.size = rows.size)
    (hd : ∀ id, store.data? id = rows.data id) : store.Consistent ∧ store.rows = rows := by
  refine ⟨h.consistent, ?_⟩
  obtain ⟨size, data, children⟩ := rows
  obtain rfl : store.size = size := hs
  obtain rfl : store.data? = data := funext hd
  obtain rfl : store.children = children := funext h.children_eq
  rfl

/-- The contents of the nodes with one more node. -/
theorem data?_create_eq_add (data : NodeData) :
    (store.create data).1.data? id = (store.rows.add data).data id := by
  rw [data?_create]
  exact (Function.update_apply store.data? store.size (some data) id).symm

/-- Without the sibling a row stays as it is. -/
theorem putBefore_of_not_mem {row : List NodeId} (h : sibling ∉ row) :
    putBefore sibling child row = row := by
  induction row with
  | nil => rfl
  | cons other rest ih =>
    rw [List.mem_cons, not_or] at h
    rw [putBefore, List.flatMap_cons, if_neg (Ne.symm h.1), List.singleton_append]
    exact congrArg (other :: ·) (ih h.2)

/-- The node comes where the sibling was. -/
theorem putBefore_append_cons (h : (before ++ sibling :: after).Nodup) :
    putBefore sibling child (before ++ sibling :: after) = before ++ child :: sibling :: after := by
  rw [List.nodup_middle, List.nodup_cons, List.mem_append, not_or] at h
  have hb := @putBefore_of_not_mem child _ _ h.1.1
  have ha := @putBefore_of_not_mem child _ _ h.1.2
  rw [putBefore] at hb ha ⊢
  rw [List.flatMap_append, List.flatMap_cons, if_pos rfl, hb, ha]
  rfl

/-- A change of each row is one of the row that holds a node, if it leaves rows without it alone. -/
theorem Consistent.map_children {f : List NodeId → List NodeId} (h : store.Consistent)
    (hk : child ∈ store.children parent) (hf : ∀ row, child ∉ row → f row = row) :
    (fun id => f (store.children id)) = withKids store.children parent
      (f (store.children parent)) := by
  funext id
  by_cases hid : id = parent
  · rw [hid, withKids_self]
  · rw [withKids_of_ne hid]
    exact hf _ fun hm => hid (h.parent_unique hm hk)

/-- A node that is not below another one is not below its children. -/
theorem not_within_child {source target : NodeId} (h : ¬ store.Within target source) :
    ∀ child ∈ store.children source, ¬ store.Within target child :=
  fun _ hc hw => h (hw.tail hc)

/-- A root alone has the rows of a root alone. -/
theorem rows_ofRoot (root : NodeData) :
    (ofRoot root).Consistent ∧ (ofRoot root).rows = .ofRoot root := by
  refine Links.rows_eq (links_ofRoot root) rfl fun id => ?_
  cases id with
  | zero => rfl
  | succ id => rfl

/-- A node comes right before a sibling in the row that holds the sibling. -/
theorem Consistent.links_insertBefore (h : store.Consistent)
    (hs : (store.parent? sibling).isSome = true) (hc : child < store.size)
    (ho : store.parent? child = none) (hn : ¬ store.Within sibling child) :
    (store.insertBefore sibling child).Links fun id =>
      putBefore sibling child (store.children id) := by
  obtain ⟨parent, hp⟩ := Option.isSome_iff_exists.1 hs
  have hm : sibling ∈ store.children parent := h.parent.2 hp
  obtain ⟨before, after, hk⟩ := List.append_of_mem hm
  have hrow : putBefore sibling child (store.children parent) =
      before ++ child :: sibling :: after := by
    rw [hk]
    exact putBefore_append_cons (hk ▸ h.nodup parent)
  have hl := h.insertBefore hk hc ho fun hw => hn (.head hm hw)
  rwa [← hrow, ← h.map_children hm fun _ => putBefore_of_not_mem] at hl

/-- A node that is taken away goes out of the row that holds it. -/
theorem Consistent.links_detach (h : store.Consistent) (target : NodeId) :
    (store.detach target).Links fun id => (store.children id).erase target := by
  cases ho : store.parent? target with
  | none =>
    have hrows : (fun id => (store.children id).erase target) = store.children :=
      funext fun id => List.erase_of_not_mem (h.not_mem_of_parent?_eq_none ho id)
    rw [hrows]
    exact h.detach_of_loose ho
  | some parent =>
    have hm : target ∈ store.children parent := h.parent.2 ho
    obtain ⟨before, after, hk⟩ := List.append_of_mem hm
    have hrow : (store.children parent).erase target = before ++ after := by
      have hd := h.nodup parent
      rw [hk, List.nodup_middle, List.nodup_cons, List.mem_append, not_or] at hd
      rw [hk, List.erase_append_right _ hd.1.1, List.erase_cons_head]
    have hl := h.detach hk
    rwa [← hrow, ← h.map_children hm fun _ => List.erase_of_not_mem] at hl

/-- Text goes on in the text that ends the children, or comes as a new text behind them. -/
theorem Consistent.rows_appendText (h : store.Consistent) (hp : parent < store.size)
    (more : String) :
    (store.appendText parent more).Consistent ∧
      (store.appendText parent more).rows = (Edit.appendText parent more).onRows store.rows := by
  rw [Edit.onRows]
  split
  · rename_i last content hlast
    obtain ⟨hl, hd⟩ := Rows.lastText?_eq_some.1 hlast
    obtain ⟨hlinks, hsize, hdata⟩ := Links.appendText_of_text more h hl hd
    refine Links.rows_eq hlinks hsize fun id => (hdata id).trans ?_
    exact (Function.update_apply store.data? last (some (.text (content ++ more))) id).symm
  · rename_i hlast
    have hno : ∀ last old, (store.children parent).getLast? = some last →
        store.data? last ≠ some (.text old) := by
      intro last old hl hd
      cases hlast.symm.trans (Rows.lastText?_eq_some.2 ⟨hl, hd⟩)
    obtain ⟨he, hl⟩ := Links.appendText_of_not_text more h hp hno
    refine Links.rows_eq hl ?_ fun id => ?_
    · rw [he, size_append]
      exact size_create
    · rw [he, data?_append]
      exact data?_create_eq_add _

end Steps

end Store

/-- **An edit that is allowed does to the rows of a store what it does to lists**, and keeps the
links consistent. -/
theorem Edit.rows_run {store : Store} {edit : Edit} (h : store.Consistent)
    (ha : edit.Allowed store) :
    (edit.run store).Consistent ∧ (edit.run store).rows = edit.onRows store.rows := by
  cases edit with
  | element name attributes selfClosing =>
    exact Store.Links.rows_eq (Store.Links.create h _) Store.size_create fun _ =>
      Store.data?_create_eq_add _
  | leaf content =>
    exact Store.Links.rows_eq (Store.Links.create h _) Store.size_create fun _ =>
      Store.data?_create_eq_add _
  | append parent child =>
    obtain ⟨hp, hc, ho, hn⟩ := ha
    exact Store.Links.rows_eq (h.append hp hc ho hn) Store.size_append fun _ => Store.data?_append
  | insertBefore sibling child =>
    obtain ⟨hs, hc, ho, hn⟩ := ha
    exact Store.Links.rows_eq (h.links_insertBefore hs hc ho hn) Store.size_insertBefore fun _ =>
      Store.data?_insertBefore
  | detach target =>
    exact Store.Links.rows_eq (h.links_detach target) Store.size_detach fun _ => Store.data?_detach
  | appendText parent more => exact h.rows_appendText ha more
  | reparent source target =>
    obtain ⟨_, ht, hn⟩ := ha
    rw [Edit.onRows]
    split
    · rename_i he
      subst he
      rw [Edit.run, h.reparentChildren_self]
      exact ⟨h, rfl⟩
    · rename_i he
      have hl := h.reparentChildren he ht (Store.not_within_child (hn.resolve_left he))
      exact Store.Links.rows_eq hl (store.reparentChildren_frame source target).2
        (store.data?_reparentChildren source target)

/-- **Edits that are allowed in turn do to rows what they do to lists**, and keep the links
consistent. -/
theorem Edit.rows_foldl_run {edits : List Edit} {store : Store} (h : store.Consistent)
    (ha : Edit.AllAllowed store edits) :
    (edits.foldl Edit.run store).Consistent ∧
      (edits.foldl Edit.run store).rows = edits.foldl Edit.onRows store.rows := by
  induction edits generalizing store with
  | nil => exact ⟨h, rfl⟩
  | cons edit edits ih =>
    obtain ⟨hc, hrows⟩ := Edit.rows_run h ha.1
    rw [List.foldl_cons, List.foldl_cons, ← hrows]
    exact ih hc ha.2

/-- **Edits make an ordered forest**: from a root alone, allowed edits keep the links
consistent and do to the rows of children what they do to lists. In what they lead to, a node
that is taken away and put back is where it was, with all links, and so are children that are
moved to where they are. -/
theorem Edit.refines {root : NodeData} {edits : List Edit}
    (h : Edit.AllAllowed (.ofRoot root) edits) :
    (edits.foldl Edit.run (.ofRoot root)).Consistent ∧
      (edits.foldl Edit.run (.ofRoot root)).rows = edits.foldl Edit.onRows (.ofRoot root) ∧
      (∀ parent child, (edits.foldl Edit.run (.ofRoot root)).parent? child = some parent →
        (edits.foldl Edit.run (.ofRoot root)).nextSibling? child = none →
        [.detach child, .append parent child].foldl Edit.run (edits.foldl Edit.run (.ofRoot root)) =
          edits.foldl Edit.run (.ofRoot root)) ∧
      (∀ child next, (edits.foldl Edit.run (.ofRoot root)).nextSibling? child = some next →
        [.detach child, .insertBefore next child].foldl Edit.run
            (edits.foldl Edit.run (.ofRoot root)) =
          edits.foldl Edit.run (.ofRoot root)) ∧
      ∀ id, (Edit.reparent id id).run (edits.foldl Edit.run (.ofRoot root)) =
        edits.foldl Edit.run (.ofRoot root) := by
  obtain ⟨hroot, hrows⟩ := Store.rows_ofRoot root
  obtain ⟨hc, hfold⟩ := Edit.rows_foldl_run hroot h
  refine ⟨hc, hrows ▸ hfold, ?_, ?_, ?_⟩
  · intro parent child hp hnext
    exact hc.append_detach hp hnext
  · intro child next hnext
    exact hc.insertBefore_detach hnext
  · intro id
    exact hc.reparentChildren_self

/-- A list with an entry before its text, which is then moved out of the list and takes in the
text. -/
def movedEntry : List Edit :=
  [.element "ul" [] false, .append 0 1, .leaf (.text "b"), .append 1 2, .element "li" [] false,
    .insertBefore 2 3, .appendText 1 "c", .detach 3, .append 0 3, .reparent 1 3]

/-- The edits of the moved entry are allowed. -/
theorem movedEntry_allowed : Edit.AllAllowed (.ofRoot .fragment) movedEntry := by
  have hbare : ∀ {store : Store} {parent child : NodeId}, store.children child = [] →
      parent ≠ child → ¬ store.Within parent child :=
    fun hk hne => (Store.within_of_children_eq_nil hk).not.2 hne
  -- the children of the list stand beside the new place of its text, and nothing is below them
  have hlist : ∀ {store : Store}, store.children 1 = [2] → store.children 2 = [] →
      ¬ store.Within 3 1 := by
    intro store hk hk' hw
    rcases (Store.within_iff 3 1).1 hw with he | ⟨child, hm, hw⟩
    · cases he
    · obtain rfl := List.mem_singleton.1 (hk ▸ hm)
      cases (Store.within_of_children_eq_nil hk').1 hw
  exact ⟨trivial, ⟨by decide, by decide, rfl, hbare rfl (by decide)⟩, trivial,
    ⟨by decide, by decide, rfl, hbare rfl (by decide)⟩, trivial,
    ⟨rfl, by decide, rfl, hbare rfl (by decide)⟩, (by decide : 1 < 4), (by decide : 3 < 4),
    ⟨by decide, by decide, rfl, hbare rfl (by decide)⟩,
    ⟨by decide, by decide, Or.inr (hlist rfl rfl)⟩, trivial⟩

/-- The moved entry comes behind the list, with the whole text below it. -/
theorem refines_movedEntry :
    (movedEntry.foldl Edit.run (.ofRoot .fragment)).children 0 = [1, 3] ∧
      (movedEntry.foldl Edit.run (.ofRoot .fragment)).children 3 = [2] ∧
      (movedEntry.foldl Edit.run (.ofRoot .fragment)).data? 2 = some (.text "bc") := by
  obtain ⟨_, hrows, -⟩ := Edit.refines movedEntry_allowed
  exact ⟨congrArg (fun rows => rows.children 0) hrows, congrArg (fun rows => rows.children 3) hrows,
    congrArg (fun rows => rows.data 2) hrows⟩

end HtmlToHaml.DocTree
