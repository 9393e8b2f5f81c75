import HtmlToHaml.DocTree.Assembly
import HtmlToHaml.DocTree.Walk
import HtmlToHaml.Proofs.Forest.Operations

/-!
# Assembling a forest

A reader of HTML assembles a tree by a fixed set of steps. Every step that is asked for a place
which exists, with content that is not placed yet, keeps the links consistent, so every tree
assembled this way has consistent links. `Placed` says between which children content has come; the
main statement compares the place of content that is put besides an element with the place right
before that element.
-/

namespace HtmlToHaml.DocTree

namespace Store

variable {store : Store} {kids : NodeId → List NodeId} {parent child id : NodeId} {link : Link}

section Frames

/-- A change of links leaves what the nodes are. -/
theorem data?_modify {f : Node → Node} (hf : ∀ node, (f node).data = node.data) :
    (store.modify link f).data? id = store.data? id := by
  have hdata : Node.data ∘ f = Node.data := funext hf
  rw [data?, data?, node?_modify]
  split
  · rw [Option.map_map, hdata]
  · rfl

/-- Only the new node is new. -/
theorem data?_create {data : NodeData} :
    (store.create data).1.data? id = if id = store.size then some data else store.data? id := by
  simp only [create, data?, node?, size, Option.bind_some, Array.getElem?_push]
  by_cases hid : id = store.nodes.size
  · simp [hid]
  · simp [hid]

@[simp] theorem size_create {data : NodeData} : (store.create data).1.size = store.size + 1 := by
  simp [create, size]

@[simp] theorem size_append {new : Link} : (store.append link new).size = store.size := by
  simp [append]

@[simp] theorem data?_append {new : Link} : (store.append link new).data? id = store.data? id := by
  rw [append, data?_modify, data?_modify, data?_modify] <;> exact fun _ => rfl

@[simp] theorem size_insertBefore {sibling : Link} :
    (store.insertBefore sibling link).size = store.size := by
  simp only [insertBefore]
  split <;> simp

@[simp] theorem data?_insertBefore {sibling : Link} :
    (store.insertBefore sibling link).data? id = store.data? id := by
  rw [insertBefore]
  split <;> rw [data?_modify, data?_modify, data?_modify] <;> exact fun _ => rfl

@[simp] theorem size_detach : (store.detach link).size = store.size := by
  rw [detach]
  split
  · rfl
  · dsimp only
    split <;> split <;> simp

@[simp] theorem data?_detach : (store.detach link).data? id = store.data? id := by
  rw [detach]
  split
  · rfl
  · dsimp only
    split <;> split <;> rw [data?_modify, data?_modify, data?_modify] <;> exact fun _ => rfl

@[simp] theorem root_append {new : Link} : (store.append link new).root = store.root := by
  simp [append]

@[simp] theorem root_insertBefore {sibling : Link} :
    (store.insertBefore sibling link).root = store.root := by
  simp only [insertBefore]
  split <;> simp

@[simp] theorem root_detach : (store.detach link).root = store.root := by
  rw [detach]
  split
  · rfl
  · dsimp only
    split <;> split <;> simp

end Frames

section Moving

/-- A node that was taken away has no parent. -/
theorem Links.parent?_detach {l r : List NodeId} (h : store.Links kids)
    (hk : kids parent = l ++ child :: r) : (store.detach child).parent? child = none := by
  have hd := h.detach hk
  rw [Option.eq_none_iff_forall_ne_some]
  intro other ho
  have hm := hd.parent.2 ho
  by_cases he : other = parent
  · subst he
    rw [withKids_self] at hm
    exact h.not_mem_rest hk hm
  · rw [withKids_of_ne he] at hm
    exact h.not_mem_of_ne (by simp [hk]) he hm

/-- Above a node that is not below another one, nothing changes when the other one is moved. -/
theorem reflTransGen_of_moved {kids' : NodeId → List NodeId} {target top : NodeId}
    (hk : ∀ {id parent}, id ∈ kids' parent → id = child ∨ id ∈ kids parent)
    (hn : ¬ Relation.ReflTransGen (fun child parent => child ∈ kids parent) target child)
    (h : Relation.ReflTransGen (fun child parent => child ∈ kids' parent) target top) :
    Relation.ReflTransGen (fun child parent => child ∈ kids parent) target top := by
  induction h with
  | refl => exact .refl
  | tail _ hm ih =>
    rcases hk hm with rfl | hm
    · exact absurd ih hn
    · exact ih.tail hm

/-- When the first child of a node is moved, the lists hold the child and what they held. -/
theorem mem_of_mem_moved {source target parent id : NodeId} {rest : List NodeId}
    (hk : kids source = child :: rest)
    (hm : id ∈ withKids (withKids kids source rest) target
      (withKids kids source rest target ++ [child]) parent) : id = child ∨ id ∈ kids parent := by
  have hout : ∀ {parent}, id ∈ withKids kids source rest parent → id ∈ kids parent := fun hid =>
    mem_of_mem_withKids (rest_subset (l := []) hk) hid
  by_cases hp : parent = target
  · subst hp
    rw [withKids_self, List.mem_append, List.mem_singleton] at hm
    exact hm.symm.imp_right hout
  · rw [withKids_of_ne hp] at hm
    exact Or.inr (hout hm)

/-- The first child of a node is moved behind the children of a node that is not below it. -/
theorem Links.moveFirst {source target : NodeId} {rest : List NodeId} (h : store.Links kids)
    (ht : target < store.size) (hk : kids source = child :: rest)
    (hn : ¬ Relation.ReflTransGen (fun child parent => child ∈ kids parent) target child) :
    ((store.detach (some child)).append target child).Links (withKids (withKids kids source rest)
      target (withKids kids source rest target ++ [child])) := by
  have hm : child ∈ kids source := by rw [hk]; exact List.mem_cons_self
  refine (h.detach (l := []) hk).append (by simpa using ht) (by simpa using h.lt_size hm)
    (h.parent?_detach (l := []) hk) fun hb => hn (reflTransGen_of_moved (fun hid => ?_) hn hb)
  exact Or.inr (mem_of_mem_withKids (rest_subset (l := []) hk) hid)

/-- Moving all children of a node empties its list and lengthens the other's. -/
theorem Links.moveAll {source target : NodeId} (hne : source ≠ target) :
    ∀ {children : List NodeId} {store : Store} {kids : NodeId → List NodeId},
      store.Links kids → target < store.size → kids source = children →
      (∀ child ∈ children,
        ¬ Relation.ReflTransGen (fun child parent => child ∈ kids parent) target child) →
      (children.foldl (fun store child => (store.detach (some child)).append target child)
        store).Links (withKids (withKids kids source []) target (kids target ++ children)) := by
  intro children
  induction children with
  | nil =>
    intro store kids h _ hk _
    have he : withKids (withKids kids source []) target (kids target ++ []) = kids := by
      rw [List.append_nil, ← hk, withKids_eq_self, withKids_eq_self]
    rw [he]
    exact h
  | cons child rest ih =>
    intro store kids h ht hk hn
    have hchild := hn child List.mem_cons_self
    have hrest : withKids (withKids kids source rest) target
        (withKids kids source rest target ++ [child]) source = rest := by
      rw [withKids_of_ne hne, withKids_self]
    -- taking the child away only removes a pair, putting it below the target adds one above it
    have hall := ih (h.moveFirst ht hk hchild) (by simpa using ht) hrest fun other ho hb =>
      hn other (List.mem_cons_of_mem _ ho)
        (reflTransGen_of_moved (mem_of_mem_moved hk) hchild hb)
    rw [List.foldl_cons]
    convert hall using 1
    funext other
    by_cases ht' : other = target
    · subst ht'
      simp [withKids_of_ne (Ne.symm hne)]
    · by_cases hs : other = source
      · subst hs
        simp [withKids_of_ne ht']
      · simp [withKids_of_ne ht', withKids_of_ne hs]

/-- **Reparenting puts the children of one node behind those of another.** -/
theorem Links.reparentChildren {source target : NodeId} (h : store.Links kids)
    (hne : source ≠ target) (ht : target < store.size)
    (hn : ∀ child ∈ kids source,
      ¬ Relation.ReflTransGen (fun child parent => child ∈ kids parent) target child) :
    (store.reparentChildren source target).Links
      (withKids (withKids kids source []) target (kids target ++ kids source)) := by
  have hk : ((some source : Link).map store.children).getD [] = kids source := by
    simp [h.children_eq]
  rw [Store.reparentChildren, hk]
  exact h.moveAll hne ht rfl hn

end Moving

section Contents

variable {store' : Store} {content : Content} {before after : List NodeId}

/-- The second store is the first one with content between two parts of a parent's children. -/
structure Placed (store store' : Store) (parent : NodeId) (before after : List NodeId)
    (content : Content) : Prop where
  /-- Nobody else's children change. -/
  others : ∀ other, other ≠ parent → store'.children other = store.children other
  /-- A node is one more child there; a text is a new child there or joined to the text that ends
  the part before. No other content changes. -/
  here : match content with
    | .node link => ∃ child, link = some child ∧
        store'.children parent = before ++ child :: after ∧ ∀ id, store'.data? id = store.data? id
    | .text more =>
      (∃ new, store.size ≤ new ∧ store'.children parent = before ++ new :: after ∧
          store'.data? new = some (.text more) ∧
          ∀ id, id ≠ new → store'.data? id = store.data? id) ∨
        ∃ last old, before.getLast? = some last ∧ store.data? last = some (.text old) ∧
          store'.children parent = before ++ after ∧
          store'.data? last = some (.text (old ++ more)) ∧
          ∀ id, id ≠ last → store'.data? id = store.data? id

/-- Content may come below a node: text always may, and a node if it is in the store, has no place
yet and is not above that node. -/
def Admits (store : Store) (parent : NodeId) : Content → Prop
  | .node link => ∃ child, link = some child ∧ child < store.size ∧ store.parent? child = none ∧
      ¬ store.Within parent child
  | .text _ => True

/-- In a forest with one list changed, the store lists the other children as before. -/
theorem Links.children_of_ne {children : List NodeId} {other : NodeId}
    (h : store'.Links (withKids kids parent children)) (hne : other ≠ parent) :
    store'.children other = kids other := by
  rw [h.children_eq, withKids_of_ne hne]

/-- In a forest with one list changed, the store lists the changed children. -/
theorem Links.children_self {children : List NodeId}
    (h : store'.Links (withKids kids parent children)) : store'.children parent = children := by
  rw [h.children_eq, withKids_self]

/-- A new node has no parent. -/
theorem parent?_create {data : NodeData} : (store.create data).1.parent? store.size = none := by
  apply (bind_create Node.parent rfl).trans
  simp [node?, size]

/-- No node of the store is below a new one. -/
theorem Links.not_reflTransGen_size (h : store.Links kids) (hp : parent < store.size) :
    ¬ Relation.ReflTransGen (fun child parent => child ∈ kids parent) parent store.size := by
  intro hb
  rcases hb.cases_tail with he | ⟨_, _, hm⟩
  · exact Nat.ne_of_gt hp he
  · exact Nat.lt_irrefl _ (h.parent_lt_size hm)

/-- A text that ends the children is the text that the last link leads to. -/
theorem textAt?_eq {last : NodeId} {old : String} :
    store.textAt? last = some old ↔ store.data? last = some (.text old) := by
  rw [textAt?, data?]
  split
  · rename_i content hd
    simp [hd]
  · rename_i hd
    refine iff_of_false (by simp) fun he => ?_
    exact hd old he

/-- Text behind a text that ends the children is joined to it. -/
theorem Links.appendText_of_text {last : NodeId} {old : String} (more : String)
    (h : store.Links kids) (hl : (kids parent).getLast? = some last)
    (hold : store.data? last = some (.text old)) :
    (store.appendText parent more).Links kids ∧ (store.appendText parent more).size = store.size ∧
      ∀ id, (store.appendText parent more).data? id =
        if id = last then some (.text (old ++ more)) else store.data? id := by
  have hlast : (store.node? parent).bind Node.lastChild = some last :=
    (h.ring parent).lastChild?.trans hl
  have he : store.appendText parent more = store.modify last (extendText more) := by
    simp only [appendText, hlast, textAt?_eq.2 hold, Option.isSome_some, if_true]
  rw [he]
  refine ⟨?_, size_modify .., ?_⟩
  · refine h.modify_of_frame ?_ ?_ ?_ ?_ ?_ <;>
      · intro node
        rw [extendText]
        split <;> rfl
  · intro id
    obtain ⟨node, hnode, hdata⟩ := Option.map_eq_some_iff.1 hold
    by_cases hid : id = last
    · simp [hid, data?, node?_modify, hnode, extendText, hdata]
    · rw [if_neg hid, data?, data?, node?_modify, if_neg fun he => hid (Option.some.inj he).symm]

/-- Text behind anything else is a new node. -/
theorem Links.appendText_of_not_text (more : String) (h : store.Links kids)
    (hp : parent < store.size)
    (hno : ∀ last old, (kids parent).getLast? = some last → store.data? last ≠ some (.text old)) :
    store.appendText parent more = (store.create (.text more)).1.append parent store.size ∧
      (store.appendText parent more).Links
        (withKids kids parent (kids parent ++ [store.size])) := by
  have hlast : (store.node? parent).bind Node.lastChild = (kids parent).getLast? :=
    (h.ring parent).lastChild?
  have htext : (store.textAt? (kids parent).getLast?).isSome = false := by
    rw [Option.isSome_eq_false_iff, Option.isNone_iff_eq_none, Option.eq_none_iff_forall_ne_some]
    intro old hold
    cases hl : (kids parent).getLast? with
    | none => simp [hl, textAt?, node?] at hold
    | some last =>
      rw [hl] at hold
      exact hno last old hl (textAt?_eq.1 hold)
  have he : store.appendText parent more =
      (store.create (.text more)).1.append parent store.size := by
    simp only [appendText, hlast, htext, Bool.false_eq_true, if_false]
    rfl
  rw [he]
  have hlt : parent < (store.create (.text more)).1.size := by
    simpa using Nat.lt_succ_of_lt hp
  exact ⟨rfl, (h.create (.text more)).append hlt (by simp) parent?_create
    (h.not_reflTransGen_size hp)⟩

/-- **Content that is appended comes behind all children.** -/
theorem Consistent.appendContent (h : store.Consistent) (hp : parent < store.size)
    (ha : store.Admits parent content) :
    (store.appendContent parent content).Consistent ∧
      Placed store (store.appendContent parent content) parent
        (store.children parent) [] content := by
  cases content with
  | node link =>
    obtain ⟨child, rfl, hc, ho, hn⟩ := ha
    have hl := h.append hp hc ho hn
    refine ⟨hl.consistent, fun other hne => hl.children_of_ne hne, child, rfl, ?_, ?_⟩
    · exact hl.children_self
    · intro id
      exact data?_append
  | text more =>
    by_cases htext : ∃ last old, (store.children parent).getLast? = some last ∧
        store.data? last = some (.text old)
    · obtain ⟨last, old, hl, hold⟩ := htext
      obtain ⟨hlinks, _, hdata⟩ := Links.appendText_of_text more h hl hold
      refine ⟨hlinks.consistent, fun other _ => hlinks.children_eq other,
        Or.inr ⟨last, old, hl, hold, ?_, ?_, fun id hid => ?_⟩⟩
      · rw [List.append_nil]
        exact hlinks.children_eq parent
      · exact (hdata last).trans (if_pos rfl)
      · exact (hdata id).trans (if_neg hid)
    · push Not at htext
      obtain ⟨he, hl⟩ := Links.appendText_of_not_text more h hp htext
      have hdata : ∀ id, (store.appendText parent more).data? id =
          if id = store.size then some (.text more) else store.data? id := by
        intro id
        rw [he, data?_append, data?_create]
      refine ⟨hl.consistent, fun other hne => hl.children_of_ne hne,
        Or.inl ⟨store.size, le_rfl, hl.children_self, ?_, fun id hid => ?_⟩⟩
      · exact (hdata store.size).trans (if_pos rfl)
      · exact (hdata id).trans (if_neg hid)

/-- Text that is inserted is a new node right before the sibling. -/
theorem Consistent.insertText {sibling : NodeId} (h : store.Consistent)
    (hk : store.children parent = before ++ sibling :: after) (more : String) :
    (store.insertContentBefore sibling (.text more)).Links
        (withKids store.children parent (before ++ store.size :: sibling :: after)) ∧
      (store.insertContentBefore sibling (.text more)).size = store.size + 1 ∧
      ∀ id, (store.insertContentBefore sibling (.text more)).data? id =
        if id = store.size then some (.text more) else store.data? id := by
  have hm : sibling ∈ store.children parent := by rw [hk]; simp
  refine ⟨?_, size_insertBefore.trans size_create, ?_⟩
  · exact (h.create (.text more)).insertBefore hk (by simp) parent?_create
      (h.not_reflTransGen_size (h.parent_lt_size hm))
  · exact fun id => data?_insertBefore.trans data?_create

/-- **Content that is inserted comes right before the sibling.** -/
theorem Consistent.insertContentBefore {sibling : NodeId} (h : store.Consistent)
    (hk : store.children parent = before ++ sibling :: after) (ha : store.Admits parent content) :
    (store.insertContentBefore sibling content).Consistent ∧
      Placed store (store.insertContentBefore sibling content) parent before (sibling :: after)
        content := by
  cases content with
  | node link =>
    obtain ⟨child, rfl, hc, ho, hn⟩ := ha
    have hl := h.insertBefore hk hc ho hn
    refine ⟨hl.consistent, fun other hne => hl.children_of_ne hne, child, rfl, ?_, ?_⟩
    · exact hl.children_self
    · intro id
      exact data?_insertBefore
  | text more =>
    obtain ⟨hl, -, hdata⟩ := h.insertText hk more
    refine ⟨hl.consistent, fun other hne => hl.children_of_ne hne,
      Or.inl ⟨store.size, le_rfl, hl.children_self, ?_, ?_⟩⟩
    · exact (hdata store.size).trans (if_pos rfl)
    · exact fun id hid => (hdata id).trans (if_neg hid)

end Contents

end Store

end HtmlToHaml.DocTree
