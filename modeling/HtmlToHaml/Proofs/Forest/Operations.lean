import HtmlToHaml.Proofs.Forest.Edits

/-!
# Operations on a forest

Every operation that moves a node gives the node its place and sets the two links that lead to it.
`setForward` and `setBackward` set one such link, whether it is a sibling's or the parent's own, and
each operation is a row of these steps. The main statements say what appending, inserting, taking
away and creating do to the lists of children.
-/

namespace HtmlToHaml.DocTree.Store

/-- The store with the link forward from a place of a ring set. -/
def setForward (store : Store) (parent place value : Link) : Store :=
  if place.isSome then store.modify place fun node => { node with nextSibling := value }
  else store.modify parent fun node => { node with firstChild := value }

/-- The store with the link backward from a place of a ring set. -/
def setBackward (store : Store) (parent place value : Link) : Store :=
  if place.isSome then store.modify place fun node => { node with prevSibling := value }
  else store.modify parent fun node => { node with lastChild := value }

/-- The store with a node that has a parent and siblings set. -/
def settle (store : Store) (child parent prev next : Link) : Store :=
  store.modify child fun node =>
    { node with parent := parent, prevSibling := prev, nextSibling := next }

variable {store : Store} {kids : NodeId → List NodeId} {parent child id other : NodeId}
  {place value l : Link}

/-- A number below the size stands for a node. -/
theorem exists_node?_of_lt (h : id < store.size) : ∃ node, store.node? (some id) = some node :=
  ⟨store.nodes[id], Array.getElem?_eq_getElem h⟩

@[simp] theorem size_setForward : (store.setForward l place value).size = store.size := by
  rw [setForward]
  split <;> exact size_modify ..

@[simp] theorem size_setBackward : (store.setBackward l place value).size = store.size := by
  rw [setBackward]
  split <;> exact size_modify ..

@[simp] theorem size_settle {parent prev next : Link} :
    (store.settle l parent prev next).size = store.size :=
  size_modify ..

/-- Setting a link forward is seen at its place only. -/
theorem forward_setForward (hp : parent < store.size)
    (hv : ∀ id, place = some id → id < store.size) :
    (store.setForward parent place value).forward other l =
      if IsPlace parent place other l then value else store.forward other l := by
  cases place with
  | none =>
    obtain ⟨top, htop⟩ := exists_node?_of_lt hp
    cases l with
    | none =>
      by_cases ho : other = parent
      · simp [setForward, forward, firstChild?, node?_modify, ho, htop]
      · simp [setForward, forward, firstChild?, node?_modify, ho, Ne.symm ho]
    | some id =>
      by_cases hi : parent = id
      · simp [setForward, forward, nextSibling?, node?_modify, ← hi, htop]
      · simp [setForward, forward, nextSibling?, node?_modify, hi]
  | some before =>
    obtain ⟨node, hn⟩ := exists_node?_of_lt (hv before rfl)
    cases l with
    | none =>
      by_cases ho : before = other
      · simp [setForward, forward, firstChild?, node?_modify, ← ho, hn]
      · simp [setForward, forward, firstChild?, node?_modify, ho]
    | some id =>
      by_cases hi : before = id
      · simp [setForward, forward, nextSibling?, node?_modify, ← hi, hn]
      · simp [setForward, forward, nextSibling?, node?_modify, hi]

/-- Setting a link backward is seen at its place only. -/
theorem backward_setBackward (hp : parent < store.size)
    (hv : ∀ id, place = some id → id < store.size) :
    (store.setBackward parent place value).backward other l =
      if IsPlace parent place other l then value else store.backward other l := by
  cases place with
  | none =>
    obtain ⟨top, htop⟩ := exists_node?_of_lt hp
    cases l with
    | none =>
      by_cases ho : other = parent
      · simp [setBackward, backward, lastChild?, node?_modify, ho, htop]
      · simp [setBackward, backward, lastChild?, node?_modify, ho, Ne.symm ho]
    | some id =>
      by_cases hi : parent = id
      · simp [setBackward, backward, prevSibling?, node?_modify, ← hi, htop]
      · simp [setBackward, backward, prevSibling?, node?_modify, hi]
  | some after =>
    obtain ⟨node, hn⟩ := exists_node?_of_lt (hv after rfl)
    cases l with
    | none =>
      by_cases ho : after = other
      · simp [setBackward, backward, lastChild?, node?_modify, ← ho, hn]
      · simp [setBackward, backward, lastChild?, node?_modify, ho]
    | some id =>
      by_cases hi : after = id
      · simp [setBackward, backward, prevSibling?, node?_modify, ← hi, hn]
      · simp [setBackward, backward, prevSibling?, node?_modify, hi]

/-- A change that leaves a field alone is not seen in it. -/
theorem bind_modify {f : Node → Node} (g : Node → Link) (hf : ∀ node, g (f node) = g node) :
    ((store.modify place f).node? l).bind g = (store.node? l).bind g := by
  cases l with
  | none => rfl
  | some id =>
    rw [node?_modify]
    cases store.node? (some id) with
    | none => split <;> rfl
    | some node =>
      split
      · exact hf node
      · rfl

/-- A change that leaves the first child and the next sibling alone leaves the links forward. -/
theorem forward_modify {f : Node → Node} (hc : ∀ node, (f node).firstChild = node.firstChild)
    (hs : ∀ node, (f node).nextSibling = node.nextSibling) :
    (store.modify place f).forward other l = store.forward other l := by
  cases l with
  | none => exact bind_modify Node.firstChild hc
  | some id => exact bind_modify Node.nextSibling hs

/-- A change that leaves the last child and the previous sibling alone leaves the links
backward. -/
theorem backward_modify {f : Node → Node} (hc : ∀ node, (f node).lastChild = node.lastChild)
    (hs : ∀ node, (f node).prevSibling = node.prevSibling) :
    (store.modify place f).backward other l = store.backward other l := by
  cases l with
  | none => exact bind_modify Node.lastChild hc
  | some id => exact bind_modify Node.prevSibling hs

/-- Setting a link forward leaves the links backward. -/
theorem backward_setForward {parent : Link} :
    (store.setForward parent place value).backward other l = store.backward other l := by
  rw [setForward]
  split
  · exact backward_modify (fun _ => rfl) fun _ => rfl
  · exact backward_modify (fun _ => rfl) fun _ => rfl

/-- Setting a link backward leaves the links forward. -/
theorem forward_setBackward {parent : Link} :
    (store.setBackward parent place value).forward other l = store.forward other l := by
  rw [setBackward]
  split
  · exact forward_modify (fun _ => rfl) fun _ => rfl
  · exact forward_modify (fun _ => rfl) fun _ => rfl

/-- Setting a link forward leaves the parents. -/
theorem parent?_setForward {parent : Link} :
    (store.setForward parent place value).parent? id = store.parent? id := by
  rw [setForward]
  split <;> exact bind_modify Node.parent fun _ => rfl

/-- Setting a link backward leaves the parents. -/
theorem parent?_setBackward {parent : Link} :
    (store.setBackward parent place value).parent? id = store.parent? id := by
  rw [setBackward]
  split <;> exact bind_modify Node.parent fun _ => rfl

section Settled

variable {parent prev next : Link}

/-- A settled node has its parent. -/
theorem parent?_settle (hc : child < store.size) :
    (store.settle child parent prev next).parent? id =
      if id = child then parent else store.parent? id := by
  obtain ⟨node, hn⟩ := exists_node?_of_lt hc
  by_cases hi : child = id
  · simp [settle, parent?, node?_modify, ← hi, hn]
  · simp [settle, parent?, node?_modify, hi, Ne.symm hi]

/-- A settled node has its next sibling. -/
theorem forward_settle (hc : child < store.size) :
    (store.settle child parent prev next).forward other l =
      if l = some child then next else store.forward other l := by
  obtain ⟨node, hn⟩ := exists_node?_of_lt hc
  cases l with
  | none =>
    simp only [settle, forward, firstChild?, reduceCtorEq, if_false]
    exact bind_modify Node.firstChild fun _ => rfl
  | some id =>
    by_cases hi : child = id
    · simp [settle, forward, nextSibling?, node?_modify, ← hi, hn]
    · simp [settle, forward, nextSibling?, node?_modify, hi, Ne.symm hi]

/-- A settled node has its previous sibling. -/
theorem backward_settle (hc : child < store.size) :
    (store.settle child parent prev next).backward other l =
      if l = some child then prev else store.backward other l := by
  obtain ⟨node, hn⟩ := exists_node?_of_lt hc
  cases l with
  | none =>
    simp only [settle, backward, lastChild?, reduceCtorEq, if_false]
    exact bind_modify Node.lastChild fun _ => rfl
  | some id =>
    by_cases hi : child = id
    · simp [settle, backward, prevSibling?, node?_modify, ← hi, hn]
    · simp [settle, backward, prevSibling?, node?_modify, hi, Ne.symm hi]

end Settled

section Steps

variable {a b : Link}

/-- Settling a node and leading the links of both places to it is an insertion. -/
theorem inserted_of_steps (hp : parent < store.size) (hc : child < store.size)
    (ha : ∀ id, a = some id → id ≠ child ∧ id < store.size)
    (hb : ∀ id, b = some id → id ≠ child ∧ id < store.size) :
    Inserted store
      (((store.settle child parent a b).setBackward parent b child).setForward parent a child)
      parent child a b := by
  refine ⟨fun id => ?_, fun other l => ?_, fun other l => ?_⟩
  · rw [parent?_setForward, parent?_setBackward, parent?_settle hc]
  · rw [forward_setForward (by simpa using hp) (fun id he => by simpa using (ha id he).2),
      forward_setBackward, forward_settle hc]
    by_cases hl : l = some child
    · subst hl
      have hne : a ≠ some child := fun he => (ha child he).1 rfl
      simp [hne]
    · rw [if_neg hl, if_neg hl]
  · rw [backward_setForward,
      backward_setBackward (by simpa using hp) (fun id he => by simpa using (hb id he).2),
      backward_settle hc]
    by_cases hl : l = some child
    · subst hl
      have hne : b ≠ some child := fun he => (hb child he).1 rfl
      simp [hne]
    · rw [if_neg hl, if_neg hl]

/-- Leading the links of both places past a node and settling it alone is a removal. -/
theorem removed_of_steps (hp : parent < store.size) (hc : child < store.size)
    (ha : ∀ id, a = some id → id < store.size) (hb : ∀ id, b = some id → id < store.size) :
    Removed store
      (((store.setForward parent a b).setBackward parent b a).settle child none none none)
      parent child a b := by
  refine ⟨fun id => ?_, fun other l => ?_, fun other l => ?_⟩
  · rw [parent?_settle (by simpa using hc), parent?_setBackward, parent?_setForward]
  · rw [forward_settle (by simpa using hc), forward_setBackward, forward_setForward hp ha]
  · rw [backward_settle (by simpa using hc),
      backward_setBackward (by simpa using hp) (by simpa using hb), backward_setForward]

end Steps

/-- Inserting settles the node and leads the links of its siblings to it. -/
theorem insertBefore_eq {sibling new : NodeId} {parent prev : Link}
    (hp : store.parent? sibling = parent) (hv : store.prevSibling? sibling = prev) :
    store.insertBefore sibling new =
      ((store.settle new parent prev sibling).setBackward parent sibling new).setForward
        parent prev new := by
  subst hp hv
  rfl

/-- Stores with the same nodes and the same root are the same. -/
theorem ext_node? {store' : Store} (hr : store.root = store'.root)
    (h : ∀ id : NodeId, store.node? id = store'.node? id) : store = store' := by
  obtain ⟨nodes, root⟩ := store
  obtain ⟨nodes', root'⟩ := store'
  have hn : nodes = nodes' := Array.ext_getElem? h
  exact congrArg₂ Store.mk hn hr

/-- Appending settles the node and leads the links at the end of the ring to it. -/
theorem append_eq (hends : store.firstChild? parent = none ↔ store.lastChild? parent = none) :
    store.append parent child =
      ((store.settle child parent (store.lastChild? parent) none).setBackward parent none
        child).setForward parent (store.lastChild? parent) child := by
  have hl : (store.node? (some parent)).bind Node.lastChild = store.lastChild? parent := rfl
  rw [append, hl]
  refine ext_node? (by cases store.lastChild? parent <;> rfl) fun id => ?_
  by_cases hp : parent = id
  · -- only at the parent do the two ways of setting the first child differ
    subst hp
    cases hn : store.node? (some parent) with
    | none =>
      cases hv : store.lastChild? parent <;>
        simp [setForward, setBackward, settle, node?_modify, hn]
    | some top =>
      have hf : store.firstChild? parent = top.firstChild := by simp [firstChild?, hn]
      rw [hf] at hends
      cases hv : store.lastChild? parent with
      | none =>
        have htop := hends.2 hv
        by_cases hc : child = parent <;>
          simp [setForward, setBackward, settle, node?_modify, hn, htop, hc]
      | some last =>
        have hne : top.firstChild ≠ none := fun hf => by simp [hends.1 hf] at hv
        obtain ⟨first, htop⟩ := Option.ne_none_iff_exists'.1 hne
        by_cases hc : child = parent <;> by_cases hx : last = parent <;>
          simp [setForward, setBackward, settle, node?_modify, hn, htop, hc, hx]
  · cases hv : store.lastChild? parent <;> simp [setForward, setBackward, settle, node?_modify, hp]

/-- Taking away leads the links of the siblings past the node and settles it alone. -/
theorem detach_eq {node : Node} (hn : store.node? (some id) = some node) :
    store.detach id =
      (((store.setForward node.parent node.prevSibling node.nextSibling).setBackward node.parent
        node.nextSibling node.prevSibling).settle id none none none) := by
  simp only [detach, hn]
  rfl

/-- A root alone has no links. -/
theorem links_ofRoot (data : NodeData) : (ofRoot data).Links fun _ => [] := by
  have hfield : ∀ {g : Node → Link} {l : Link}, g { data } = none →
      ((ofRoot data).node? l).bind g = none := by
    intro g l hg
    cases l with
    | none => rfl
    | some id =>
      cases id with
      | zero => exact hg
      | succ id => rfl
  have hplace : ∀ parent, (ofRoot data).Joined parent none none :=
    fun _ => ⟨hfield rfl, hfield rfl⟩
  refine ⟨fun parent before after he => ?_, fun _ => List.nodup_nil, ?_, ?_, ?_⟩
  · obtain ⟨rfl, rfl⟩ := List.append_eq_nil_iff.1 he.symm
    exact hplace parent
  · intro parent child
    apply iff_of_false List.not_mem_nil
    rw [parent?, hfield rfl]
    simp
  · intro child _
    exact ⟨hfield rfl, hfield rfl⟩
  · exact ⟨fun id => Acc.intro id fun _ hm => absurd hm List.not_mem_nil⟩

/-- Nodes with the same links make up the same forest. -/
theorem Links.congr {store' : Store} (h : store.Links kids)
    (hp : ∀ id, store'.parent? id = store.parent? id)
    (hf : ∀ other l, store'.forward other l = store.forward other l)
    (hb : ∀ other l, store'.backward other l = store.backward other l) : store'.Links kids where
  ring other before after hk := by
    rw [Joined, hf, hb]
    exact h.ring other before after hk
  nodup := h.nodup
  parent := by
    intro parent child
    rw [hp]
    exact h.parent
  loose := by
    intro child hc
    rw [hp] at hc
    exact ⟨(hb child (some child)).trans (h.loose hc).1,
      (hf child (some child)).trans (h.loose hc).2⟩
  grounded := h.grounded

/-- A change that leaves all links alone leaves the forest. -/
theorem Links.modify_of_frame {f : Node → Node} (h : store.Links kids)
    (hp : ∀ node, (f node).parent = node.parent)
    (hfirst : ∀ node, (f node).firstChild = node.firstChild)
    (hlast : ∀ node, (f node).lastChild = node.lastChild)
    (hprev : ∀ node, (f node).prevSibling = node.prevSibling)
    (hnext : ∀ node, (f node).nextSibling = node.nextSibling) : (store.modify l f).Links kids :=
  h.congr (fun _ => bind_modify Node.parent hp) (fun _ _ => forward_modify hfirst hnext)
    fun _ _ => backward_modify hlast hprev

/-- A new node has no links, like a number that stands for no node. -/
theorem bind_create {data : NodeData} (g : Node → Link) (hg : g { data } = none) :
    ((store.create data).1.node? l).bind g = (store.node? l).bind g := by
  cases l with
  | none => rfl
  | some id =>
    simp only [create, node?, Option.bind_some, Array.getElem?_push]
    split
    · rename_i hid
      simp [hid, hg]
    · rfl

/-- A new node leaves the links forward. -/
theorem forward_create {data : NodeData} :
    (store.create data).1.forward other l = store.forward other l := by
  cases l with
  | none => exact bind_create Node.firstChild rfl
  | some id => exact bind_create Node.nextSibling rfl

/-- A new node leaves the links backward. -/
theorem backward_create {data : NodeData} :
    (store.create data).1.backward other l = store.backward other l := by
  cases l with
  | none => exact bind_create Node.lastChild rfl
  | some id => exact bind_create Node.prevSibling rfl

/-- A new node is alone. -/
theorem Links.create (h : store.Links kids) (data : NodeData) :
    (store.create data).1.Links kids :=
  h.congr (fun _ => bind_create Node.parent rfl) (fun _ _ => forward_create) fun _ _ =>
    backward_create

/-- The last child is in the store and is not a node without a parent. -/
theorem Links.getLast?_lt (h : store.Links kids) (ho : store.parent? child = none)
    (hl : (kids parent).getLast? = some id) : id ≠ child ∧ id < store.size := by
  have hm := List.mem_of_getLast? hl
  refine ⟨?_, h.lt_size hm⟩
  rintro rfl
  exact h.not_mem_of_parent?_eq_none ho parent hm

/-- **Appending adds the node at the end of the parent's children.** -/
theorem Links.append (h : store.Links kids) (hp : parent < store.size) (hc : child < store.size)
    (ho : store.parent? child = none)
    (hn : ¬ Relation.ReflTransGen (fun child parent => child ∈ kids parent) parent child) :
    (store.append parent child).Links (withKids kids parent (kids parent ++ [child])) := by
  have hfirst := (h.ring parent).firstChild?
  have hlast := (h.ring parent).lastChild?
  have hends : store.firstChild? parent = none ↔ store.lastChild? parent = none := by
    rw [hfirst, hlast, List.head?_eq_none_iff, List.getLast?_eq_none_iff]
  rw [append_eq hends, hlast]
  exact h.insert (List.append_nil _).symm ho hn
    (inserted_of_steps hp hc (fun id hl => h.getLast?_lt ho hl) (by simp))

/-- **Inserting puts the node right before the sibling.** -/
theorem Links.insertBefore {l r : List NodeId} {sibling : NodeId} (h : store.Links kids)
    (hk : kids parent = l ++ sibling :: r) (hc : child < store.size)
    (ho : store.parent? child = none)
    (hn : ¬ Relation.ReflTransGen (fun child parent => child ∈ kids parent) parent child) :
    (store.insertBefore sibling child).Links
      (withKids kids parent (l ++ child :: sibling :: r)) := by
  have hm : sibling ∈ kids parent := by rw [hk]; simp
  have hring := h.ring parent
  rw [hk] at hring
  rw [insertBefore_eq (h.parent.1 hm) hring.between.1]
  refine h.insert hk ho hn (inserted_of_steps (h.parent_lt_size hm) hc (fun id hl => ?_) ?_)
  · have hid : id ∈ kids parent := by
      rw [hk]
      exact List.mem_append_left _ (List.mem_of_getLast? hl)
    refine ⟨?_, h.lt_size hid⟩
    rintro rfl
    exact h.not_mem_of_parent?_eq_none ho parent hid
  · rintro _ ⟨⟩
    refine ⟨?_, h.lt_size hm⟩
    rintro rfl
    exact h.not_mem_of_parent?_eq_none ho parent hm

/-- **Taking a child away removes it from the parent's children.** -/
theorem Links.detach {l r : List NodeId} (h : store.Links kids)
    (hk : kids parent = l ++ child :: r) :
    (store.detach child).Links (withKids kids parent (l ++ r)) := by
  have hm : child ∈ kids parent := by rw [hk]; simp
  obtain ⟨node, hn⟩ := exists_node?_of_lt (h.lt_size hm)
  have hparent : node.parent = some parent := by
    simpa [parent?, hn] using h.parent.1 hm
  have hside := (hk ▸ h.ring parent).between
  have hprev : node.prevSibling = l.getLast? := by
    simpa [prevSibling?, hn] using hside.1
  have hnext : node.nextSibling = r.head? := by
    simpa [nextSibling?, hn] using hside.2
  rw [detach_eq hn, hparent, hprev, hnext]
  refine h.remove hk (removed_of_steps (h.parent_lt_size hm) (h.lt_size hm) (fun id hl => ?_)
    fun id hl => ?_)
  · have hid : id ∈ kids parent := by
      rw [hk]
      exact List.mem_append_left _ (List.mem_of_getLast? hl)
    exact h.lt_size hid
  · have hid : id ∈ kids parent := by
      rw [hk]
      exact List.mem_append_right _ (List.mem_cons_of_mem _ (List.mem_of_head? hl))
    exact h.lt_size hid

/-- Taking away a node without a parent changes nothing. -/
theorem Links.detach_of_loose (h : store.Links kids) (ho : store.parent? child = none) :
    (store.detach child).Links kids := by
  cases hn : store.node? (some child) with
  | none =>
    have he : store.detach child = store := by simp only [Store.detach, hn]
    rwa [he]
  | some node =>
    have hparent : node.parent = none := by simpa [parent?, hn] using ho
    have hprev : node.prevSibling = none := by simpa [prevSibling?, hn] using (h.loose ho).1
    have hnext : node.nextSibling = none := by simpa [nextSibling?, hn] using (h.loose ho).2
    have hc : child < store.size := by
      by_contra hlt
      simp [node?, Array.getElem?_eq_none (Nat.le_of_not_lt hlt)] at hn
    rw [detach_eq hn, hparent, hprev, hnext]
    refine h.congr (fun id => ?_) (fun other l => ?_) fun other l => ?_
    · refine (parent?_settle hc).trans ?_
      split
      · rename_i hid
        rw [hid, ho]
      · rfl
    · apply (forward_settle hc).trans
      split
      · rename_i hl
        rw [hl]
        exact (h.loose ho).2.symm
      · rfl
    · apply (backward_settle hc).trans
      split
      · rename_i hl
        rw [hl]
        exact (h.loose ho).1.symm
      · rfl

end HtmlToHaml.DocTree.Store
