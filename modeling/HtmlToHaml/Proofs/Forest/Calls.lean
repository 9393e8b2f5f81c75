import HtmlToHaml.Proofs.Forest.Assembly

/-!
# Trees assembled by calls

A reader of HTML makes a row of calls, each of which asks for nodes that exist and for content that
has no place yet. Every call that is allowed keeps the links consistent, so every store that calls
lead to is a forest. The main statement is about content that is put besides an element: it comes
behind all children of the parent, which is not the place right before the element unless there is
nothing to be seen of it.
-/

namespace HtmlToHaml.DocTree

/-- A call of a reader of HTML. -/
inductive Call where
  /-- A new element. -/
  | tag (name : String) (attributes : List Attribute)
  /-- A new comment. -/
  | comment (content : String)
  /-- A new processing instruction. -/
  | instruction (target data : String)
  /-- Content at the end of a parent's children. -/
  | append (parent : NodeId) (content : Content)
  /-- Content right before a sibling. -/
  | insertBefore (sibling : NodeId) (content : Content)
  /-- Content besides an element, or below the one opened before it. -/
  | besides (element previous : NodeId) (content : Content)
  /-- A document type at the end of the root's children. -/
  | doctype (name externalId systemId : String)
  /-- Attributes that an element may lack. -/
  | complete (target : NodeId) (attributes : List Attribute)
  /-- A node away from its place. -/
  | remove (target : NodeId)
  /-- The children of one node below another. -/
  | reparent (source target : NodeId)
  deriving DecidableEq, Repr

/-- The store after a call. -/
def Call.run (store : Store) : Call → Store
  | .tag name attributes => (store.createHtmlElement name attributes).1
  | .comment content => (store.createLeaf (.comment content)).1
  | .instruction target data => (store.createInstruction target data).1
  | .append parent content => store.appendContent parent content
  | .insertBefore sibling content => store.insertContentBefore sibling content
  | .besides element previous content => store.appendBesides element previous content
  | .doctype name externalId systemId => store.appendDoctype name externalId systemId
  | .complete target attributes => store.addMissingAttributes target attributes
  | .remove target => store.detach target
  | .reparent source target => store.reparentChildren source target

/-- A call asks for nodes that exist, a place that exists and content that may come there. -/
def Call.Allowed (store : Store) : Call → Prop
  | .append parent content => parent < store.size ∧ store.Admits parent content
  | .insertBefore sibling content =>
    ∃ parent, store.parent? sibling = some parent ∧ store.Admits parent content
  | .besides element previous content =>
    previous < store.size ∧ store.Admits ((store.parent? element).getD previous) content
  | .reparent source target => source ≠ target ∧ target < store.size ∧
    ∀ child ∈ store.children source, ¬ store.Within target child
  | .tag .. | .comment _ | .instruction .. | .doctype .. | .complete .. | .remove _ => True

/-- The stores that allowed calls lead to, from a document without children on. -/
inductive Assembled : Store → Prop
  /-- The document alone. -/
  | document : Assembled .document
  /-- One more call. -/
  | call {store : Store} {call : Call} :
    Assembled store → call.Allowed store → Assembled (call.run store)

namespace Store

variable {store : Store} {kids : NodeId → List NodeId} {parent child id : NodeId} {link : Link}
  {content : Content}

/-- The links are consistent and the root exists. -/
structure Sound (store : Store) : Prop where
  /-- The links are those of a forest. -/
  consistent : store.Consistent
  /-- The root is one of the nodes. -/
  root_lt : store.root < store.size

/-- A root alone is sound. -/
theorem sound_ofRoot (data : NodeData) : (ofRoot data).Sound :=
  ⟨(links_ofRoot data).consistent, Nat.zero_lt_one⟩

/-- Placing content keeps the root and no node gets lost. -/
theorem appendContent_frame (store : Store) (link : Link) (content : Content) :
    (store.appendContent link content).root = store.root ∧
      store.size ≤ (store.appendContent link content).size := by
  cases content with
  | node new => simp [appendContent]
  | text more =>
    simp only [appendContent, appendText]
    split
    · simp
    · exact ⟨root_append, by rw [size_append, size_create]; exact Nat.le_succ _⟩

/-- Inserting content keeps the root and no node gets lost. -/
theorem insertContentBefore_frame (store : Store) (link : Link) (content : Content) :
    (store.insertContentBefore link content).root = store.root ∧
      store.size ≤ (store.insertContentBefore link content).size := by
  cases content with
  | node new => simp [insertContentBefore]
  | text more =>
    refine ⟨root_insertBefore, ?_⟩
    simp only [insertContentBefore, size_insertBefore]
    exact size_create.ge.trans' (Nat.le_succ _)

/-- Moving children keeps the root and the number of nodes. -/
theorem reparentChildren_frame (store : Store) (source target : Link) :
    (store.reparentChildren source target).root = store.root ∧
      (store.reparentChildren source target).size = store.size := by
  rw [reparentChildren]
  generalize (source.map store.children).getD [] = children
  induction children generalizing store with
  | nil => exact ⟨rfl, rfl⟩
  | cons child rest ih =>
    obtain ⟨hroot, hsize⟩ := @ih ((store.detach (some child)).append target child)
    exact ⟨hroot.trans (by simp), hsize.trans (by simp)⟩

/-- A new node keeps a store sound. -/
theorem Sound.create (h : store.Sound) (data : NodeData) : (store.create data).1.Sound :=
  ⟨(h.consistent.create data).consistent, Nat.lt_succ_of_lt h.root_lt |>.trans_eq size_create.symm⟩

/-- The content that is put besides an element comes below its parent. -/
theorem appendBesides_eq {element previous : NodeId} :
    store.appendBesides element previous content =
      store.appendContent ((store.parent? element).getD previous) content := by
  rw [appendBesides, Option.bind_some]
  cases store.parent? element <;> rfl

/-- The place that content besides an element gets exists. -/
theorem Consistent.getD_parent?_lt (h : store.Consistent) (element : NodeId) {previous : NodeId}
    (hp : previous < store.size) : (store.parent? element).getD previous < store.size := by
  cases ho : store.parent? element with
  | none => exact hp
  | some parent => exact h.parent_lt_size (h.parent.2 ho)

end Store

/-- **A call that is allowed keeps a store sound.** -/
theorem Call.sound {store : Store} {call : Call} (h : store.Sound) (ha : call.Allowed store) :
    (call.run store).Sound := by
  cases call with
  | tag name attributes => exact h.create _
  | comment content => exact h.create _
  | instruction target data => exact h.create _
  | append parent content =>
    have hframe := store.appendContent_frame parent content
    refine ⟨(h.consistent.appendContent ha.1 ha.2).1, ?_⟩
    exact (hframe.1.trans_lt h.root_lt).trans_le hframe.2
  | insertBefore sibling content =>
    obtain ⟨parent, ho, ha⟩ := ha
    obtain ⟨before, after, hk⟩ := List.append_of_mem (h.consistent.parent.2 ho)
    have hframe := store.insertContentBefore_frame sibling content
    refine ⟨(h.consistent.insertContentBefore hk ha).1, ?_⟩
    exact (hframe.1.trans_lt h.root_lt).trans_le hframe.2
  | besides element previous content =>
    have hplace := h.consistent.getD_parent?_lt element ha.1
    have hframe := store.appendContent_frame ((store.parent? element).getD previous) content
    rw [Call.run, Store.appendBesides_eq]
    refine ⟨(h.consistent.appendContent hplace ha.2).1, ?_⟩
    exact (hframe.1.trans_lt h.root_lt).trans_le hframe.2
  | doctype name externalId systemId =>
    have hc := h.create (.leaf (Leaf.normal (.doctype name (some externalId) (some systemId))))
    have hl := hc.consistent.append hc.root_lt (by simp) Store.parent?_create
      (by
        rw [(h.consistent.create _).children_eq |> funext]
        exact h.consistent.not_reflTransGen_size h.root_lt)
    refine ⟨hl.consistent, ?_⟩
    exact (Store.root_append.trans_lt hc.root_lt).trans_eq Store.size_append.symm
  | complete target attributes =>
    have hl : (store.addMissingAttributes target attributes).Links store.children := by
      refine h.consistent.modify_of_frame ?_ ?_ ?_ ?_ ?_ <;>
        · intro node
          split <;> rfl
    exact ⟨hl.consistent, by simpa [Call.run, Store.addMissingAttributes] using h.root_lt⟩
  | remove target =>
    refine ⟨?_, by simpa [Call.run] using h.root_lt⟩
    cases ho : store.parent? target with
    | none => exact (h.consistent.detach_of_loose ho).consistent
    | some parent =>
      obtain ⟨before, after, hk⟩ := List.append_of_mem (h.consistent.parent.2 ho)
      exact (h.consistent.detach hk).consistent
  | reparent source target =>
    have hframe := store.reparentChildren_frame source target
    refine ⟨(h.consistent.reparentChildren ha.1 ha.2.1 ha.2.2).consistent, ?_⟩
    exact (hframe.1.trans_lt h.root_lt).trans_eq hframe.2.symm

/-- **Every assembled store is sound.** -/
theorem Assembled.sound {store : Store} (h : Assembled store) : store.Sound := by
  induction h with
  | document => exact Store.sound_ofRoot _
  | call _ ha ih => exact Call.sound ih ha

namespace Store

variable {store : Store} {parent element previous : NodeId} {content : Content}
  {before after : List NodeId}

/-- A list of children ends in a text. -/
def EndsInText (store : Store) (children : List NodeId) : Prop :=
  ∃ last old, children.getLast? = some last ∧ store.data? last = some (.text old)

/-- Joining no characters to a text changes nothing. -/
theorem appendContent_empty (h : store.Consistent)
    (he : store.EndsInText (store.children parent)) :
    store.appendContent parent (.text "") = store := by
  obtain ⟨last, old, hl, hold⟩ := he
  have hlast : (store.node? parent).bind Node.lastChild = some last :=
    (h.ring parent).lastChild?.trans hl
  have htext : store.textAt? (some last) = some old := by
    rw [data?] at hold
    rw [textAt?, hold]
  have hsame : extendText "" = id := by
    funext node
    rw [extendText]
    split
    · rename_i content hdata
      obtain ⟨data, _, _, _, _, _⟩ := node
      obtain rfl : data = .text content := hdata
      rw [String.append_empty]
      rfl
    · rfl
  simp only [appendContent, appendText, hlast, htext, Option.isSome_some, if_true]
  refine ext_node? (root_modify ..) fun id => ?_
  rw [node?_modify, hsame, Option.map_id_fun, id_eq, ite_self]

/-- A text that ends the second part of a list is not the one that ends the first part. -/
theorem Links.getLast?_ne {kids : NodeId → List NodeId} {first last : NodeId}
    (h : store.Links kids) (hk : kids parent = before ++ after)
    (hb : before.getLast? = some first) (ha : after.getLast? = some last) : first ≠ last := by
  have hd := h.nodup parent
  rw [hk] at hd
  exact (List.nodup_append.1 hd).2.2 first (List.mem_of_getLast? hb) last (List.mem_of_getLast? ha)

/-- **Appended content stands right before a child only if there is nothing to be seen of it.** -/
theorem Consistent.placed_before_iff (h : store.Consistent)
    (hk : store.children parent = before ++ element :: after) (ha : store.Admits parent content) :
    Placed store (store.appendContent parent content) parent before (element :: after) content ↔
      content = .text "" ∧ store.EndsInText before ∧ store.EndsInText (element :: after) := by
  have hm : element ∈ store.children parent := by rw [hk]; simp
  have hplaced := (h.appendContent (h.parent_lt_size hm) ha).2
  constructor
  · intro hb
    cases content with
    | node link =>
      obtain ⟨child, rfl, _, ho, _⟩ := ha
      obtain ⟨_, ⟨⟩, hend, -⟩ := hplaced.here
      obtain ⟨_, ⟨⟩, hbefore, -⟩ := hb.here
      rw [hend, hk, List.append_assoc, List.cons_append] at hbefore
      have he : element = child := (List.cons.inj (List.append_cancel_left hbefore)).1
      exact absurd (he ▸ hm) (h.not_mem_of_parent?_eq_none ho parent)
    | text more =>
      rcases hplaced.here with ⟨new, -, hend, -⟩ | ⟨last, old, hl, hold, hend, -, hsame⟩
      · rcases hb.here with ⟨new', hnew, hbefore, -⟩ | ⟨_, _, -, -, hbefore, -⟩
        · rw [hend, hk, List.append_assoc, List.cons_append] at hbefore
          have he : element = new' := (List.cons.inj (List.append_cancel_left hbefore)).1
          exact absurd (he ▸ h.lt_size hm) (Nat.not_lt.2 hnew)
        · rw [hend, hk] at hbefore
          simp at hbefore
      · rw [hk, List.getLast?_append_of_ne_nil _ (List.cons_ne_nil _ _)] at hl
        rcases hb.here with ⟨new', -, hbefore, -⟩ | ⟨last', old', hl', hold', -, hjoin, -⟩
        · rw [hend, hk] at hbefore
          have hlen := congrArg List.length hbefore
          simp at hlen
        · have hne : last' ≠ last := h.getLast?_ne hk hl' hl
          have hmore : old' ++ more = old' := by
            rw [hsame last' hne, hold'] at hjoin
            simpa using hjoin.symm
          have hempty : more = "" := by
            rw [← String.append_right_inj old', hmore, String.append_empty]
          exact ⟨congrArg _ hempty, ⟨last', old', hl', hold'⟩, ⟨last, old, hl, hold⟩⟩
  · rintro ⟨rfl, ⟨last, old, hl, hold⟩, hend⟩
    have hends : store.EndsInText (store.children parent) := by
      obtain ⟨last, old, hl, hold⟩ := hend
      refine ⟨last, old, ?_, hold⟩
      rw [hk, List.getLast?_append, hl, Option.some_or]
    rw [appendContent_empty h hends]
    refine ⟨fun _ _ => rfl, Or.inr ⟨last, old, hl, hold, hk, ?_, fun _ _ => rfl⟩⟩
    rw [String.append_empty]
    exact hold

end Store

/-- **Content besides an element comes below what was opened before it if the element has no parent.
Otherwise it comes behind all children of the parent, whichever stand after the element, and so it
stands right before the element only if it is a text without characters that finds a text on both
sides.** -/
theorem Assembled.besides_placed {store : Store} {element previous : NodeId} {content : Content}
    (h : Assembled store) (ha : (Call.besides element previous content).Allowed store) :
    (store.parent? element = none →
      store.Placed (store.appendBesides element previous content) previous
        (store.children previous) [] content) ∧
    ∀ parent before after, store.children parent = before ++ element :: after →
      store.Placed (store.appendBesides element previous content) parent
        (before ++ element :: after) [] content ∧
      (store.Placed (store.appendBesides element previous content) parent before
          (element :: after) content ↔
        content = .text "" ∧ store.EndsInText before ∧ store.EndsInText (element :: after)) := by
  have hc := h.sound.consistent
  obtain ⟨hp, ha⟩ := ha
  rw [Store.appendBesides_eq]
  constructor
  · intro ho
    rw [ho] at ha ⊢
    exact (hc.appendContent hp ha).2
  · intro parent before after hk
    have hm : element ∈ store.children parent := by rw [hk]; simp
    rw [hc.parent.1 hm] at ha ⊢
    rw [← hk]
    exact ⟨(hc.appendContent (hc.parent_lt_size hm) ha).2, hc.placed_before_iff hk ha⟩

/-- A document with a table and a paragraph that has no place yet. -/
def tableAndParagraph : Store :=
  [Call.tag "table" [], .append 0 (.node (some 1)), .tag "p" []].foldl Call.run .document

/-- The paragraph may come below the document. -/
theorem tableAndParagraph_allowed :
    (Call.besides 1 0 (.node (some 2))).Allowed tableAndParagraph := by
  refine ⟨by decide, 2, rfl, by decide, rfl, fun hb => ?_⟩
  rcases hb.cases_tail with he | ⟨id, _, hm⟩
  · exact absurd he (by decide)
  · have hk : tableAndParagraph.children 2 = [] := rfl
    simp [hk] at hm

/-- The document with a table and a paragraph is assembled by allowed calls. -/
theorem assembled_tableAndParagraph : Assembled tableAndParagraph := by
  have htable : Assembled (Call.run .document (.tag "table" [])) := .call .document trivial
  have hplace : (Call.append 0 (.node (some 1))).Allowed
      (Call.run .document (.tag "table" [])) := by
    refine ⟨by decide, 1, rfl, by decide, rfl, fun hb => ?_⟩
    rcases hb.cases_tail with he | ⟨id, _, hm⟩
    · exact absurd he (by decide)
    · have hk : (Call.run .document (.tag "table" [])).children 1 = [] := rfl
      simp [hk] at hm
  have hbelow : Assembled (Call.run _ (.append 0 (.node (some 1)))) := .call htable hplace
  exact @Assembled.call _ (.tag "p" []) hbelow trivial

/-- A paragraph put besides a table comes behind the table and not right before it. -/
theorem paragraph_behind_table :
    (tableAndParagraph.appendBesides (some 1) (some 0) (.node (some 2))).children 0 = [1, 2] ∧
      ¬ tableAndParagraph.Placed
        (tableAndParagraph.appendBesides (some 1) (some 0) (.node (some 2))) 0 [] [1]
        (.node (some 2)) := by
  have hplace := (Assembled.besides_placed assembled_tableAndParagraph
    tableAndParagraph_allowed).2 0 [] [] rfl
  refine ⟨rfl, fun hb => ?_⟩
  exact absurd (hplace.2.1 hb).1 (by decide)

/-- Content besides an element with a parent does not always stand right before the element. -/
theorem not_placed_before_of_besides :
    ¬ ∀ (store : Store) (element previous parent : NodeId) (before after : List NodeId)
      (content : Content), Assembled store →
      (Call.besides element previous content).Allowed store →
      store.children parent = before ++ element :: after →
      store.Placed (store.appendBesides element previous content) parent before
        (element :: after) content := by
  intro hall
  have hb := hall _ 1 0 0 [] [] (.node (some 2)) assembled_tableAndParagraph
    tableAndParagraph_allowed rfl
  obtain ⟨_, ⟨⟩, hk, -⟩ := hb.here
  have hlist : (tableAndParagraph.appendBesides (some 1) (some 0) (.node (some 2))).children 0 =
    [1, 2] := rfl
  rw [hlist] at hk
  exact absurd hk (by decide)

end HtmlToHaml.DocTree
