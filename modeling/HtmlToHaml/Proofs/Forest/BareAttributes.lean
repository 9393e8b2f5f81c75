import HtmlToHaml.Proofs.Forest.Calls
import HtmlToHaml.Proofs.Forest.Refinement

/-!
# Attributes without a value

An attribute that is on or off takes its own name as the value when an element is created with it.
An attribute that an element gets later is added as it is written. So over a run of calls, whether
they are allowed or not, a node comes to an attribute that is on or off and has no value in one way
only: by the first call that completes it with an attribute of that name, which has no value there.
-/

namespace HtmlToHaml.DocTree

/-- The attribute is on or off and has no value. -/
def Attribute.Bare (a : Attribute) : Prop :=
  a.value = "" ∧ a.name ∈ booleanAttributes

/-- An attribute that is spelled out is not bare. -/
theorem Attribute.not_bare_spelledOut (a : Attribute) : ¬ a.spelledOut.Bare := by
  rintro ⟨hvalue, hname⟩
  rw [Attribute.spelledOut] at hvalue hname
  split at hvalue
  · rename_i hbare
    rw [if_pos hbare] at hname
    have hempty : a.name = "" := hvalue
    have hunnamed : "" ∉ booleanAttributes := by decide
    exact hunnamed (hempty ▸ hname)
  · rename_i hbare
    rw [if_neg hbare] at hname
    simp [hvalue, hname] at hbare

/-- The attributes that a node with these data has. -/
def NodeData.attributes : NodeData → List Attribute
  | .element _ attributes _ => attributes
  | _ => []

namespace Store

variable {store : Store} {id target : NodeId} {link : Link} {a : Attribute}
  {existing added : List Attribute}

section Kept

/-- The attributes of a node are those of its data. -/
theorem attributes_eq :
    store.attributes id = ((store.data? id).map NodeData.attributes).getD [] := by
  rw [attributes]
  cases store.data? id with
  | none => rfl
  | some data =>
    cases data with
    | leaf content => rfl
    | branch kind => cases kind <;> rfl

/-- Nodes with the same data have the same attributes. -/
theorem attributes_of_data? {store' : Store} (h : store'.data? id = store.data? id) :
    store'.attributes id = store.attributes id := by
  rw [attributes_eq, attributes_eq, h]

/-- A new node has the attributes it is made with. -/
theorem attributes_create (data : NodeData) : (store.create data).1.attributes id =
    if id = store.size then data.attributes else store.attributes id := by
  rw [attributes_eq, data?_create, apply_ite (Option.map NodeData.attributes)]
  split
  · rfl
  · exact attributes_eq.symm

/-- There are no attributes beyond the last node. -/
theorem attributes_size : store.attributes store.size = [] := by
  have hnone : store.data? store.size = none := by simp [data?, node?, size]
  rw [attributes_eq, hnone]
  rfl

/-- A new leaf has no attributes. -/
theorem attributes_create_leaf (content : Leaf) :
    (store.create (.leaf content)).1.attributes id = store.attributes id := by
  rw [attributes_create]
  split
  · rename_i hid
    rw [hid, attributes_size]
    rfl
  · rfl

/-- More text changes no attributes. -/
theorem attributes_appendText (more : String) :
    (store.appendText link more).attributes id = store.attributes id := by
  rw [appendText]
  dsimp only
  split
  · have htext : ∀ node, (extendText more node).data.attributes = node.data.attributes := by
      intro node
      rw [extendText]
      split
      · rename_i hdata
        rw [hdata]
        rfl
      · rfl
    rw [attributes_eq, attributes_eq, data?, data?, node?_modify]
    split
    · simp [Option.map_map, Function.comp_def, htext]
    · rfl
  · exact (attributes_of_data? data?_append).trans (attributes_create_leaf _)

/-- Content at the end of a parent's children changes no attributes. -/
theorem attributes_appendContent (content : Content) :
    (store.appendContent link content).attributes id = store.attributes id := by
  cases content with
  | node new => exact attributes_of_data? data?_append
  | text more => exact attributes_appendText more

/-- Content before a sibling changes no attributes. -/
theorem attributes_insertContentBefore (content : Content) :
    (store.insertContentBefore link content).attributes id = store.attributes id := by
  cases content with
  | node new => exact attributes_of_data? data?_insertBefore
  | text more => exact (attributes_of_data? data?_insertBefore).trans (attributes_create_leaf _)

end Kept

section Completed

/-- Of the attributes of a second list those are added that are the first of a name which is new. -/
theorem mem_missingAdded : a ∈ missingAdded existing added ↔
    a ∈ existing ∨ (∀ e ∈ existing, e.name ≠ a.name) ∧ added.find? (·.name == a.name) = some a := by
  induction added generalizing existing with
  | nil => simp [missingAdded]
  | cons first rest ih =>
    rw [missingAdded, ih, List.find?_cons]
    by_cases hknown : existing.any (·.name == first.name) = true
    · obtain ⟨e, he, hname⟩ := List.any_eq_true.1 hknown
      rw [if_pos hknown]
      by_cases hfirst : first.name = a.name
      · -- the name is known already, so neither list can add the attribute
        have hold : ¬ ∀ e ∈ existing, e.name ≠ a.name := fun hnew =>
          hnew e he ((eq_of_beq hname).trans hfirst)
        simp only [hold, false_and]
      · rw [beq_false_of_ne hfirst]
    · have hnew : ∀ e ∈ existing, e.name ≠ first.name := by simpa using hknown
      have hall : (∀ e ∈ existing ++ [first], e.name ≠ a.name) ↔
          (∀ e ∈ existing, e.name ≠ a.name) ∧ first.name ≠ a.name := by
        simp [or_imp, forall_and]
      rw [if_neg hknown, hall, List.mem_append, List.mem_singleton]
      by_cases hfirst : first.name = a.name
      · rw [beq_iff_eq.2 hfirst]
        constructor
        · rintro ((hold | rfl) | ⟨⟨-, hother⟩, -⟩)
          · exact Or.inl hold
          · exact Or.inr ⟨hnew, rfl⟩
          · exact absurd hfirst hother
        · rintro (hold | ⟨-, hsame⟩)
          · exact Or.inl (Or.inl hold)
          · exact Or.inl (Or.inr (Option.some.inj hsame).symm)
      · have hother : a ≠ first := fun he => hfirst (congrArg Attribute.name he).symm
        simp only [beq_false_of_ne hfirst, hother, or_false, ne_eq, hfirst, not_false_eq_true,
          and_true]

/-- Completing a node with some attributes gives it one of them: the node is an element without an
attribute of the name, and this is the first of the name. -/
structure Gains (store : Store) (id : NodeId) (added : List Attribute) (a : Attribute) : Prop where
  /-- The node is an element. -/
  element : (store.elementName? id).isSome
  /-- It has no attribute of the name. -/
  missing : ∀ e ∈ store.attributes id, e.name ≠ a.name
  /-- The attribute is the first of its name. -/
  first : added.find? (·.name == a.name) = some a

/-- An element is completed with the attributes that it lacks, and no other node changes. -/
theorem attributes_complete : (store.addMissingAttributes target added).attributes id =
    if target = id ∧ (store.elementName? id).isSome then missingAdded (store.attributes id) added
    else store.attributes id := by
  simp only [attributes, elementName?, data?, addMissingAttributes, node?_modify, Option.some.injEq]
  by_cases hid : target = id
  · simp only [hid, if_true, true_and]
    cases store.node? id with
    | none => rfl
    | some node =>
      obtain ⟨data, _, _, _, _, _⟩ := node
      cases data with
      | leaf content => rfl
      | branch kind => cases kind <;> rfl
  · simp only [hid, if_false, false_and]

/-- A node that is completed keeps its attributes and has those it gains besides. -/
theorem mem_attributes_complete : a ∈ (store.addMissingAttributes target added).attributes id ↔
    a ∈ store.attributes id ∨ target = id ∧ store.Gains id added a := by
  rw [attributes_complete]
  split
  · rename_i hcomplete
    rw [mem_missingAdded]
    refine or_congr_right ⟨fun h => ⟨hcomplete.1, hcomplete.2, h.1, h.2⟩, fun h => ?_⟩
    exact ⟨h.2.missing, h.2.first⟩
  · rename_i hcomplete
    refine (or_iff_left fun h => ?_).symm
    exact hcomplete ⟨h.1, h.2.element⟩

end Completed

end Store

variable {a : Attribute} {store : Store} {id : NodeId}

/-- **A call gives a bare attribute to a node only by completing it.** -/
theorem Call.mem_attributes_run (ha : a.Bare) (call : Call) : a ∈ (call.run store).attributes id ↔
    a ∈ store.attributes id ∨ ∃ added, call = .complete id added ∧ store.Gains id added a := by
  have hsame : ∀ {store' : Store}, store'.attributes id = store.attributes id →
      (∀ added, call ≠ .complete id added) →
      (a ∈ store'.attributes id ↔
        a ∈ store.attributes id ∨ ∃ added, call = .complete id added ∧ store.Gains id added a) := by
    intro store' hattributes hcall
    rw [hattributes]
    exact (or_iff_left fun ⟨added, he, _⟩ => hcall added he).symm
  cases call with
  | tag name attributes =>
    have hmade : a ∉ attributes.map Attribute.spelledOut := by
      intro hm
      obtain ⟨b, -, rfl⟩ := List.mem_map.1 hm
      exact b.not_bare_spelledOut ha
    rw [Call.run, Store.createHtmlElement, Store.attributes_create]
    split
    · rename_i hid
      rw [hid, Store.attributes_size]
      simpa [NodeData.attributes] using hmade
    · simp
  | comment content => exact hsame (Store.attributes_create_leaf _) (by simp)
  | instruction target data => exact hsame (Store.attributes_create_leaf _) (by simp)
  | append parent content => exact hsame (Store.attributes_appendContent content) (by simp)
  | insertBefore sibling content =>
    exact hsame (Store.attributes_insertContentBefore content) (by simp)
  | besides element previous content =>
    refine hsame ?_ (by simp)
    rw [Call.run, Store.appendBesides_eq]
    exact Store.attributes_appendContent content
  | doctype name externalId systemId =>
    refine hsame ?_ (by simp)
    exact (Store.attributes_of_data? Store.data?_append).trans (Store.attributes_create_leaf _)
  | complete target added =>
    rw [Call.run, Store.mem_attributes_complete]
    simp
  | remove target => exact hsame (Store.attributes_of_data? Store.data?_detach) (by simp)
  | reparent source target =>
    exact hsame (Store.attributes_of_data? (Store.data?_reparentChildren ..)) (by simp)

/-- **Over some calls a node comes to a bare attribute exactly by one that completes it.** -/
theorem mem_attributes_foldl (ha : a.Bare) (calls : List Call) :
    a ∈ (calls.foldl Call.run store).attributes id ↔
      a ∈ store.attributes id ∨ ∃ before added after, calls =
        before ++ .complete id added :: after ∧ (before.foldl Call.run store).Gains id added a := by
  induction calls generalizing store with
  | nil => simp
  | cons call rest ih =>
    rw [List.foldl_cons, ih, call.mem_attributes_run ha, or_assoc]
    refine or_congr_right ⟨?_, ?_⟩
    · rintro (⟨added, rfl, hgains⟩ | ⟨before, added, after, rfl, hgains⟩)
      · exact ⟨[], added, rest, rfl, hgains⟩
      · exact ⟨call :: before, added, after, rfl, hgains⟩
    · rintro ⟨before, added, after, he, hgains⟩
      rcases List.cons_eq_append_iff.1 he with ⟨rfl, he⟩ | ⟨before, rfl, rfl⟩
      · obtain ⟨rfl, rfl⟩ := List.cons.inj he
        exact Or.inl ⟨added, rfl, hgains⟩
      · exact Or.inr ⟨before, added, after, rfl, hgains⟩

/-- The store after some calls, from a document without children on. -/
def assembledBy (calls : List Call) : Store :=
  calls.foldl Call.run .document

/-- **After any calls, a node has a bare attribute exactly if the node was completed with it, and
then the node was an element without an attribute of the name.** -/
theorem mem_attributes_and_bare_iff (calls : List Call) (id : NodeId) (a : Attribute) :
    a ∈ (assembledBy calls).attributes id ∧ a.Bare ↔
      a.Bare ∧ ∃ before added after, calls = before ++ .complete id added :: after ∧
        (assembledBy before).Gains id added a := by
  rw [and_comm]
  refine and_congr_right fun ha => ?_
  have hnone : a ∉ Store.document.attributes id := by
    cases id <;> simp [Store.attributes, Store.document, Store.ofRoot, Store.data?, Store.node?]
  rw [assembledBy, mem_attributes_foldl ha]
  exact or_iff_right hnone

/-- The calls for a page whose root element is completed by a second tag. -/
def completedHtml : List Call :=
  [.tag "html" [], .append 0 (.node (some 1)), .complete 1 [⟨"hidden", ""⟩]]

/-- An element of a tree can have an attribute that is on or off and has no value. -/
theorem exists_bare_of_completed :
    ¬ ∀ (calls : List Call) (id : NodeId) (a : Attribute),
      (assembledBy calls).Within id (assembledBy calls).root →
        a ∈ (assembledBy calls).attributes id → ¬ a.Bare := by
  intro hall
  have hplace : (assembledBy completedHtml).Within 1 (assembledBy completedHtml).root :=
    .single (by decide)
  exact hall completedHtml 1 ⟨"hidden", ""⟩ hplace (by decide) ⟨rfl, by decide⟩

end HtmlToHaml.DocTree
