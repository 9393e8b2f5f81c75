import HtmlToHaml.Proofs.Forest.Order
import HtmlToHaml.Proofs.Outline.Failures

/-!
# The outcome of a conversion

A tree that a snapshot can be taken of is never too deep to be written. Whether it is written is
decided by its document types alone: the first one, in document order, whose external identifier is
no known one and which no filter or script holds is what the conversion fails for.
-/

namespace HtmlToHaml.DocTree.Store

open Haml

/-- A document type that is not written: its external identifier is no known one, and between it and
the root there is no filter and no script. -/
structure Rejected (store : Store) (erb : Bool) (n : NodeId) (externalId : String) : Prop where
  /-- The node is a document type with the identifier. -/
  declared : ∃ name systemId, store.data? n = some (.doctype name (some externalId) systemId)
  /-- There is no line for the identifier. -/
  unknown : ∃ failure, doctype (some externalId.toList) = .error failure
  /-- No filter and no script holds the node. -/
  shown : ∀ above kind, store.Within n above → store.Within above store.root →
    store.data? above = some (.branch kind) → kind.hides erb = false

/-- What the first node of a list with a property has it for; nothing if no node has it. -/
def Finds (P : NodeId → String → Prop) (ids : List NodeId) : Option String → Prop
  | some s => ∃ before n after, ids = before ++ n :: after ∧ P n s ∧ ∀ m ∈ before, ∀ t, ¬ P m t
  | none => ∀ m ∈ ids, ∀ t, ¬ P m t

section Finding

variable {P : NodeId → String → Prop} {id : NodeId} {ids more : List NodeId} {r r' : Option String}
  {s : String}

/-- A node that has the property is the first one of the list it begins. -/
theorem finds_self (h : P id s) : Finds P (id :: ids) (some s) :=
  ⟨[], id, ids, rfl, h, fun _ hm => by cases hm⟩

/-- A node without the property is passed over. -/
theorem Finds.cons (h : Finds P ids r) (hid : ∀ s, ¬ P id s) : Finds P (id :: ids) r := by
  cases r with
  | none => exact List.forall_mem_cons.2 ⟨hid, h⟩
  | some s =>
    obtain ⟨before, n, after, rfl, hn, hbefore⟩ := h
    exact ⟨id :: before, n, after, rfl, hn, List.forall_mem_cons.2 ⟨hid, hbefore⟩⟩

/-- What is found in one list after the other. -/
theorem Finds.append (h : Finds P ids r) (h' : Finds P more r') :
    Finds P (ids ++ more) (r.or r') := by
  cases r with
  | some s =>
    obtain ⟨before, n, after, rfl, hn, hbefore⟩ := h
    exact ⟨before, n, after ++ more, by simp, hn, hbefore⟩
  | none =>
    cases r' with
    | none => exact List.forall_mem_append.2 ⟨h, h'⟩
    | some s =>
      obtain ⟨before, n, after, rfl, hn, hbefore⟩ := h'
      exact ⟨ids ++ before, n, after, by simp, hn, List.forall_mem_append.2 ⟨h, hbefore⟩⟩

/-- There is one first node. -/
theorem Finds.eq_some (hP : ∀ n s t, P n s → P n t → s = t) (h : Finds P ids r)
    (hs : Finds P ids (some s)) : r = some s := by
  obtain ⟨before, n, after, rfl, hn, hbefore⟩ := hs
  cases r with
  | none => exact absurd hn (h n (by simp) s)
  | some t =>
    obtain ⟨before', n', after', he, hn', hbefore'⟩ := h
    rcases List.append_eq_append_iff.1 he with ⟨mid, hmid, hrest⟩ | ⟨mid, hmid, hrest⟩
    · cases mid with
      | nil =>
        obtain ⟨rfl, -⟩ := List.cons.inj hrest
        rw [hP _ _ _ hn' hn]
      | cons m mid =>
        obtain ⟨rfl, -⟩ := List.cons.inj hrest
        exact absurd hn (hbefore' n (by simp [hmid]) s)
    · cases mid with
      | nil =>
        obtain ⟨rfl, -⟩ := List.cons.inj hrest
        rw [hP _ _ _ hn' hn]
      | cons m mid =>
        obtain ⟨rfl, -⟩ := List.cons.inj hrest
        exact absurd hn' (hbefore n' (by simp [hmid]) t)

end Finding

variable {store : Store} {erb : Bool} {id child n : NodeId} {externalId : String} {kind : Branch}
  {leaf : Leaf} {tree : Shape}

/-- A node is rejected for one identifier. -/
theorem Rejected.unique {other : String} (h : store.Rejected erb n externalId)
    (h' : store.Rejected erb n other) : externalId = other := by
  obtain ⟨name, systemId, hd⟩ := h.declared
  obtain ⟨name', systemId', hd'⟩ := h'.declared
  rw [hd] at hd'
  simp only [Option.some.injEq, NodeData.leaf.injEq, Leaf.doctype.injEq] at hd'
  exact hd'.2.1

/-- A branch is not rejected. -/
theorem not_rejected_of_branch (hd : store.data? id = some (.branch kind)) :
    ¬ store.Rejected erb id externalId := by
  intro h
  obtain ⟨name, systemId, hd'⟩ := h.declared
  rw [hd] at hd'
  cases hd'

/-- There is no line for an identifier that holds no document type. -/
theorem exists_doctype_eq_error_iff :
    (∃ failure, doctype (some externalId.toList) = .error failure) ↔
      documentType? externalId.toList = none := by
  rw [doctype]
  cases documentType? externalId.toList with
  | none => simp
  | some found => simp

/-- No branch between a node and the root hides it. -/
structure Open (store : Store) (erb : Bool) (id : NodeId) : Prop where
  /-- The node is within the tree. -/
  within : store.Within id store.root
  /-- No branch above it hides it. -/
  above : ∀ above kind, store.Within id above → above ≠ id → store.Within above store.root →
    store.data? above = some (.branch kind) → kind.hides erb = false

/-- Nothing is between the root and itself. -/
theorem Consistent.open_root (h : store.Consistent) : store.Open erb store.root where
  within := .refl
  above above kind hw hne hroot _ := by
    rcases Relation.ReflTransGen.cases_head hw with rfl | ⟨parent, hc, hw'⟩
    · exact absurd rfl hne
    · exact absurd (hw'.trans hroot) (h.not_within hc)

/-- A branch that hides nothing lets its children be seen. -/
theorem Open.below (ho : store.Open erb id) (h : store.Consistent) (hc : child ∈ store.children id)
    (hd : store.data? id = some (.branch kind)) (hk : kind.hides erb = false) :
    store.Open erb child where
  within := .head hc ho.within
  above above other hw hne hroot ha := by
    rcases Relation.ReflTransGen.cases_head hw with rfl | ⟨parent, hc', hw'⟩
    · exact absurd rfl hne
    · obtain rfl := h.parent_unique hc' hc
      by_cases he : above = parent
      · subst he
        cases hd.symm.trans ha
        exact hk
      · exact ho.above above other hw' he hroot ha

/-- An open leaf is rejected for the identifier that it is rejected for by itself. -/
theorem Open.finds_leaf (ho : store.Open erb id) (hd : store.data? id = some (.leaf leaf)) :
    Finds (store.Rejected erb) [id] leaf.rejected? := by
  cases hr : leaf.rejected? with
  | some externalId =>
    refine finds_self ?_
    cases leaf with
    | doctype name given systemId =>
      cases given with
      | none => cases hr
      | some given =>
        simp only [Leaf.rejected?, Option.isNone_iff_eq_none, Option.ite_none_right_eq_some,
          Option.some.injEq] at hr
        obtain ⟨hno, rfl⟩ := hr
        refine ⟨⟨name, systemId, hd⟩, exists_doctype_eq_error_iff.2 hno,
          fun above kind hw hroot ha => ?_⟩
        refine ho.above above kind hw ?_ hroot ha
        rintro rfl
        cases hd.symm.trans ha
    | text _ | comment _ | cdata _ | instruction _ => cases hr
  | none =>
    intro m hm externalId hrej
    obtain rfl := List.mem_singleton.1 hm
    obtain ⟨name, systemId, hd'⟩ := hrej.declared
    obtain rfl := NodeData.leaf.inj (Option.some.inj (hd.symm.trans hd'))
    simp [Leaf.rejected?, exists_doctype_eq_error_iff.1 hrej.unknown] at hr

mutual

/-- The first identifier in a tree that cannot be written is that of the first rejected node. -/
theorem Shows.finds (h : store.Forest) : ∀ {tree : Shape} {id : NodeId}, store.Shows id tree →
    store.Open erb id → Finds (store.Rejected erb) (store.listed id) (tree.rejected? erb)
  | .leaf leaf, id, hs, ho => by
    rw [Shows] at hs
    rw [listed, h.descendants_eq, hs.2, Shape.rejected?]
    exact ho.finds_leaf hs.1
  | .branch kind trees, id, hs, ho => by
    rw [Shows] at hs
    rw [Shape.rejected?]
    cases hk : kind.hides erb with
    | true =>
      rw [if_pos rfl]
      intro m hm externalId hrej
      have hw := h.consistent.mem_cons_descendants.1 hm
      exact Bool.false_ne_true ((hrej.shown id kind hw ho.within hs.1).symm.trans hk)
    | false =>
      rw [if_neg Bool.false_ne_true, listed, h.descendants_eq]
      refine Finds.cons ?_ fun _ => not_rejected_of_branch hs.1
      exact hs.2.finds h fun child hc => ho.below h.consistent hc hs.1 hk

/-- The first identifier in some trees that cannot be written is that of the first rejected node. -/
theorem ShowsAll.finds (h : store.Forest) : ∀ {trees : List Shape} {ids : List NodeId},
    store.ShowsAll ids trees → (∀ id ∈ ids, store.Open erb id) →
      Finds (store.Rejected erb) (ids.flatMap store.listed) (Shape.allRejected? erb trees)
  | [], [], _, _ => fun _ hm => by cases hm
  | tree :: trees, id :: ids, hs, ho => by
    rw [ShowsAll] at hs
    rw [List.flatMap_cons, Shape.allRejected?]
    exact (hs.1.finds h (ho id List.mem_cons_self)).append
      (hs.2.finds h fun other hm => ho other (List.mem_cons_of_mem _ hm))
  | _ :: _, [], hs, _ => by rw [ShowsAll] at hs <;> simp_all
  | [], _ :: _, hs, _ => by rw [ShowsAll] at hs <;> simp_all

end

end HtmlToHaml.DocTree.Store

namespace HtmlToHaml.Haml

open DocTree Store

/-- **A tree that a snapshot can be taken of is written unless a document type in it is rejected**,
and then the conversion fails for the first of those. A snapshot can be taken of a tree exactly if
no node stands deeper than the limit. -/
theorem render_outcome {store : Store} {kind : Branch} (options : Options) (h : store.Forest)
    (hkind : kind = .document ∨ kind = .fragment)
    (hroot : store.data? store.root = some (.branch kind)) :
    ((∃ shot, store.snapshot options.maxDepth = .ok shot) ↔
        ∀ depth n, store.Below store.root depth n → depth ≤ options.maxDepth) ∧
      ∀ shot, store.snapshot options.maxDepth = .ok shot →
        (∀ limit, render store options ≠ .error (.tooDeep limit)) ∧
        (∀ externalId, render store options = .error (.invalidDoctype externalId) ↔
          ∃ before n after, store.descendants store.root = before ++ n :: after ∧
            store.Rejected options.erb n externalId ∧
            ∀ m ∈ before, ∀ other, ¬ store.Rejected options.erb m other) ∧
        ((∀ n ∈ store.descendants store.root, ∀ externalId,
            ¬ store.Rejected options.erb n externalId) →
          ∃ text, render store options = .ok text) := by
  obtain ⟨trees, hs⟩ := h.exists_shows_branch hroot
  have hfound : Finds (store.Rejected options.erb) (store.descendants store.root)
      (Shape.allRejected? options.erb trees) := by
    have hopen : store.Open options.erb store.root := h.consistent.open_root
    have hchildren := hs
    rw [Shows] at hchildren
    rw [h.descendants_eq]
    refine hchildren.2.finds h fun child hc => hopen.below h.consistent hc hroot ?_
    rcases hkind with rfl | rfl <;> rfl
  refine ⟨?_, fun shot hshot => ?_⟩
  · rw [← hs.snapshot_eq_ok_iff, hs.snapshot, Shape.upTo]
    split <;> simp
  have hheight : Shape.allHeight trees ≤ options.maxDepth := by
    rw [hs.snapshot, Shape.upTo] at hshot
    split at hshot
    · rename_i hle
      exact Nat.le_of_succ_le_succ hle
    · cases hshot
  have hfails := (rowFails_writeRow options options.maxDepth false 0 trees hheight).map
    String.ofList
  rw [← render_eq_writeRow h hkind hs] at hfails
  refine ⟨hfails.ne_tooDeep, fun externalId => ?_, fun hnone => ?_⟩
  · rw [hfails.eq_error_iff]
    refine ⟨fun he => ?_, hfound.eq_some fun _ _ _ => Rejected.unique⟩
    rw [he] at hfound
    exact hfound
  · cases hr : Shape.allRejected? options.erb trees with
    | none =>
      rw [hr] at hfails
      exact hfails
    | some externalId =>
      rw [hr] at hfound
      obtain ⟨before, n, after, he, hn, -⟩ := hfound
      exact absurd hn (hnone n (by simp [he]) externalId)

/-- Three document types of unknown kinds, the first of them in a script. -/
def unknownDoctypes : List Shape :=
  [.branch (.element "script" [] false) [.leaf (.doctype "html" (some "one") none)],
    .branch (.element "p" [] false) [.leaf (.doctype "html" (some "two") none)],
    .leaf (.doctype "html" (some "three") none)]

/-- The conversion fails for the second one. -/
theorem render_outcome_unknownDoctypes :
    (Shape.build .document unknownDoctypes).snapshot 2 = .ok (.branch .document unknownDoctypes) ∧
      render (Shape.build .document unknownDoctypes) { maxDepth := 2 } =
        .error (.invalidDoctype "two") ∧
      ∃ before n after, (Shape.build .document unknownDoctypes).descendants 0 =
          before ++ n :: after ∧
        (Shape.build .document unknownDoctypes).Rejected false n "two" ∧
        ∀ m ∈ before, ∀ other,
          ¬ (Shape.build .document unknownDoctypes).Rejected false m other := by
  have hshot : (Shape.build .document unknownDoctypes).snapshot 2 =
      .ok (.branch .document unknownDoctypes) := (shows_build .document rfl).snapshot 2
  have hr : render (Shape.build .document unknownDoctypes) { maxDepth := 2 } =
      .error (.invalidDoctype "two") := by decide +kernel
  have hall := (render_outcome { maxDepth := 2 } (forest_build .document unknownDoctypes).1
    (Or.inl rfl) rfl).2 _ hshot
  exact ⟨hshot, hr, (hall.2.1 "two").1 hr⟩

end HtmlToHaml.Haml
