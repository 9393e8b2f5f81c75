import HtmlToHaml.Proofs.Outline.Failures

/-!
# Raising the depth limit

A pass under a depth limit and a pass under a higher one do the same, node by node, up to the first
node that the lower limit refuses. So an answer that is no refusal stays as it is under every higher
limit, and no limit refuses a tree that it is not exceeded by.
-/

namespace HtmlToHaml.Haml

open Text DocTree

/-- What a pass comes to under a depth limit, and what the same pass comes to under a higher one. -/
inductive Upheld (limit : Nat) : Result → Result → Prop
  /-- A text stays. -/
  | written (text : List Char) (pass : Pass) : Upheld limit (.ok text, pass) (.ok text, pass)
  /-- The failure of a document type stays. -/
  | rejected (externalId : String) (pass : Pass) :
    Upheld limit (.error (.invalidDoctype externalId),
      pass) (.error (.invalidDoctype externalId), pass)
  /-- A refusal is given up for anything. -/
  | refused (pass : Pass) (result : Result) : Upheld limit (.error (.tooDeep limit), pass) result

variable {store : Store} {options : Options} {erb : Bool} {id : NodeId} {ids : List NodeId}
  {name : String} {attributes : List Attribute} {selfClosing : Bool} {level depth depth' : Nat}
  {limit limit' : Nat} {pass : Pass} {result result' : Result}

section Results

/-- Text around an answer is upheld with the answer. -/
theorem Upheld.finish (h : Upheld limit result result') (f : List Char → List Char) :
    Upheld limit (result.finish f) (result'.finish f) := by
  cases h with
  | written text pass => exact .written (f text) pass
  | rejected externalId pass => exact .rejected externalId pass
  | refused pass result => exact .refused pass _

/-- What comes next is upheld if what came before is. -/
theorem Upheld.next {f g : List Char → Pass → Result} (h : Upheld limit result result')
    (hnext : ∀ text pass, Upheld limit (f text pass) (g text pass)) :
    Upheld limit (result.next f) (result'.next g) := by
  cases h with
  | written text pass => exact hnext text pass
  | rejected externalId pass => exact .rejected externalId pass
  | refused pass result => exact .refused pass _

/-- The line of a document type, or its failure, stays. -/
theorem upheld_doctype (externalId : Option String) (f : List Char → List Char) :
    Upheld limit ((doctype (externalId.map String.toList)).map f, pass)
      ((doctype (externalId.map String.toList)).map f, pass) := by
  have hfails := (failsFor_doctype "" externalId none).map f
  cases hr : (Leaf.doctype "" externalId none).rejected? with
  | none =>
    rw [hr] at hfails
    obtain ⟨text, he⟩ := hfails
    rw [he]
    exact .written text pass
  | some found =>
    rw [hr, FailsFor] at hfails
    rw [hfails]
    exact .rejected found pass

/-- What a leaf comes to stays. -/
theorem upheld_leafResult (leaf : Leaf) :
    Upheld limit (leafResult store erb id level pass leaf)
      (leafResult store erb id level pass leaf) := by
  cases leaf with
  | doctype name externalId systemId => exact upheld_doctype externalId _
  | text _ | comment _ | cdata _ | instruction _ => exact .written _ _

end Results

section Courses

variable {row row' : List NodeId → Nat → Pass → Result}
  (hrow : ∀ ids level pass, Upheld limit (row ids level pass) (row' ids level pass))

include hrow

/-- What the content of an element comes to is upheld if its row is. -/
theorem upheld_bodyCourse (finish : List Char → List Char) :
    Upheld limit ((bodyCourse store erb id name level pass finish).run store erb row)
      ((bodyCourse store erb id name level pass finish).run store erb row') := by
  rw [bodyCourse]
  cases bodyOf store erb pass id name with
  | inline child => exact .written _ _
  | preserved child => exact .written _ _
  | script child => exact (hrow _ _ _).finish _
  | block children => exact (hrow _ _ _).finish _

/-- What an element with a header comes to is upheld if its row is. -/
theorem upheld_tagCourse :
    Upheld limit
      ((tagCourse store options id name attributes selfClosing level pass).run store
        options.erb row)
      ((tagCourse store options id name attributes selfClosing level pass).run store options.erb
        row') := by
  rw [tagCourse]
  cases glue store pass id with
  | loose => exact upheld_bodyCourse hrow _
  | nuked => exact upheld_bodyCourse hrow _
  | succeeded next word rest => exact upheld_bodyCourse hrow _

/-- What an element comes to is upheld if its row is. -/
theorem upheld_elementCourse :
    Upheld limit
      ((elementCourse store options id name attributes selfClosing level pass).run store
        options.erb row)
      ((elementCourse store options id name attributes selfClosing level pass).run store options.erb
        row') := by
  rw [elementCourse]
  split
  · exact .written _ _
  · cases Filter.forElement? name attributes with
    | some filter => exact .written _ _
    | none =>
      dsimp only
      split
      · exact (hrow _ _ _).finish _
      · split
        · exact .written _ _
        · exact upheld_tagCourse hrow

/-- What a node comes to is upheld if the row below it is. -/
theorem upheld_course :
    Upheld limit ((course store options id level pass).run store options.erb row)
      ((course store options id level pass).run store options.erb row') := by
  rw [course]
  cases store.data? id with
  | none => exact .written _ _
  | some data =>
    cases data with
    | leaf leaf => exact upheld_leafResult leaf
    | branch kind =>
      cases kind with
      | element name attributes selfClosing => exact upheld_elementCourse hrow
      | document | fragment => exact (hrow _ _ _).finish _

end Courses

section Passes

/-- A limit has no say in the course of a node. -/
theorem course_withMaxDepth :
    course store (options.withMaxDepth limit) id level pass = course store options id level pass :=
  rfl

/-- What a row comes to is upheld if each of its nodes is. -/
theorem upheld_rowResult
    (hnode : ∀ id level pass, Upheld limit
      ((renderNode store (options.withMaxDepth limit) depth id level).result pass)
      ((renderNode store (options.withMaxDepth limit') depth' id level).result pass)) :
    Upheld limit (rowResult store (options.withMaxDepth limit) depth ids level pass)
      (rowResult store (options.withMaxDepth limit') depth' ids level pass) := by
  induction ids generalizing pass with
  | nil => exact .written [] pass
  | cons id rest ih =>
    rw [rowResult_cons, rowResult_cons]
    exact (hnode id level pass).next fun first pass => ih.finish (first ++ ·)

/-- **What a node comes to is upheld with more levels left.** -/
theorem upheld_renderNode (hle : depth ≤ depth') : Upheld limit
    ((renderNode store (options.withMaxDepth limit) depth id level).result pass)
    ((renderNode store (options.withMaxDepth limit') depth' id level).result pass) := by
  induction depth generalizing depth' id level pass with
  | zero => exact .refused pass _
  | succ depth ih =>
    obtain ⟨more, rfl⟩ := Nat.exists_eq_add_of_le' (Nat.one_le_of_lt hle)
    rw [renderNode_result, renderNode_result, course_withMaxDepth, course_withMaxDepth]
    exact upheld_course fun ids level pass =>
      upheld_rowResult fun id level pass => ih (Nat.le_of_succ_le_succ hle)

/-- What a whole pass comes to is upheld under a higher limit. -/
theorem upheld_runPass (hle : limit ≤ limit') : Upheld limit
    (runPass store (options.withMaxDepth limit)) (runPass store (options.withMaxDepth limit')) :=
  upheld_renderNode (Nat.succ_le_succ hle)

/-- **An answer that is no refusal is a text or the failure of a document type, and it stays when
the limit is raised.** -/
theorem render_withMaxDepth_of_le (hle : limit ≤ limit')
    (hanswer : ∀ refused, render store (options.withMaxDepth limit) ≠ .error (.tooDeep refused)) :
    ((∃ text, render store (options.withMaxDepth limit) = .ok text) ∨
        ∃ externalId,
          render store (options.withMaxDepth limit) = .error (.invalidDoctype externalId)) ∧
      render store (options.withMaxDepth limit') = render store (options.withMaxDepth limit) := by
  have h := @upheld_runPass store options _ _ hle
  rw [render] at hanswer ⊢
  rw [render]
  generalize runPass store (options.withMaxDepth limit) = result at h hanswer ⊢
  generalize runPass store (options.withMaxDepth limit') = result' at h ⊢
  cases h with
  | written text pass => exact ⟨Or.inl ⟨_, rfl⟩, rfl⟩
  | rejected externalId pass => exact ⟨Or.inr ⟨externalId, rfl⟩, rfl⟩
  | refused pass result => exact absurd rfl (hanswer limit)

/-- A limit that the levels of a tree do not exceed refuses nothing. -/
theorem render_withMaxDepth_ne_tooDeep {kind : Branch} {trees : List Shape} (h : store.Forest)
    (hkind : kind = .document ∨ kind = .fragment)
    (hs : store.Shows store.root (.branch kind trees)) (hlimit : Shape.allHeight trees ≤ limit)
    (refused : Nat) : render store (options.withMaxDepth limit) ≠ .error (.tooDeep refused) := by
  rw [render_eq_writeRow h hkind hs]
  have hfails := rowFails_writeRow (options.withMaxDepth limit) limit false 0 trees hlimit
  exact (hfails.map String.ofList).ne_tooDeep refused

end Passes

/-- **Raising the depth limit never changes an answer.** Whatever is rendered without being refused
is rendered alike under every higher limit, and from some limit on, which is the same for all
options, nothing is refused. -/
theorem render_raised {store : Store} (h : store.Forest)
    (hroot : store.data? store.root = some .document ∨ store.data? store.root = some .fragment) :
    (∀ (options : Options) (limit limit' : Nat), limit ≤ limit' →
      (∀ refused, render store (options.withMaxDepth limit) ≠ .error (.tooDeep refused)) →
        ((∃ text, render store (options.withMaxDepth limit) = .ok text) ∨
          ∃ externalId, render store (options.withMaxDepth limit) =
            .error (.invalidDoctype externalId)) ∧
        render store (options.withMaxDepth limit') = render store (options.withMaxDepth limit)) ∧
      ∃ bound, ∀ (options : Options) (limit : Nat), bound ≤ limit →
        ∀ refused, render store (options.withMaxDepth limit) ≠ .error (.tooDeep refused) := by
  refine ⟨fun options limit limit' hle hanswer => render_withMaxDepth_of_le hle hanswer, ?_⟩
  obtain ⟨kind, hkind, hd⟩ : ∃ kind : Branch, (kind = .document ∨ kind = .fragment) ∧
      store.data? store.root = some (.branch kind) :=
    hroot.elim (fun hd => ⟨.document, Or.inl rfl, hd⟩) fun hd => ⟨.fragment, Or.inr rfl, hd⟩
  obtain ⟨trees, hs⟩ := h.exists_shows_branch hd
  exact ⟨Shape.allHeight trees, fun options limit hlimit refused =>
    render_withMaxDepth_ne_tooDeep h hkind hs hlimit refused⟩

/-- A filter with elements in elements, and a paragraph behind it. -/
def deepFilter : List Shape :=
  [.branch (.element "script" [] false)
      [.branch (.element "b" [] false) [.branch (.element "b" [] false) [.leaf (.text "x")]]],
    .branch (.element "p" [] false) [.leaf (.text "y")]]

/-- One level is enough for it, for what the filter holds does not count. -/
theorem render_raised_deepFilter :
    render (Shape.build .fragment deepFilter) (({} : Options).withMaxDepth 0) =
        .error (.tooDeep 0) ∧
      render (Shape.build .fragment deepFilter) (({} : Options).withMaxDepth 1) =
        .ok ":javascript\n  x\n%p y\n" ∧
      render (Shape.build .fragment deepFilter) (({} : Options).withMaxDepth 7) =
        .ok ":javascript\n  x\n%p y\n" := by
  have hone : render (Shape.build .fragment deepFilter) (({} : Options).withMaxDepth 1) =
      .ok ":javascript\n  x\n%p y\n" := by decide +kernel
  have hraised := (render_raised (Store.forest_build .fragment deepFilter).1 (Or.inr rfl)).1
    {} 1 7 (by decide) fun refused => by rw [hone]; simp
  exact ⟨by decide +kernel, hone, hraised.2.trans hone⟩

end HtmlToHaml.Haml
