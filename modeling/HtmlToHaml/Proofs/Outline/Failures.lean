import HtmlToHaml.Proofs.Forest.Depth
import HtmlToHaml.Proofs.Outline.Passage

/-!
# Why a tree is not written

A row of trees within the depth that is allowed fails only for a document type whose external
identifier is no known one, and it fails for the first of them. Those below a filter or a script do
not count: what such an element holds is written as text.
-/

namespace HtmlToHaml.DocTree

/-- Whether the nodes below a branch are not written by themselves: those of a filter and, in script
mode, those of a script. -/
def Branch.hides (erb : Bool) : Branch → Bool
  | .element name attributes _ =>
    (Haml.Filter.forElement? name attributes).isSome ||
      (erb && (name == "loud" || name == "silent"))
  | _ => false

/-- The external identifier of a document type that cannot be written. -/
def Leaf.rejected? : Leaf → Option String
  | .doctype _ (some externalId) _ =>
    if (Haml.documentType? externalId.toList).isNone then some externalId else none
  | _ => none

mutual

/-- The first external identifier in a tree that cannot be written. -/
def Shape.rejected? (erb : Bool) : Shape → Option String
  | .branch kind children => if kind.hides erb then none else Shape.allRejected? erb children
  | .leaf content => content.rejected?

/-- The first external identifier in some trees that cannot be written. -/
def Shape.allRejected? (erb : Bool) : List Shape → Option String
  | [] => none
  | tree :: rest => (tree.rejected? erb).or (Shape.allRejected? erb rest)

end

end HtmlToHaml.DocTree

namespace HtmlToHaml.Haml

open Text DocTree

variable {options : Options} {erb : Bool} {row : WriteRow} {inPre : Bool} {level depth : Nat}
  {tree : Shape} {trees rest : List Shape} {spot : Spot}

/-- An answer fails for a given external identifier, and for nothing if there is none. -/
def FailsFor {α : Type} (answer : Except Failure α) : Option String → Prop
  | some externalId => answer = .error (.invalidDoctype externalId)
  | none => ∃ a, answer = .ok a

section Answers

variable {α β γ : Type} {answer : Except Failure α} {more : Except Failure β} {r s : Option String}

/-- An answer does not fail. -/
theorem failsFor_ok (a : α) : FailsFor (.ok a) none :=
  ⟨a, rfl⟩

/-- What is made of an answer fails as the answer does. -/
theorem FailsFor.map (h : FailsFor answer r) (f : α → β) : FailsFor (answer.map f) r := by
  cases r with
  | some externalId =>
    rw [FailsFor] at h
    rw [h]
    rfl
  | none =>
    obtain ⟨a, rfl⟩ := h
    exact ⟨f a, rfl⟩

/-- Of two answers the first one that fails counts. -/
theorem FailsFor.both (h : FailsFor answer r) (hmore : FailsFor more s) (f : α → β → γ) :
    FailsFor (do
      let a ← answer
      let b ← more
      .ok (f a b)) (r.or s) := by
  cases r with
  | some externalId =>
    rw [FailsFor] at h
    rw [h]
    rfl
  | none =>
    obtain ⟨a, rfl⟩ := h
    exact hmore.map (f a)

/-- An answer fails for an identifier exactly if that is the one it fails for. -/
theorem FailsFor.eq_error_iff (h : FailsFor answer r) (externalId : String) :
    answer = .error (.invalidDoctype externalId) ↔ r = some externalId := by
  cases r with
  | some found =>
    rw [FailsFor] at h
    simp [h]
  | none =>
    obtain ⟨a, rfl⟩ := h
    simp

/-- An answer does not fail for being too deep. -/
theorem FailsFor.ne_tooDeep (h : FailsFor answer r) (limit : Nat) :
    answer ≠ .error (.tooDeep limit) := by
  cases r with
  | some found =>
    rw [FailsFor] at h
    simp [h]
  | none =>
    obtain ⟨a, rfl⟩ := h
    simp

end Answers

/-- The line of a document type fails for an identifier that cannot be written. -/
theorem failsFor_doctype (name : String) (externalId systemId : Option String) :
    FailsFor (doctype (externalId.map String.toList))
      (Leaf.doctype name externalId systemId).rejected? := by
  cases externalId with
  | none => exact failsFor_ok _
  | some externalId =>
    simp only [doctype, Option.map_some, Leaf.rejected?]
    cases documentType? externalId.toList with
    | none => simp [FailsFor]
    | some found => exact failsFor_ok _

/-- A leaf fails for an identifier that cannot be written. -/
theorem failsFor_writeLeaf (leaf : Leaf) :
    FailsFor (writeLeaf erb spot level rest leaf) leaf.rejected? := by
  cases leaf with
  | doctype name externalId systemId =>
    exact (failsFor_doctype name externalId systemId).map fun line =>
      indentation level ++ line ++ ['\n']
  | text _ | comment _ | cdata _ | instruction _ => exact failsFor_ok _

/-- A text has no identifier. -/
theorem rejected?_of_content? {text : List Char} (h : tree.content? = some text) :
    tree.rejected? erb = none := by
  obtain ⟨content, rfl, -⟩ := Shape.exists_of_content? h
  rfl

/-- What a filter or a script holds counts for nothing. -/
theorem rejected?_of_hides {kind : Branch} (h : kind.hides erb = true) (children : List Shape) :
    (Shape.branch kind children).rejected? erb = none := by
  rw [Shape.rejected?, if_pos h]

/-- What any other branch holds counts. -/
theorem rejected?_of_not_hides {kind : Branch} (h : kind.hides erb = false)
    (children : List Shape) :
    (Shape.branch kind children).rejected? erb = Shape.allRejected? erb children := by
  rw [Shape.rejected?, if_neg (by simp [h])]

/-- Filters and scripts hide what they hold. -/
theorem hides_eq (erb : Bool) (name : String) (attributes : List Attribute) (selfClosing : Bool) :
    (Branch.element name attributes selfClosing).hides erb =
      match manner erb name attributes with
      | .filtered _ | .script _ => true
      | .opened | .tag => false := by
  rw [Branch.hides, manner]
  cases hf : Filter.forElement? name attributes with
  | some filter => rfl
  | none =>
    by_cases hblock : (erb && name == "block") = true
    · obtain ⟨rfl, hname⟩ := Bool.and_eq_true_iff.1 hblock
      obtain rfl := beq_iff_eq.1 hname
      rfl
    · by_cases hscript : (erb && (name == "loud" || name == "silent")) = true
      · simp [hblock, hscript]
      · simp [hblock, hscript]

/-- A printed script has no identifier that counts. -/
theorem rejected?_of_isNamed_loud (h : tree.isNamed "loud" = true) :
    tree.rejected? true = none := by
  cases tree with
  | leaf content => cases h
  | branch kind children =>
    cases kind with
    | document | fragment => cases h
    | element name attributes selfClosing =>
      have hn : name = "loud" := by simpa [Shape.isNamed] using h
      refine rejected?_of_hides ?_ children
      simp [Branch.hides, hn]

/-- The scripts behind a text, and the texts between them, have no identifier that counts. -/
theorem allRejected?_run (trees : List Shape) :
    Shape.allRejected? true (trees.take (runLength trees)) = none := by
  fun_induction runLength trees with
  | case1 => rfl
  | case2 marker hm => simp [Shape.allRejected?, rejected?_of_isNamed_loud hm]
  | case3 => rfl
  | case4 marker following rest hm text ht ih =>
    simp [Shape.allRejected?, rejected?_of_isNamed_loud hm, rejected?_of_content? ht, ih]
  | case5 marker following rest hm hno ih =>
    rw [List.take_succ_cons, Shape.allRejected?, ih, rejected?_of_isNamed_loud hm]
    rfl
  | case6 => rfl

/-- Rows below fail for the first identifier that cannot be written, as long as they are not too
deep. -/
def RowFails (options : Options) (depth : Nat) (row : WriteRow) : Prop :=
  ∀ inPre level trees, Shape.allHeight trees ≤ depth →
    FailsFor (row inPre level trees) (Shape.allRejected? options.erb trees)

/-- The content of an element fails as its children do. -/
theorem RowFails.writeBody (hrow : RowFails options depth row) (name : String)
    (hdepth : Shape.allHeight trees ≤ depth) :
    FailsFor (writeBody options.erb row inPre name level trees)
      (Shape.allRejected? options.erb trees) := by
  have hall := (hrow (name == "pre") (level + 1) trees hdepth)
  rw [Haml.writeBody.eq_def]
  split
  · rename_i child
    split
    · rename_i text ht
      have hnone : Shape.allRejected? options.erb [child] = none := by
        rw [Shape.allRejected?, rejected?_of_content? ht]
        rfl
      rw [hnone] at hall ⊢
      split
      · exact failsFor_ok _
      · split
        · exact failsFor_ok _
        · exact hall.map _
    · split
      · exact hall.map _
      · exact hall.map _
  · exact hall.map _

/-- An element with a header fails as its children do. -/
theorem RowFails.writeTag (hrow : RowFails options depth row) (glued : Bool) (name : String)
    (attributes : List Attribute) (selfClosing : Bool) (hdepth : Shape.allHeight trees ≤ depth) :
    FailsFor (writeTag options row inPre glued name attributes selfClosing level trees rest)
      (Shape.allRejected? options.erb trees) := by
  rw [Haml.writeTag]
  dsimp only
  split
  · exact (hrow.writeBody name hdepth).map _
  · exact (hrow.writeBody name hdepth).map _
  · exact (hrow.writeBody name hdepth).map _

/-- A tree fails for the first of its identifiers that cannot be written. -/
theorem RowFails.writeShape (hrow : RowFails options depth row)
    (hdepth : tree.height ≤ depth + 1) :
    FailsFor (writeShape options row inPre level spot rest tree) (tree.rejected? options.erb) := by
  cases tree with
  | leaf content => exact failsFor_writeLeaf content
  | branch kind children =>
    have hchildren : Shape.allHeight children ≤ depth := Nat.le_of_succ_le_succ hdepth
    cases kind with
    | document | fragment =>
      rw [rejected?_of_not_hides rfl]
      exact hrow false 0 children hchildren
    | element name attributes selfClosing =>
      have hhides := hides_eq options.erb name attributes selfClosing
      rw [Haml.writeShape]
      cases hm : manner options.erb name attributes with
      | filtered filter =>
        rw [hm] at hhides
        rw [rejected?_of_hides hhides]
        exact failsFor_ok _
      | opened =>
        rw [hm] at hhides
        rw [rejected?_of_not_hides hhides]
        exact hrow (name == "pre") (level + 1) children hchildren
      | script silent =>
        rw [hm] at hhides
        rw [rejected?_of_hides hhides]
        exact failsFor_ok _
      | tag =>
        rw [hm] at hhides
        rw [rejected?_of_not_hides hhides]
        exact hrow.writeTag spot.glued name attributes selfClosing hchildren

/-- The trees that the next tree takes have no identifier that counts. -/
theorem allRejected?_take_nextSkip
    (hskip : Shape.allRejected? erb ((tree :: rest).take spot.skip) = none) :
    Shape.allRejected? erb (rest.take (spot.nextSkip erb tree rest)) = none := by
  rw [Spot.nextSkip.eq_def]
  split
  · rename_i skip hs
    rw [hs, List.take_succ_cons, Shape.allRejected?, Option.or_eq_none_iff] at hskip
    exact hskip.2
  · split
    · rename_i content
      by_cases hrun : (erb && !isBlank (spot.held.getD content.toList)) = true
      · obtain ⟨rfl, -⟩ := Bool.and_eq_true_iff.1 hrun
        rw [if_pos hrun]
        exact allRejected?_run rest
      · rw [if_neg hrun]
        rfl
    · rfl

/-- A row fails for the first identifier from its spot on that cannot be written. -/
theorem RowFails.writeFrom (hrow : RowFails options depth row)
    (hdepth : Shape.allHeight trees ≤ depth + 1)
    (hskip : Shape.allRejected? options.erb (trees.take spot.skip) = none) :
    FailsFor (writeFrom options row inPre level spot trees)
      (Shape.allRejected? options.erb trees) := by
  induction trees generalizing spot with
  | nil => exact failsFor_ok _
  | cons tree rest ih =>
    obtain ⟨htree, hrest⟩ := Shape.allHeight_cons_le.1 hdepth
    have hfirst : FailsFor (writeNext options row inPre level spot rest tree)
        (tree.rejected? options.erb) := by
      rw [writeNext]
      split
      · exact hrow.writeShape htree
      · rename_i hne
        obtain ⟨skip, hs⟩ := Nat.exists_eq_succ_of_ne_zero hne
        rw [hs, List.take_succ_cons, Shape.allRejected?, Option.or_eq_none_iff] at hskip
        rw [hskip.1]
        exact failsFor_ok _
    have hmore : FailsFor
        (Haml.writeFrom options row inPre level (spot.next options.erb tree rest) rest)
        (Shape.allRejected? options.erb rest) :=
      ih hrest (allRejected?_take_nextSkip hskip)
    rw [Haml.writeFrom, Shape.allRejected?]
    exact hfirst.both hmore (· ++ ·)

/-- **A row within the depth that is allowed fails for the first identifier that cannot be written,
and for nothing else.** -/
theorem rowFails_writeRow (options : Options) (depth : Nat) :
    RowFails options depth (writeRow options depth) := by
  induction depth with
  | zero =>
    intro inPre level trees hdepth
    cases trees with
    | nil => exact failsFor_ok _
    | cons tree rest =>
      have hpos := tree.height_pos
      have hle := (Shape.allHeight_cons_le.1 hdepth).1
      omega
  | succ depth ih =>
    intro inPre level trees hdepth
    exact ih.writeFrom hdepth rfl

end HtmlToHaml.Haml
