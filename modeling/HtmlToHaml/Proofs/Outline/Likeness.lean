import HtmlToHaml.Proofs.Outline.Conservation

/-!
# Trees that are written alike

Two trees are alike for two sets of options if one step of writing does not tell them apart,
whatever may still differ further below. A relation between trees that are alike, and whose rows of
children it relates again, is kept at every depth: the rows it relates are written alike, and so are
the documents that hold them.
-/

namespace HtmlToHaml.Haml

open Text DocTree

/-- The body of the filter for an element, before script mode looks at it. -/
def filterSource (children : List Shape) : List Char :=
  if children.any Shape.isCdata || hasCdataFraming (Shape.textAll children) then
    stripCdataFraming (Shape.textAll children)
  else Entity.unescape (Shape.textAll children)

/-- The header of an element under some options. -/
def headerOf (options : Options) (name : String) (attributes : List Attribute)
    (nuked selfClosing : Bool) : List Char :=
  header options.style name.toList (Shorthand.of (entries attributes options.erb)) nuked selfClosing

/-- Two trees that one step of writing does not tell apart, if rows of related trees are written
alike. -/
inductive Alike (options options' : Options) (R : Shape → Shape → Prop) : Shape → Shape → Prop
  /-- The same leaf; if it is a character data section, script mode leaves it the same. -/
  | leaf {content : Leaf}
    (hcdata : ∀ data, content = .cdata data →
      interpolateMarkers options.erb (stripCdataFraming data.toList) =
        interpolateMarkers options'.erb (stripCdataFraming data.toList)) :
    Alike options options' R (.leaf content) (.leaf content)
  /-- A document or a piece of one. -/
  | root {kind : Branch} {children children' : List Shape}
    (hkind : kind = .document ∨ kind = .fragment) (hchildren : List.Forall₂ R children children') :
    Alike options options' R (.branch kind children) (.branch kind children')
  /-- Elements that are written in the same manner: as filters with the same body, as scripts with
  the same source, or with related children and, unless they are left out, with the same header. -/
  | element {name : String} {attributes attributes' : List Attribute} {selfClosing : Bool}
    {children children' : List Shape}
    (hmanner : manner options.erb name attributes = manner options'.erb name attributes')
    (hcontent : match manner options.erb name attributes with
      | .filtered _ =>
        interpolateMarkers options.erb (filterSource children) =
          interpolateMarkers options'.erb (filterSource children')
      | .opened => List.Forall₂ R children children'
      | .script _ => Shape.textAll children = Shape.textAll children'
      | .tag =>
        (∀ nuked, headerOf options name attributes nuked selfClosing =
          headerOf options' name attributes' nuked selfClosing) ∧
        List.Forall₂ R children children') :
    Alike options options' R (.branch (.element name attributes selfClosing) children)
      (.branch (.element name attributes' selfClosing) children')

variable {options options' : Options} {R : Shape → Shape → Prop} {tree tree' : Shape}
  {trees trees' rest rest' : List Shape} {spot : Spot} {level : Nat} {glued inPre : Bool}
  {name : String} {row row' : WriteRow}

section Siblings

/-- The body of a filter is its source with markers replaced. -/
theorem filterShapes_eq (erb : Bool) (children : List Shape) :
    filterShapes erb children = interpolateMarkers erb (filterSource children) :=
  rfl

/-- Script mode decides how a marker is written. -/
theorem manner_loud (erb : Bool) (attributes : List Attribute) :
    manner erb "loud" attributes = if erb then .script false else .tag := by
  have hfilter : Filter.forElement? "loud" attributes = none := rfl
  rw [manner, hfilter]
  cases erb <;> rfl

namespace Alike

/-- Trees that are alike are the same text, or no texts. -/
theorem content?_eq (h : Alike options options' R tree tree') : tree.content? = tree'.content? := by
  cases h <;> rfl

/-- Trees that are alike are both printed scripts, or none of them is. -/
theorem isLoud_eq (h : Alike options options' R tree tree') :
    (options.erb && tree.isNamed "loud") = (options'.erb && tree'.isNamed "loud") := by
  cases h with
  | leaf => simp [Shape.isNamed]
  | root hkind => rcases hkind with rfl | rfl <;> simp [Shape.isNamed]
  | @element name attributes attributes' _ _ _ hmanner =>
    simp only [Shape.isNamed]
    by_cases hname : name = "loud"
    · subst hname
      rw [manner_loud, manner_loud] at hmanner
      cases herb : options.erb <;> cases herb' : options'.erb <;> simp [herb, herb'] at hmanner ⊢
    · rw [beq_false_of_ne hname, Bool.and_false, Bool.and_false]

/-- Printed scripts that are alike have the same source. -/
theorem innerText_eq (h : Alike options options' R tree tree') (herb : options.erb = true)
    (hname : tree.isNamed "loud" = true) : tree.innerText = tree'.innerText := by
  cases h with
  | leaf => cases hname
  | root hkind => rcases hkind with rfl | rfl <;> cases hname
  | element hmanner hcontent =>
    obtain rfl := eq_of_beq hname
    rw [manner_loud, herb] at hcontent
    exact hcontent

end Alike

/-- An element stands in the same way to texts that are alike. -/
theorem tie_alike (h : List.Forall₂ (Alike options options' R) rest rest') :
    tie glued rest = tie glued rest' := by
  cases h with
  | nil => rfl
  | cons hfirst _ => simp only [tie, List.head?_cons, Option.bind_some, hfirst.content?_eq]

/-- Nothing is spliced out of trees that do not begin with a script. -/
theorem spliced_of_not_loud (h : ∀ tree ∈ trees.head?, tree.isNamed "loud" = false) :
    spliced trees = [] ∧ runLength trees = 0 := by
  rcases trees with _ | ⟨first, _ | ⟨second, more⟩⟩
  · exact ⟨rfl, rfl⟩
  · simp [spliced, runLength, h first rfl]
  · simp [spliced, runLength, h first rfl]

section ScriptMode

variable (herb : options.erb = true) (herb' : options'.erb = true)
include herb herb'

/-- In script mode, trees that are alike are both printed scripts with the same source, or none of
them is one. -/
theorem Alike.loud_cases (h : Alike options options' R tree tree') :
    (tree.isNamed "loud" = true ∧ tree'.isNamed "loud" = true ∧ tree.innerText = tree'.innerText) ∨
      tree.isNamed "loud" = false ∧ tree'.isNamed "loud" = false := by
  have hloud := h.isLoud_eq
  rw [herb, herb', Bool.true_and, Bool.true_and] at hloud
  cases hname : tree.isNamed "loud" with
  | true => exact Or.inl ⟨rfl, hloud.symm.trans hname, h.innerText_eq herb hname⟩
  | false => exact Or.inr ⟨rfl, hloud.symm.trans hname⟩

/-- In script mode, scripts over several lines stand next in both rows, or in none of them. -/
theorem separates_alike (h : List.Forall₂ (Alike options options' R) rest rest') :
    separates rest = separates rest' := by
  cases h with
  | nil => rfl
  | cons hfirst _ =>
    rcases hfirst.loud_cases herb herb' with ⟨hname, hname', hinner⟩ | ⟨hname, hname'⟩
    · simp only [separates, List.head?_cons, Option.any_some, hname, hname', hinner]
    · simp only [separates, List.head?_cons, Option.any_some, hname, hname', Bool.false_and]

/-- In script mode, the same is spliced out of trees that are alike, and out of as many of them. -/
theorem spliced_alike_of_erb (h : List.Forall₂ (Alike options options' R) trees trees') :
    spliced trees = spliced trees' ∧ runLength trees = runLength trees' := by
  fun_induction runLength trees generalizing trees' with
  | case1 =>
    cases h
    exact ⟨rfl, rfl⟩
  | case2 marker hm =>
    obtain _ | ⟨hfirst, _ | _⟩ := h
    obtain ⟨-, hm', hinner⟩ := (hfirst.loud_cases herb herb').resolve_right (by simp [hm])
    simp only [spliced, runLength, splicedShape, hm, hm', if_true, hinner, and_self]
  | case3 marker hm =>
    obtain _ | ⟨hfirst, _ | _⟩ := h
    obtain ⟨-, hm'⟩ := (hfirst.loud_cases herb herb').resolve_left fun hl => hm hl.1
    simp [spliced, runLength, hm, hm']
  | case4 marker following rest hm text ht ih =>
    obtain _ | ⟨hfirst, _ | ⟨hsecond, hrest⟩⟩ := h
    obtain ⟨-, hm', hinner⟩ := (hfirst.loud_cases herb herb').resolve_right (by simp [hm])
    have ht' := hsecond.content?_eq.symm.trans ht
    obtain ⟨hspliced, hlength⟩ := ih hrest
    simp only [spliced, runLength, splicedShape, hm, hm', ht, ht', if_true, hinner, hspliced,
      hlength, and_self]
  | case5 marker following rest hm hno ih =>
    obtain _ | ⟨hfirst, hrest⟩ := h
    obtain ⟨-, hm', hinner⟩ := (hfirst.loud_cases herb herb').resolve_right (by simp [hm])
    obtain ⟨hspliced, hlength⟩ := ih hrest
    obtain _ | ⟨hsecond, _⟩ := hrest
    have hno' := hsecond.content?_eq.symm.trans hno
    simp only [spliced, runLength, splicedShape, hm, hm', hno, hno', if_true, hinner, hspliced,
      hlength, and_self]
  | case6 marker following rest hm =>
    obtain _ | ⟨hfirst, _ | _⟩ := h
    obtain ⟨-, hm'⟩ := (hfirst.loud_cases herb herb').resolve_left fun hl => hm hl.1
    simp [spliced, runLength, hm, hm']

end ScriptMode

/-- The same is spliced out of trees that are alike, and out of as many of them. -/
theorem spliced_alike (h : List.Forall₂ (Alike options options' R) trees trees') :
    (if options.erb then spliced trees else []) = (if options'.erb then spliced trees' else []) ∧
      (if options.erb then runLength trees else 0) =
        if options'.erb then runLength trees' else 0 := by
  have hhead : ∀ tree ∈ trees.head?, ∃ tree' ∈ trees'.head?,
      Alike options options' R tree tree' := by
    cases h with
    | nil => simp
    | cons hfirst _ => simpa using hfirst
  have hhead' : ∀ tree' ∈ trees'.head?, ∃ tree ∈ trees.head?,
      Alike options options' R tree tree' := by
    cases h with
    | nil => simp
    | cons hfirst _ => simpa using hfirst
  -- where only one side is in script mode, the other has no scripts to splice
  cases herb : options.erb <;> cases herb' : options'.erb
  · exact ⟨rfl, rfl⟩
  · obtain ⟨hspliced, hlength⟩ := @spliced_of_not_loud trees' fun tree' ht' => by
      obtain ⟨tree, -, halike⟩ := hhead' tree' ht'
      simpa [herb, herb'] using halike.isLoud_eq.symm
    exact ⟨hspliced.symm, hlength.symm⟩
  · exact spliced_of_not_loud fun tree ht => by
      obtain ⟨tree', -, halike⟩ := hhead tree ht
      simpa [herb, herb'] using halike.isLoud_eq
  · exact spliced_alike_of_erb herb herb' h

end Siblings

section Steps

/-- A text is written alike in front of trees that are alike. -/
theorem writeText_alike {text : List Char} {escapeSpecial : Bool}
    (h : List.Forall₂ (Alike options options' R) rest rest') :
    writeText options.erb text rest level escapeSpecial =
      writeText options'.erb text rest' level escapeSpecial := by
  rw [writeText, writeText, (spliced_alike h).1]

/-- After trees that are alike as many trees are written already. -/
theorem Spot.nextSkip_alike (htree : Alike options options' R tree tree')
    (hrest : List.Forall₂ (Alike options options' R) rest rest') :
    spot.nextSkip options.erb tree rest = spot.nextSkip options'.erb tree' rest' := by
  rw [Spot.nextSkip.eq_def, Spot.nextSkip.eq_def]
  cases spot.skip with
  | succ skip => rfl
  | zero =>
    cases htree with
    | @leaf content =>
      cases content with
      | text text =>
        cases hblank : isBlank (spot.held.getD text.toList) with
        | true => simp only [hblank, Bool.not_true, Bool.and_false, Bool.false_eq_true, if_false]
        | false => simpa only [hblank, Bool.not_false, Bool.and_true] using (spliced_alike hrest).2
      | comment _ | cdata _ | doctype _ _ _ | instruction _ => rfl
    | root | element => rfl

/-- After trees that are alike the same is left of the next text. -/
theorem Spot.nextHeld_alike (htree : Alike options options' R tree tree')
    (hrest : List.Forall₂ (Alike options options' R) rest rest') :
    spot.nextHeld options.erb tree rest = spot.nextHeld options'.erb tree' rest' := by
  rw [Spot.nextHeld.eq_def, Spot.nextHeld.eq_def]
  cases spot.skip with
  | succ skip => rfl
  | zero =>
    cases htree with
    | leaf => rfl
    | root hkind => rcases hkind with rfl | rfl <;> rfl
    | element hmanner => simp only [hmanner, tie_alike hrest]

/-- After trees that are alike the next places are the same. -/
theorem Spot.next_alike (htree : Alike options options' R tree tree')
    (hrest : List.Forall₂ (Alike options options' R) rest rest') :
    spot.next options.erb tree rest = spot.next options'.erb tree' rest' := by
  have htext : spot.text? tree = spot.text? tree' := by
    rw [Spot.text?, Spot.text?, htree.content?_eq]
  simp only [Spot.next, htext, Spot.nextSkip_alike htree hrest, Spot.nextHeld_alike htree hrest]

/-- Rows of related trees are written alike. -/
def RowsAlike (R : Shape → Shape → Prop) (row row' : WriteRow) : Prop :=
  ∀ inPre level trees trees', List.Forall₂ R trees trees' →
    row inPre level trees = row' inPre level trees'

variable (hR : ∀ {tree tree'}, R tree tree' → Alike options options' R tree tree')
include hR

/-- The contents of two elements of one name are written alike. -/
theorem RowsAlike.writeBody (hrow : RowsAlike R row row') (h : List.Forall₂ R trees trees') :
    writeBody options.erb row inPre name level trees =
      writeBody options'.erb row' inPre name level trees' := by
  have hall := hrow (name == "pre") (level + 1) trees trees' h
  rcases h with _ | ⟨hfirst, _ | ⟨_, _⟩⟩
  · simp only [Haml.writeBody, hall]
  · have hfirst := hR hfirst
    have htext : ∀ text, writeText options.erb text [] (level + 1) false =
        writeText options'.erb text [] (level + 1) false := fun _ => writeText_alike (R := R) .nil
    simp only [Haml.writeBody, hall, hfirst.content?_eq, hfirst.isLoud_eq, htext]
  · simp only [Haml.writeBody, hall]

/-- Elements with the same header are written alike. -/
theorem RowsAlike.writeTag {attributes attributes' : List Attribute} {selfClosing : Bool}
    (hrow : RowsAlike R row row')
    (hheader : ∀ nuked, headerOf options name attributes nuked selfClosing =
      headerOf options' name attributes' nuked selfClosing)
    (h : List.Forall₂ R trees trees') (hrest : List.Forall₂ (Alike options options' R) rest rest') :
    writeTag options row inPre glued name attributes selfClosing level trees rest =
      writeTag options' row' inPre glued name attributes' selfClosing level trees' rest' := by
  have hbody : ∀ level, Haml.writeBody options.erb row inPre name level trees =
      Haml.writeBody options'.erb row' inPre name level trees' := fun _ => hrow.writeBody hR h
  simp only [headerOf] at hheader
  simp only [Haml.writeTag, tie_alike hrest, hheader, hbody]

/-- **Trees that are alike are written alike**, if the rows below them are. -/
theorem RowsAlike.writeShape (hrow : RowsAlike R row row')
    (htree : Alike options options' R tree tree')
    (hrest : List.Forall₂ (Alike options options' R) rest rest') :
    writeShape options row inPre level spot rest tree =
      writeShape options' row' inPre level spot rest' tree' := by
  cases htree with
  | @leaf content hcdata =>
    cases content with
    | text text => exact congrArg Except.ok (writeText_alike hrest)
    | cdata data => simp only [Haml.writeShape, writeLeaf, hcdata data rfl]
    | comment _ | doctype _ _ _ | instruction _ => rfl
  | root hkind hchildren =>
    rcases hkind with rfl | rfl
    · exact hrow false 0 _ _ hchildren
    · exact hrow false 0 _ _ hchildren
  | @element name attributes attributes' _ _ _ hmanner hcontent =>
    have hspec := @manner_spec options.erb name attributes
    have hspec' := @manner_spec options'.erb name attributes'
    rw [← hmanner] at hspec'
    simp only [Haml.writeShape, ← hmanner]
    cases hm : manner options.erb name attributes with
    | filtered filter =>
      rw [hm] at hcontent
      simp only [filterShapes_eq, hcontent]
    | opened =>
      rw [hm] at hcontent
      exact hrow (name == "pre") (level + 1) _ _ hcontent
    | script silent =>
      rw [hm] at hcontent hspec hspec'
      simp only [scriptLines, hcontent, separates_alike hspec.1 hspec'.1 hrest]
    | tag =>
      rw [hm] at hcontent
      exact hrow.writeTag hR hcontent.1 hcontent.2 hrest

end Steps

section Rows

variable (hR : ∀ {tree tree'}, R tree tree' → Alike options options' R tree tree')
include hR

/-- Rows of related trees are written alike from any place on. -/
theorem RowsAlike.writeFrom (hrow : RowsAlike R row row') (h : List.Forall₂ R trees trees') :
    writeFrom options row inPre level spot trees =
      writeFrom options' row' inPre level spot trees' := by
  induction h generalizing spot with
  | nil => rfl
  | @cons tree tree' rest rest' htree hrest ih =>
    have htree := hR htree
    have hrest := hrest.imp fun _ _ => hR
    have hfirst : writeNext options row inPre level spot rest tree =
        writeNext options' row' inPre level spot rest' tree' := by
      rw [writeNext, writeNext, hrow.writeShape hR htree hrest]
    rw [Haml.writeFrom, Haml.writeFrom, hfirst, Spot.next_alike htree hrest, ih]

/-- **A relation between trees that are alike relates rows that are written alike.** -/
theorem rowsAlike_writeRow (hmax : options.maxDepth = options'.maxDepth) (depth : Nat) :
    RowsAlike R (writeRow options depth) (writeRow options' depth) := by
  induction depth with
  | zero =>
    intro inPre level trees trees' h
    rcases h with _ | _
    · rfl
    · exact congrArg (fun limit => Except.error (Failure.tooDeep limit)) hmax
  | succ depth ih => exact fun _ _ _ _ h => ih.writeFrom hR h

/-- **Documents that hold related rows are rendered alike.** -/
theorem render_alike {store store' : Store} {kind : Branch} (h : store.Forest) (h' : store'.Forest)
    (hkind : kind = .document ∨ kind = .fragment)
    (hs : store.Shows store.root (.branch kind trees))
    (hs' : store'.Shows store'.root (.branch kind trees'))
    (hmax : options.maxDepth = options'.maxDepth) (ht : List.Forall₂ R trees trees') :
    render store options = render store' options' := by
  rw [render_eq_writeRow h hkind hs, render_eq_writeRow h' hkind hs', ← hmax,
    rowsAlike_writeRow hR hmax options.maxDepth false 0 trees trees' ht]

end Rows

end HtmlToHaml.Haml
