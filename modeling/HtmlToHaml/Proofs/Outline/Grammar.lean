import HtmlToHaml.Proofs.Haml.Escape
import HtmlToHaml.Proofs.Outline.Passage

/-!
# The grammar of an outline

Without scripts, a row of trees is written tree by tree: a leaf by itself, and an element as a
filter or as its header with its content on the same line, as preserved text or as a row one level
deeper. `Written` says which texts come about in this way. It leaves open what a tree learns from
its neighbors, which word it puts behind itself and what is left of a text, so it can be argued
about without them.
-/

namespace HtmlToHaml.Haml

open Text DocTree

/-- A leaf at a level. -/
inductive WrittenLeaf (level : Nat) : Leaf → List Char → Prop
  /-- What is left of a text. -/
  | text (content : String) (left : List Char) :
    WrittenLeaf level (.text content)
      (textLines (escapeInterpolation (htmlEscape left)) level true)
  /-- A comment. -/
  | comment (content : String) :
    WrittenLeaf level (.comment content) (commentBlock content.toList level)
  /-- A character data section. -/
  | cdata (content : String) :
    WrittenLeaf level (.cdata content)
      (indentation level ++ ':' :: Filter.cdata.name.toList ++ '\n' ::
        textLines (stripCdataFraming content.toList) (level + 1) true)
  /-- A document type. -/
  | doctype {name : String} {externalId systemId : Option String} {line : List Char} :
    doctype (externalId.map String.toList) = .ok line →
    WrittenLeaf level (.doctype name externalId systemId) (indentation level ++ line ++ ['\n'])
  /-- A processing instruction. -/
  | instruction (content : String) :
    WrittenLeaf level (.instruction content) (indentation level ++ "!!! XML\n".toList)

/-- What stands in front of the content of an element at a level, and the level of its header. -/
inductive Front (style : AttributeStyle) (name : String) (attributes : List Attribute)
    (selfClosing : Bool) (level : Nat) : Nat → List Char → Prop
  /-- The header. -/
  | header (nuked : Bool) :
    Front style name attributes selfClosing level level
      (indentation level ++
        header style name.toList (Shorthand.of (entries attributes false)) nuked selfClosing)
  /-- The header below the word that follows the element. -/
  | succeeded (word : List Char) :
    Front style name attributes selfClosing level (level + 1)
      (indentation level ++ succeedLine word ++ indentation (level + 1) ++
        header style name.toList (Shorthand.of (entries attributes false)) false selfClosing)

/-- The names of the elements whose white space counts. -/
def preservedNames : List String := ["pre", "textarea", "code"]

/-- A row of trees at a level. -/
inductive Written (style : AttributeStyle) : Nat → List Shape → List Char → Prop
  /-- No trees. -/
  | nil {level : Nat} : Written style level [] []
  /-- A leaf. -/
  | leaf {level : Nat} {leaf : Leaf} {rest : List Shape} {first more : List Char} :
    WrittenLeaf level leaf first → Written style level rest more →
    Written style level (.leaf leaf :: rest) (first ++ more)
  /-- A document or a fragment inside the tree. -/
  | root {level : Nat} {kind : Branch} {children rest : List Shape} {body more : List Char} :
    kind = .document ∨ kind = .fragment → Written style 0 children body →
    Written style level rest more → Written style level (.branch kind children :: rest)
      (body ++ more)
  /-- A filter. -/
  | filtered {level : Nat} {name : String} {attributes : List Attribute} {selfClosing : Bool}
    {filter : Filter} {children rest : List Shape} {more : List Char} :
    Filter.forElement? name attributes = some filter → Written style level rest more →
    Written style level (.branch (.element name attributes selfClosing) children :: rest)
      (filterBlock filter (filterShapes false children) level ++ more)
  /-- An element with its text after the header. -/
  | inline {level inner : Nat} {name : String} {attributes : List Attribute} {selfClosing : Bool}
    {content : String} {rest : List Shape} {front more : List Char} :
    Filter.forElement? name attributes = none →
    Front style name attributes selfClosing level inner front →
    '\n' ∉ content.toList → Written style level rest more →
    Written style level
      (.branch (.element name attributes selfClosing) [.leaf (.text content)] :: rest)
      (front ++ inlineText
        (textLines (escapeInterpolation (htmlEscape content.toList)) (inner + 1) false) ++ more)
  /-- An element with its text, of more than one line, as a block whose white space counts. -/
  | preserved {level inner : Nat} {name : String} {attributes : List Attribute} {selfClosing : Bool}
    {content : String} {rest : List Shape} {front more : List Char} :
    Filter.forElement? name attributes = none →
    Front style name attributes selfClosing level inner front →
    name ∈ preservedNames → '\n' ∈ content.toList → Written style level rest more →
    Written style level
      (.branch (.element name attributes selfClosing) [.leaf (.text content)] :: rest)
      (front ++ '\n' :: preserveBlock content.toList (inner + 1) ++ more)
  /-- An element with its children below the header. -/
  | block {level inner : Nat} {name : String} {attributes : List Attribute} {selfClosing : Bool}
    {children rest : List Shape} {front body more : List Char} :
    Filter.forElement? name attributes = none →
    Front style name attributes selfClosing level inner front →
    Written style (inner + 1) children body → Written style level rest more →
    Written style level (.branch (.element name attributes selfClosing) children :: rest)
      (front ++ '\n' :: body ++ more)

variable {options : Options} {row : WriteRow} {inPre glued : Bool} {level : Nat} {spot : Spot}
  {tree : Shape} {trees children rest : List Shape} {name : String} {text first more : List Char}

/-- A blank text has no lines, like any text without lines. -/
theorem writeText_eq (text : List Char) (rest : List Shape) (level : Nat) (escapeSpecial : Bool) :
    writeText false text rest level escapeSpecial =
      textLines (escapeInterpolation (htmlEscape text)) level escapeSpecial := by
  rw [writeText]
  split
  · rename_i hb
    rw [textLines, isBlank_escapeInterpolation, isBlank_htmlEscape, if_pos hb]
  · simp

/-- Only elements of a few names keep their white space. -/
theorem mem_preservedNames (h : preserves name inPre = true) : name ∈ preservedNames := by
  simp only [preserves, Bool.or_eq_true, Bool.and_eq_true, beq_iff_eq] at h
  rcases h with (rfl | rfl) | ⟨rfl, -⟩ <;> decide

/-- A leaf is written as the grammar says. -/
theorem writtenLeaf_of_ok {leaf : Leaf} (h : writeLeaf false spot level rest leaf = .ok text) :
    WrittenLeaf level leaf text := by
  cases leaf with
  | text content =>
    cases h
    rw [writeText_eq]
    exact .text content _
  | comment content =>
    cases h
    exact .comment content
  | cdata content =>
    cases h
    exact .cdata content
  | doctype name externalId systemId =>
    rw [writeLeaf] at h
    obtain ⟨line, hd, rfl⟩ := exists_of_map_eq_ok h
    exact .doctype hd
  | instruction content =>
    cases h
    exact .instruction content

/-- Rows that come to a text come to one of the grammar. -/
def RowWritten (style : AttributeStyle) (row : WriteRow) : Prop :=
  ∀ inPre level trees text, row inPre level trees = .ok text → Written style level trees text

/-- An element with a header is written as the grammar says. -/
theorem written_of_writeTag {style : AttributeStyle} {attributes : List Attribute}
    {selfClosing : Bool} {inner : Nat} {front body : List Char} (hrow : RowWritten style row)
    (hf : Filter.forElement? name attributes = none)
    (hfront : Front style name attributes selfClosing level inner front)
    (hb : writeBody false row inPre name inner children = .ok body)
    (hmore : Written style level rest more) :
    Written style level (.branch (.element name attributes selfClosing) children :: rest)
      (front ++ body ++ more) := by
  have hblock : (row (name == "pre") (inner + 1) children).map ('\n' :: ·) = .ok body →
      Written style level (.branch (.element name attributes selfClosing) children :: rest)
        (front ++ body ++ more) := by
    intro hr
    obtain ⟨text, hw, rfl⟩ := exists_of_map_eq_ok hr
    exact .block hf hfront (hrow _ _ _ _ hw) hmore
  rcases children with _ | ⟨child, _ | ⟨second, others⟩⟩
  · exact hblock hb
  · rw [writeBody] at hb
    cases ht : child.content? with
    | none =>
      rw [ht] at hb
      exact hblock hb
    | some text =>
      obtain ⟨content, rfl, rfl⟩ := Shape.exists_of_content? ht
      rw [ht] at hb
      dsimp only at hb
      split at hb
      · rename_i hline
        cases hb
        rw [writeText_eq]
        exact .inline hf hfront (by simpa [hasLineFeed] using hline) hmore
      · rename_i hline
        split at hb
        · rename_i hname
          cases hb
          have hlines : '\n' ∈ content.toList := by simpa [hasLineFeed] using hline
          exact .preserved hf hfront (mem_preservedNames hname) hlines hmore
        · exact hblock hb
  · exact hblock hb

/-- A tree is written as the grammar says, in front of others. -/
theorem written_of_writeShape (herb : options.erb = false) (hrow : RowWritten options.style row)
    (h : writeShape options row inPre level spot rest tree = .ok first)
    (hmore : Written options.style level rest more) :
    Written options.style level (tree :: rest) (first ++ more) := by
  cases tree with
  | leaf leaf =>
    rw [writeShape, herb] at h
    exact .leaf (writtenLeaf_of_ok h) hmore
  | branch kind children =>
    cases kind with
    | document => exact .root (Or.inl rfl) (hrow _ _ _ _ h) hmore
    | fragment => exact .root (Or.inr rfl) (hrow _ _ _ _ h) hmore
    | element name attributes selfClosing =>
      cases hf : Filter.forElement? name attributes with
      | some filter =>
        have hmanner : manner false name attributes = .filtered filter := by rw [manner, hf]
        simp only [writeShape, herb, hmanner] at h
        cases h
        exact .filtered hf hmore
      | none =>
        have hmanner : manner false name attributes = .tag := by
          rw [manner, hf]
          rfl
        simp only [writeShape, writeTag, herb, hmanner] at h
        -- the header stands alone, with its mark for nuked white space, or below a word
        cases ht : tie spot.glued rest with
        | loose =>
          rw [ht] at h
          obtain ⟨body, hb, rfl⟩ := exists_of_map_eq_ok h
          exact written_of_writeTag hrow hf (.header false) hb hmore
        | nuked =>
          rw [ht] at h
          obtain ⟨body, hb, rfl⟩ := exists_of_map_eq_ok h
          exact written_of_writeTag hrow hf (.header true) hb hmore
        | succeeded word left =>
          rw [ht] at h
          obtain ⟨body, hb, rfl⟩ := exists_of_map_eq_ok h
          exact written_of_writeTag hrow hf (.succeeded word) hb hmore

/-- A row of trees is written as the grammar says. -/
theorem written_of_writeFrom (herb : options.erb = false) (hrow : RowWritten options.style row)
    (hskip : spot.skip = 0) (h : writeFrom options row inPre level spot trees = .ok text) :
    Written options.style level trees text := by
  induction trees generalizing spot text with
  | nil =>
    cases h
    exact .nil
  | cons tree rest ih =>
    have hnext : (spot.next options.erb tree rest).skip = 0 := by
      simp only [Spot.next, Spot.nextSkip, hskip, herb]
      split <;> simp
    obtain ⟨first, more, hw, hm, rfl⟩ := exists_of_writeFrom_cons h
    rw [writeNext, if_pos hskip] at hw
    exact written_of_writeShape herb hrow hw (ih hnext hm)

/-- **Without scripts, every row is written as the grammar says.** -/
theorem written_of_writeRow (herb : options.erb = false) (depth : Nat) :
    RowWritten options.style (writeRow options depth) :=
  writeRow_invariant (fun _ _ => .nil)
    (fun hrow _ _ _ _ h => written_of_writeFrom herb hrow rfl h) depth

/-- **Without scripts, what a document or a fragment comes to is written as the grammar says.** -/
theorem written_of_render {store : Store} {kind : Branch} {answer : String} (h : store.Forest)
    (hkind : kind = .document ∨ kind = .fragment)
    (hs : store.Shows store.root (.branch kind trees)) (herb : options.erb = false)
    (hr : render store options = .ok answer) :
    Written options.style 0 trees answer.toList := by
  rw [render_eq_writeRow h hkind hs] at hr
  obtain ⟨text, hw, rfl⟩ := exists_of_map_eq_ok hr
  rw [String.toList_ofList]
  exact written_of_writeRow herb _ _ _ _ _ hw

end HtmlToHaml.Haml
