import HtmlToHaml.Proofs.Forest.Built
import HtmlToHaml.Proofs.Haml.BlockCount
import HtmlToHaml.Proofs.Haml.Levels
import HtmlToHaml.Proofs.Haml.Shift
import HtmlToHaml.Proofs.Outline.Grammar
import HtmlToHaml.Proofs.Outline.WholeLines

/-!
# Legality

Every text of the grammar is a block of lines at its level, if names are identifiers, elements that
close themselves are empty and conditions stand on one line. So what a document or a fragment comes
to is a legal outline: nothing is nested below a line that cannot hold it.
-/

namespace HtmlToHaml.DocTree

mutual

/-- A tree of elements and leaves, without filters, whose names are identifiers, whose conditions
stand on one line and in which elements that close themselves are empty. -/
def Shape.Orderly : Shape → Prop
  | .branch (.element name attributes selfClosing) children =>
    Haml.isCssIdentifier name.toList = true ∧ Haml.Filter.forElement? name attributes = none ∧
      (selfClosing = true → children = []) ∧ Shape.AllOrderly children
  | .branch _ _ => False
  | .leaf (.comment content) =>
    ∀ condition body, Haml.condition? content.toList = some (condition, body) → '\n' ∉ condition
  | .leaf _ => True

/-- Trees of this kind. -/
def Shape.AllOrderly : List Shape → Prop
  | [] => True
  | tree :: rest => tree.Orderly ∧ Shape.AllOrderly rest

end

end HtmlToHaml.DocTree

namespace HtmlToHaml.Haml

open Text DocTree

variable {style : AttributeStyle} {level inner : Nat} {s text front tail body : List Char}
  {name : String} {attributes : List Attribute} {selfClosing : Bool}

section Leaves

/-- Pieces that are blocks make up a block. -/
theorem block_flatMap {α : Type} {f : α → List Char} {parts : List α}
    (h : ∀ part ∈ parts, Block style level (f part)) : Block style level (parts.flatMap f) :=
  flatMap_of_append .nil Block.append h

/-- A line alone is a block. -/
theorem block_line (hb : Begins body) (hn : '\n' ∉ body) :
    Block style level (indentation level ++ body ++ ['\n']) :=
  .line hb hn .nil

/-- A line with a block below it is a block. -/
theorem block_nest (ho : Opener style body) (hp : body ≠ preserveLine)
    (h : Block style (level + 1) s) :
    Block style level (indentation level ++ body ++ '\n' :: s) := by
  have hall := Block.nest ho hp h .nil
  rwa [List.append_nil] at hall

/-- Lines of text are a block. -/
theorem block_textLines (s : List Char) (level : Nat) (escapeSpecial : Bool) :
    Block style level (textLines s level escapeSpecial) := by
  rw [textLines]
  split
  · exact .nil
  · refine block_flatMap fun line hl => ?_
    rw [textLine]
    cases hb : isBlank line with
    | true =>
      rw [trim_of_isBlank hb, needsEscape, Bool.and_false, if_neg Bool.false_ne_true,
        List.append_nil, List.append_nil]
      exact .blank (by simp [isBlank, indentation, isSpace]) (by simp [indentation]) .nil
    | false =>
      obtain ⟨c, rest, htrim, hc⟩ := trim_eq_cons hb
      have hn : '\n' ∉ trim line := fun hn =>
        newline_not_mem_of_mem_splitLines hl (mem_of_mem_trimBy hn)
      rw [List.append_assoc (indentation level)]
      refine block_line ?_ ?_
      · split
        · exact ⟨'\\', _, rfl, by decide⟩
        · exact ⟨c, rest, htrim, hc⟩
      · rw [List.mem_append, not_or]
        refine ⟨?_, hn⟩
        split <;> simp

/-- A comment is a block, if its condition stands on one line. -/
theorem block_commentBlock {content : List Char}
    (hc : ∀ condition body, condition? content = some (condition, body) → '\n' ∉ condition) :
    Block style level (commentBlock content level) := by
  have hopener : Opener style ('/' :: ((condition? content).getD ([], content)).1) := by
    cases hf : condition? content with
    | none => exact .comment
    | some found =>
      obtain ⟨condition, body⟩ := found
      obtain ⟨inside, rfl, hclose, -⟩ := exists_of_condition? hf
      have hn := hc _ _ hf
      simp only [List.cons_append, List.mem_cons, List.mem_append, not_or] at hn
      exact .condition hn.2.1 hclose
  have hslash : '/' :: ((condition? content).getD ([], content)).1 ≠ preserveLine :=
    fun he => absurd (List.cons.inj he).1 (by decide)
  obtain ⟨hbegins, hn⟩ := hopener.spec
  simp only [commentBlock]
  split
  · exact block_nest hopener hslash (block_textLines _ _ _)
  · rename_i hbody
    split
    · exact block_line hbegins hn
    · have hline : '\n' ∉ trim ((condition? content).getD ([], content)).2 := by
        intro hm
        exact hbody (List.contains_iff_mem.2 (mem_of_mem_trimBy hm))
      have hall : Block style level (indentation level ++
          ('/' :: ((condition? content).getD ([], content)).1 ++
            ' ' :: trim ((condition? content).getD ([], content)).2) ++ ['\n']) := by
        refine block_line ⟨'/', _, rfl, by decide⟩ ?_
        rw [List.mem_append, not_or]
        exact ⟨hn, by simpa using hline⟩
      simpa using hall

/-- A leaf is a block. -/
theorem block_leaf {leaf : Leaf} (h : WrittenLeaf level leaf text)
    (ho : Shape.Orderly (.leaf leaf)) :
    Block style level text := by
  cases h with
  | text content left => exact block_textLines _ _ _
  | comment content => exact block_commentBlock ho
  | cdata content => exact block_nest .cdata (by decide) (block_textLines _ _ _)
  | doctype hd =>
    obtain ⟨rest, rfl⟩ := exists_doctype_eq hd
    exact block_line ⟨'!', _, rfl, by decide⟩ (newline_not_mem_doctype hd)
  | instruction content =>
    have hline : "!!! XML\n".toList = "!!! XML".toList ++ ['\n'] := by decide
    rw [hline, ← List.append_assoc]
    exact block_line ⟨'!', _, rfl, by decide⟩ (by decide)

/-- Preserved text is a block. -/
theorem block_preserveBlock (text : List Char) (level : Nat) :
    Block style level (preserveBlock text level) := by
  have hn : ∀ line ∈ contentLines text, '\n' ∉ line := fun _ => newline_not_mem_of_mem_contentLines
  have hall := @Block.preserved style level (contentLines text) [] hn .nil
  rwa [List.append_nil] at hall

end Leaves

section Elements

/-- The header of an element is a line. -/
theorem header_spec (hname : isCssIdentifier name.toList = true) (nuked : Bool) :
    Begins (header style name.toList (Shorthand.of (entries attributes false)) nuked selfClosing) ∧
      '\n' ∉ header style name.toList (Shorthand.of (entries attributes false)) nuked
        selfClosing := by
  obtain ⟨hn, parts, -, hread⟩ := exists_readHeader_header hname style attributes nuked selfClosing
  exact ⟨(begins_of_readHeader hread).1, hn⟩

/-- An element is a block if its header with its content is one. -/
theorem block_front (hfront : Front style name attributes selfClosing level inner front)
    (h : ∀ nuked, Block style inner (indentation inner ++ header style name.toList
      (Shorthand.of (entries attributes false)) nuked selfClosing ++ tail)) :
    Block style level (front ++ tail) := by
  cases hfront with
  | header nuked => exact h nuked
  | succeeded word =>
    have hline : "= succeed ".toList ++ rubyString word ++ " do".toList ≠ preserveLine := by
      intro he
      have hhead := congrArg List.head? he
      simp [preserveLine] at hhead
    have hall := block_nest (.succeed word) hline (h false)
    rw [succeedLine_eq]
    simpa using hall

/-- A header with text after it is a line. -/
theorem block_inline {line : List Char} (hname : isCssIdentifier name.toList = true)
    (hfront : Front style name attributes selfClosing level inner front) (hn : '\n' ∉ line) :
    Block style level (front ++ (line ++ ['\n'])) := by
  refine block_front hfront fun nuked => ?_
  obtain ⟨⟨c, rest, hc, hshows⟩, hheader⟩ :=
    @header_spec style name attributes selfClosing hname nuked
  rw [List.append_assoc, ← List.append_assoc _ line, ← List.append_assoc]
  refine block_line ⟨c, rest ++ line, by rw [hc]; rfl, hshows⟩ ?_
  rw [List.mem_append, not_or]
  exact ⟨hheader, hn⟩

/-- A header with a block below it is a block, unless the element closes itself. -/
theorem block_element (hname : isCssIdentifier name.toList = true)
    (hfront : Front style name attributes false level inner front)
    (hbody : Block style (inner + 1) body) : Block style level (front ++ '\n' :: body) := by
  refine block_front hfront fun nuked => ?_
  obtain ⟨hn, parts, hopen, hread⟩ := exists_readHeader_header hname style attributes nuked false
  exact block_nest (.header hn hread hopen) (begins_of_readHeader hread).2 hbody

/-- **A text of the grammar is a block.** -/
theorem block_written {trees : List Shape} (h : Written style level trees text)
    (ho : Shape.AllOrderly trees) : Block style level text := by
  induction h with
  | nil => exact .nil
  | leaf hleaf _ ih =>
    rw [Shape.AllOrderly] at ho
    exact (block_leaf hleaf ho.1).append (ih ho.2)
  | root hk _ _ _ _ =>
    rw [Shape.AllOrderly] at ho
    rcases hk with rfl | rfl <;> simp [Shape.Orderly] at ho
  | filtered hf _ _ =>
    rw [Shape.AllOrderly, Shape.Orderly, hf] at ho
    simp at ho
  | inline _ hfront hn _ ih =>
    rw [Shape.AllOrderly, Shape.Orderly] at ho
    have hline := newline_not_mem_escape hn
    rw [inlineText_textLines hline]
    refine .append ?_ (ih ho.2)
    split
    · exact block_inline ho.1.1 hfront List.not_mem_nil
    · refine block_inline ho.1.1 hfront ?_
      rw [List.mem_cons, not_or]
      exact ⟨by decide, fun h => hline (mem_of_mem_trimBy (mem_of_mem_trimBy h))⟩
  | @preserved _ _ _ _ selfClosing _ _ _ _ _ hfront _ _ _ ih =>
    rw [Shape.AllOrderly, Shape.Orderly] at ho
    obtain rfl : selfClosing = false := by simpa using ho.1.2.2.1
    exact .append (block_element ho.1.1 hfront (block_preserveBlock _ _)) (ih ho.2)
  | @block _ _ _ _ selfClosing _ _ _ _ _ _ hfront hbody _ ihbody ih =>
    rw [Shape.AllOrderly, Shape.Orderly] at ho
    obtain ⟨⟨hname, -, hempty, hchildren⟩, hrest⟩ := ho
    refine .append ?_ (ih hrest)
    cases selfClosing with
    | false => exact block_element hname hfront (ihbody hchildren)
    | true =>
      obtain rfl := hempty rfl
      cases hbody
      exact block_inline hname hfront List.not_mem_nil

end Elements

/-- **What a document or a fragment comes to is made of whole lines, and without scripts it is
a legal outline.** -/
theorem legal_render {store : Store} {options : Options} {kind : Branch} {trees : List Shape}
    {answer : String} (h : store.Forest) (hkind : kind = .document ∨ kind = .fragment)
    (hs : store.Shows store.root (.branch kind trees)) (hr : render store options = .ok answer) :
    (answer = "" ∨ answer.toList.getLast? = some '\n') ∧
      (options.erb = false → Shape.AllOrderly trees →
        Legal options.style (codeLines answer.toList)) := by
  constructor
  · exact (complete_render h hkind hs hr).imp_left fun he => String.toList_inj.1 he
  · intro herb ho
    exact (block_written (written_of_render h hkind hs herb hr) ho).legal

/-- A paragraph in front of a word, preserved text and a comment over two lines. -/
def levels : List Shape :=
  [.leaf (.text "one "),
    .branch (.element "p" [⟨"class", "a"⟩] false)
      [.leaf (.text "two"), .branch (.element "br" [] true) []],
    .leaf (.text "three"), .branch (.element "pre" [] false) [.leaf (.text "x\n    y\n")],
    .leaf (.comment "a\nb")]

/-- The outline of these trees. -/
def levelsOutline : String :=
  "one\n= succeed \"three\" do\n  %p.a\n    two\n    %br/\n%pre\n  :preserve\n    x\n        y\n" ++
    "/\n  a\n  b\n"

/-- The paragraph stands below the line with the word, and the lines of preserved text may be as
deep as they are. -/
theorem legal_render_levels :
    render (Shape.build .fragment levels) {} = .ok levelsOutline ∧
      Legal (Options.style {}) (codeLines levelsOutline.toList) := by
  have hr : render (Shape.build .fragment levels) {} = .ok levelsOutline := by decide +kernel
  have ho : Shape.AllOrderly levels := by
    simp [levels, Shape.AllOrderly, Shape.Orderly, Filter.forElement?, isCssIdentifier, condition?]
  have hlegal := legal_render (Store.forest_build _ _).1 (Or.inr rfl) (Store.shows_build _ rfl) hr
  exact ⟨hr, hlegal.2 rfl ho⟩

end HtmlToHaml.Haml
