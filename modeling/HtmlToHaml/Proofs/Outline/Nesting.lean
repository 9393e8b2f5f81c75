import HtmlToHaml.Proofs.Forest.Built
import HtmlToHaml.Proofs.Haml.Escape
import HtmlToHaml.Proofs.Haml.OneLine
import HtmlToHaml.Proofs.Haml.Shift
import HtmlToHaml.Proofs.Outline.Passage

/-!
# Nesting

A row of trees one level deeper is written as the same lines, each with two more spaces in front. So
an element without attributes around a row writes its name and then what the row came to, moved; a
level more for the element is all that it needs.
-/

namespace HtmlToHaml.DocTree

mutual

/-- A tree without filters in which names and conditions stand on one line. -/
def Shape.Movable : Shape → Prop
  | .branch (.element name attributes _) children =>
    '\n' ∉ name.toList ∧ Haml.Filter.forElement? name attributes = none ∧ Shape.AllMovable children
  | .branch _ _ => False
  | .leaf (.comment content) =>
    ∀ condition body, Haml.condition? content.toList = some (condition, body) → '\n' ∉ condition
  | .leaf _ => True

/-- Trees without filters in which names and conditions stand on one line. -/
def Shape.AllMovable : List Shape → Prop
  | [] => True
  | tree :: rest => tree.Movable ∧ Shape.AllMovable rest

end

end HtmlToHaml.DocTree

namespace HtmlToHaml.Haml

open Text DocTree

variable {options : Options} {row row' : WriteRow} {inPre : Bool} {level limit : Nat} {spot : Spot}
  {tree : Shape} {trees children rest : List Shape} {name : String}

section Follows

variable {R Q : List Char → List Char → Prop} {answer answer' : Except Failure (List Char)}

/-- If an answer is a text, then so is another one, and the texts are related. -/
def Follows (R : List Char → List Char → Prop) (answer answer' : Except Failure (List Char)) :
    Prop :=
  ∀ s, answer = .ok s → ∃ s', answer' = .ok s' ∧ R s s'

/-- Two texts. -/
theorem Follows.ok {s s' : List Char} (h : R s s') : Follows R (.ok s) (.ok s') := by
  rintro _ ⟨⟩
  exact ⟨s', rfl, h⟩

/-- Text around related answers. -/
theorem Follows.map {f g : List Char → List Char} (h : Follows R answer answer')
    (hf : ∀ s s', R s s' → Q (f s) (g s')) : Follows Q (answer.map f) (answer'.map g) := by
  intro s hs
  cases answer with
  | error failure => cases hs
  | ok text =>
    cases hs
    obtain ⟨s', rfl, hr⟩ := h text rfl
    exact ⟨g s', rfl, hf _ _ hr⟩

end Follows

/-- Rows of trees that can be moved come to related lines one level deeper. -/
def RowMoves (row row' : WriteRow) : Prop :=
  ∀ inPre level trees, Shape.AllMovable trees →
    Follows Shifted (row inPre level trees) (row' inPre (level + 1) trees)

section Pieces

/-- What is left of a text is moved. -/
theorem shifted_writeText (text : List Char) (level : Nat) (escapeSpecial : Bool) :
    Shifted (writeText false text rest level escapeSpecial)
      (writeText false text rest (level + 1) escapeSpecial) := by
  rw [writeText, writeText]
  split
  · exact .nil
  · exact shifted_textLines _ _ _

/-- The content of an element goes on after the header, one level deeper. -/
theorem writeBody_follows (hrow : RowMoves row row') (hc : Shape.AllMovable children) :
    Follows Continued (writeBody false row inPre name level children)
      (writeBody false row' inPre name (level + 1) children) := by
  have hblock : Follows Continued
      ((row (name == "pre") (level + 1) children).map ('\n' :: ·))
      ((row' (name == "pre") (level + 1 + 1) children).map ('\n' :: ·)) :=
    (hrow _ _ _ hc).map fun _ _ => .block
  rcases children with _ | ⟨child, _ | ⟨second, more⟩⟩
  · exact hblock
  · rw [writeBody, writeBody]
    cases ht : child.content? with
    | none =>
      simp only [Bool.false_and, Bool.false_eq_true, if_false]
      exact hblock
    | some text =>
      dsimp only
      split
      · rename_i hline
        refine .ok ?_
        by_cases hb : isBlank text = true
        · rw [writeText, writeText, if_pos hb, if_pos hb]
          exact ⟨[], [], [], by simp, rfl, rfl, .nil⟩
        · have hn : '\n' ∉ text := by simpa [hasLineFeed] using hline
          have hcontinued := continued_inlineText (newline_not_mem_escape hn) (level + 1)
          simpa [writeText, hb] using hcontinued
      · split
        · exact .ok (.block (shifted_preserveBlock _ _))
        · exact hblock
  · exact hblock

/-- An element with a header is moved. -/
theorem writeTag_follows {glued selfClosing : Bool} {attributes : List Attribute}
    (herb : options.erb = false) (hrow : RowMoves row row') (hn : '\n' ∉ name.toList)
    (hc : Shape.AllMovable children) :
    Follows Shifted
      (writeTag options row inPre glued name attributes selfClosing level children rest)
      (writeTag (options.withMaxDepth limit) row' inPre glued name attributes selfClosing
        (level + 1) children rest) := by
  have hbody : ∀ level, Follows Continued (writeBody false row inPre name level children)
      (writeBody false row' inPre name (level + 1) children) :=
    fun level => writeBody_follows hrow hc
  have hheader : ∀ nuked, '\n' ∉ header options.style name.toList
      (Shorthand.of (entries attributes false)) nuked selfClosing :=
    fun nuked => newline_not_mem_header hn
  simp only [writeTag, Options.withMaxDepth, herb]
  cases tie glued rest with
  | loose => exact (hbody level).map fun _ _ h => h.headed (hheader false)
  | nuked => exact (hbody level).map fun _ _ h => h.headed (hheader true)
  | succeeded word left =>
    refine (hbody (level + 1)).map fun s s' h => ?_
    obtain ⟨line, hline, hn⟩ := exists_succeedLine word
    have hmore := @Continued.headed s s' _ (level + 1) (hheader false) h
    have hall := @Shifted.headed _ _ _ level hn hmore
    simp only [hline, List.append_assoc, List.cons_append, List.nil_append] at hall ⊢
    exact hall

/-- A tree is moved. -/
theorem writeShape_follows (herb : options.erb = false) (hrow : RowMoves row row')
    (ht : tree.Movable) :
    Follows Shifted (writeShape options row inPre level spot rest tree)
      (writeShape (options.withMaxDepth limit) row' inPre (level + 1) spot rest tree) := by
  cases tree with
  | leaf leaf =>
    simp only [writeShape, Options.withMaxDepth, herb]
    cases leaf with
    | text content => exact .ok (shifted_writeText _ _ _)
    | comment content =>
      rw [Shape.Movable] at ht
      exact .ok (shifted_commentBlock ht)
    | cdata content =>
      have hname : '\n' ∉ ':' :: Filter.cdata.name.toList := by decide
      exact .ok (.headed hname (shifted_textLines _ _ _))
    | doctype docName externalId systemId =>
      simp only [writeLeaf]
      cases hd : doctype (externalId.map String.toList) with
      | error failure =>
        rintro s ⟨⟩
      | ok line => exact .ok (.indented (newline_not_mem_doctype hd))
    | instruction content =>
      have hline : "!!! XML\n".toList = "!!! XML".toList ++ ['\n'] := by decide
      simp only [writeLeaf, hline, ← List.append_assoc]
      exact .ok (.indented (by decide))
  | branch kind children =>
    cases kind with
    | document | fragment => simp [Shape.Movable] at ht
    | element name attributes selfClosing =>
      rw [Shape.Movable] at ht
      obtain ⟨hn, hfilter, hc⟩ := ht
      have hmanner : manner false name attributes = .tag := by
        rw [manner, hfilter]
        rfl
      have hmanner' : manner (options.withMaxDepth limit).erb name attributes = .tag := by
        rw [← hmanner, ← herb]
        rfl
      rw [← herb] at hmanner
      simp only [writeShape, hmanner, hmanner']
      exact writeTag_follows herb hrow hn hc

/-- A row of trees is moved from any place on. -/
theorem writeFrom_follows (herb : options.erb = false) (hrow : RowMoves row row')
    (ht : Shape.AllMovable trees) :
    Follows Shifted (writeFrom options row inPre level spot trees)
      (writeFrom (options.withMaxDepth limit) row' inPre (level + 1) spot trees) := by
  induction trees generalizing spot with
  | nil => exact .ok .nil
  | cons tree rest ih =>
    rw [Shape.AllMovable] at ht
    have hnext : spot.next (options.withMaxDepth limit).erb tree rest =
        spot.next options.erb tree rest :=
      rfl
    have hfirst : Follows Shifted (writeNext options row inPre level spot rest tree)
        (writeNext (options.withMaxDepth limit) row' inPre (level + 1) spot rest tree) := by
      rw [writeNext, writeNext]
      split
      · exact writeShape_follows herb hrow ht.1
      · exact .ok .nil
    have hrest := @ih (spot.next options.erb tree rest) ht.2
    intro s hs
    obtain ⟨first, more, hw, hm, rfl⟩ := exists_of_writeFrom_cons hs
    obtain ⟨first', hfirst', hshift⟩ := hfirst first hw
    obtain ⟨more', hmore', hshift'⟩ := hrest more hm
    refine ⟨first' ++ more', ?_, hshift.append hshift'⟩
    rw [writeFrom, hfirst', hnext]
    simp only [hmore']
    rfl

/-- **A row of trees is moved as a whole.** -/
theorem writeRow_moves (herb : options.erb = false) (limit : Nat) (depth : Nat) :
    RowMoves (writeRow options depth) (writeRow (options.withMaxDepth limit) depth) := by
  induction depth with
  | zero =>
    intro inPre level trees _ s hs
    cases trees with
    | nil =>
      cases hs
      exact ⟨[], rfl, .nil⟩
    | cons tree rest => cases hs
  | succ depth ih =>
    intro inPre level trees ht
    exact writeFrom_follows herb ih ht

end Pieces

section Documents

variable {store nested : Store} {s : String}

/-- A row that is no single text stands below the header of its element. -/
theorem writeBody_eq_block (hsingle : ∀ content, trees ≠ [.leaf (.text content)]) :
    writeBody false row inPre name level trees =
      (row (name == "pre") (level + 1) trees).map ('\n' :: ·) := by
  rcases trees with _ | ⟨child, _ | ⟨second, more⟩⟩
  · rfl
  · rw [writeBody]
    cases child with
    | branch kind children => rfl
    | leaf leaf =>
      cases leaf with
      | text content => exact absurd rfl (hsingle content)
      | comment _ | cdata _ | doctype _ _ _ | instruction _ => rfl
  · rfl

/-- The header of an element without attributes is its name, with a slash if it closes itself. -/
theorem header_plain (style : AttributeStyle) (name : List Char) (selfClosing : Bool) :
    header style name (Shorthand.of (entries [] false)) false selfClosing =
      '%' :: name ++ (if selfClosing then ['/'] else []) := by
  cases selfClosing <;>
    simp [header, Shorthand.of, entries, staticValue?, withoutId, withClasses, elidesName]

/-- An element without attributes writes its name and then its row one level deeper. -/
theorem writeRow_plain {depth : Nat} {moved : List Char} (herb : options.erb = false)
    (hsingle : ∀ content, trees ≠ [.leaf (.text content)])
    (hname : name ≠ "pre" ∧ name ≠ "script" ∧ name ≠ "style")
    (hm : writeRow options depth false 1 trees = .ok moved) :
    writeRow options (depth + 1) false 0 [.branch (.element name [] false) trees] =
      .ok ('%' :: name.toList ++ '\n' :: moved) := by
  obtain ⟨hpre, hscript, hstyle⟩ := hname
  have hbeq : (name == "pre") = false := beq_false_of_ne hpre
  have hmanner : manner false name [] = .tag := by
    rw [manner, Filter.forElement?, if_neg hscript, if_neg hstyle]
    rfl
  have htie : tie true [] = .loose := rfl
  have htag : writeTag options (writeRow options depth) false true name [] false 0 trees [] =
      .ok ('%' :: name.toList ++ '\n' :: moved) := by
    simp only [writeTag, htie, herb, header_plain, writeBody_eq_block hsingle, hbeq, hm,
      Bool.false_eq_true, if_false, List.append_nil]
    rfl
  simp only [writeRow, writeFrom, writeNext, writeShape, if_true, herb, hmanner, htag]
  exact congrArg Except.ok (List.append_nil _)

/-- **What an element without attributes holds is written as it is written alone, one level deeper
and below the name of the element.** -/
theorem render_nested (h : store.Forest) (hnested : nested.Forest)
    (hs : store.Shows store.root (.branch .fragment trees))
    (hs' : nested.Shows nested.root (.branch .fragment [.branch (.element name [] false) trees]))
    (herb : options.erb = false) (hsingle : ∀ content, trees ≠ [.leaf (.text content)])
    (htrees : Shape.AllMovable trees)
    (hname : name ≠ "pre" ∧ name ≠ "script" ∧ name ≠ "style")
    (hr : render store options = .ok s) :
    ∃ moved, render nested (options.withMaxDepth (options.maxDepth + 1)) =
        .ok ("%" ++ name ++ "\n" ++ moved) ∧
      List.Forall₂ Deeper (splitLines s.toList) (splitLines moved.toList) := by
  rw [render_eq_writeRow h (Or.inr rfl) hs] at hr
  cases hw : writeRow options options.maxDepth false 0 trees with
  | error failure =>
    rw [hw] at hr
    cases hr
  | ok lines =>
    rw [hw] at hr
    cases hr
    obtain ⟨moved, hmoved, hshift⟩ := writeRow_moves herb (options.maxDepth + 1) options.maxDepth
      false 0 trees htrees lines hw
    have herb' : (options.withMaxDepth (options.maxDepth + 1)).erb = false := herb
    refine ⟨String.ofList moved, ?_, ?_⟩
    · rw [render_eq_writeRow hnested (Or.inr rfl) hs']
      change (writeRow _ (options.maxDepth + 1) false 0 _).map _ = _
      rw [writeRow_plain herb' hsingle hname hmoved]
      refine congrArg Except.ok (String.toList_inj.1 ?_)
      simp
    · rw [String.toList_ofList, String.toList_ofList]
      exact hshift.forall₂

/-- A paragraph with a word right after it and a text over two lines. -/
def paragraphs : List Shape :=
  [.leaf (.text "one "), .branch (.element "p" [] false) [.leaf (.text "two")],
    .leaf (.text "three\n four")]

/-- Paragraphs inside a section are written as the paragraphs alone, one level deeper. -/
theorem render_nested_paragraphs :
    render (Shape.build .fragment paragraphs) {} =
        .ok "one\n= succeed \"three\" do\n  %p two\nfour\n" ∧
      ∃ moved, render (Shape.build .fragment [.branch (.element "section" [] false) paragraphs])
          (Options.withMaxDepth {} 513) = .ok ("%" ++ "section" ++ "\n" ++ moved) ∧
        List.Forall₂ Deeper
          (splitLines "one\n= succeed \"three\" do\n  %p two\nfour\n".toList)
          (splitLines moved.toList) := by
  have hr : render (Shape.build .fragment paragraphs) {} =
      .ok "one\n= succeed \"three\" do\n  %p two\nfour\n" := by
    decide +kernel
  have hmovable : Shape.AllMovable paragraphs := by
    simp [paragraphs, Shape.AllMovable, Shape.Movable, Filter.forElement?]
  have hall := @render_nested {} paragraphs "section" (Shape.build .fragment paragraphs)
    (Shape.build .fragment [.branch (.element "section" [] false) paragraphs]) _
    (Store.forest_build _ _).1 (Store.forest_build _ _).1 (Store.shows_build _ rfl)
    (Store.shows_build _ rfl) rfl (by simp [paragraphs]) hmovable (by decide) hr
  exact ⟨hr, hall⟩

end Documents

end HtmlToHaml.Haml
