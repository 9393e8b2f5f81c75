import HtmlToHaml.Proofs.Forest.Built
import HtmlToHaml.Proofs.Outline.Likeness

/-!
# Leaves that nothing looks past

What is written for a tree depends on its siblings: a text takes the scripts behind it, an element
looks at the text behind it, and a script at the script behind it. Neither looks past a comment, a
character data section, a document type or an instruction, and what stands behind such a leaf sees
the leaf and nothing in front of it. So the row can be cut there, and its parts can be written one
after the other.
-/

namespace HtmlToHaml.Haml

open Text DocTree

variable {options : Options} {row : WriteRow} {inPre glued : Bool} {level : Nat} {spot : Spot}
  {tree stop : Shape} {rest before after : List Shape} {barrier : Leaf}

section Looking

variable (hcontent : stop.content? = none)
include hcontent

/-- How an element stands to what is behind it does not depend on what is behind a tree that is no
text. -/
theorem tie_append : tie glued (rest ++ stop :: after) = tie glued rest := by
  cases rest with
  | nil => simp only [tie, List.nil_append, List.head?_cons, Option.bind_some, hcontent]; rfl
  | cons next more => rfl

variable (hloud : stop.isNamed "loud" = false)
include hloud

/-- The scripts that begin a row end at a tree that is neither a text nor a script. -/
theorem spliced_append : spliced (rest ++ stop :: after) = spliced rest ∧
    runLength (rest ++ stop :: after) = runLength rest := by
  have hstop : spliced (stop :: after) = [] ∧ runLength (stop :: after) = 0 :=
    spliced_of_not_loud fun tree ht => by
      obtain rfl := Option.mem_some_iff.1 ht
      exact hloud
  fun_induction runLength rest with
  | case1 => exact hstop
  | case2 marker hm => simp [spliced, runLength, hm, hcontent, hstop]
  | case3 marker hm => simp [spliced, runLength, hm]
  | case4 marker following rest hm text ht ih => simp [spliced, runLength, hm, ht, ih]
  | case5 marker following rest hm hno ih =>
    rw [List.cons_append] at ih
    simp [spliced, runLength, hm, hno, ih]
  | case6 marker following rest hm => simp [spliced, runLength, hm]

omit hcontent in
/-- A script over several lines that stands next is not behind a tree that is no script. -/
theorem separates_append : separates (rest ++ stop :: after) = separates rest := by
  cases rest with
  | nil => simp [separates, hloud]
  | cons next more => rfl

/-- What is written for a tree does not depend on what is behind a tree that is neither a text nor a
script. -/
theorem writeNext_append :
    writeNext options row inPre level spot (rest ++ stop :: after) tree =
      writeNext options row inPre level spot rest tree := by
  have htie : ∀ glued, tie glued (rest ++ stop :: after) = tie glued rest := fun _ =>
    tie_append hcontent
  have hspliced := (@spliced_append stop rest after hcontent hloud).1
  have hseparates := @separates_append stop rest after hloud
  rw [writeNext, writeNext]
  cases tree with
  | leaf content =>
    cases content with
    | text text => simp only [writeShape, writeLeaf, writeText, hspliced]
    | comment _ | cdata _ | doctype _ _ _ | instruction _ => rfl
  | branch kind children =>
    cases kind with
    | document | fragment => rfl
    | element name attributes selfClosing =>
      simp only [writeShape, writeTag, scriptLines, htie, hseparates]

/-- The place behind a tree does not depend on what is behind a tree that is neither a text nor a
script. -/
theorem Spot.next_append (erb : Bool) :
    spot.next erb tree (rest ++ stop :: after) = spot.next erb tree rest := by
  have hskip : spot.nextSkip erb tree (rest ++ stop :: after) = spot.nextSkip erb tree rest := by
    rw [Spot.nextSkip.eq_def, Spot.nextSkip.eq_def,
      (@spliced_append stop rest after hcontent hloud).2]
  have hheld : spot.nextHeld erb tree (rest ++ stop :: after) = spot.nextHeld erb tree rest := by
    rw [Spot.nextHeld.eq_def, Spot.nextHeld.eq_def, tie_append hcontent]
  simp only [Spot.next, hskip, hheld]

end Looking

section Cutting

/-- A run of scripts is no longer than the row it begins. -/
theorem runLength_le (trees : List Shape) : runLength trees ≤ trees.length := by
  fun_induction runLength trees <;> simp_all

/-- No more trees are written already than there are. -/
theorem Spot.nextSkip_le {erb : Bool} (hskip : spot.skip ≤ (tree :: rest).length) :
    (spot.next erb tree rest).skip ≤ rest.length := by
  change spot.nextSkip erb tree rest ≤ rest.length
  rw [Spot.nextSkip.eq_def]
  split
  · rename_i skip hs
    rw [hs] at hskip
    exact Nat.le_of_succ_le_succ hskip
  · split
    · split
      · exact runLength_le rest
      · exact Nat.zero_le _
    · exact Nat.zero_le _

variable (hbarrier : ∀ content, barrier ≠ .text content)
include hbarrier

/-- A leaf that is no text is written, and what is behind it is written, without regard to what is
in front of it. -/
theorem writeFrom_barrier (hskip : spot.skip = 0) (hheld : spot.held = none) :
    writeFrom options row inPre level spot (.leaf barrier :: after) =
      writeFrom options row inPre level {} (.leaf barrier :: after) := by
  have hfirst : writeNext options row inPre level spot after (.leaf barrier) =
      writeNext options row inPre level {} after (.leaf barrier) := by
    rw [writeNext, writeNext, if_pos hskip, if_pos rfl]
    cases barrier with
    | text content => exact absurd rfl (hbarrier content)
    | comment _ | cdata _ | doctype _ _ _ | instruction _ => rfl
  have hnext : spot.next options.erb (.leaf barrier) after =
      Spot.next {} options.erb (.leaf barrier) after := by
    cases barrier with
    | text content => exact absurd rfl (hbarrier content)
    | comment _ | cdata _ | doctype _ _ _ | instruction _ =>
      simp [Spot.next, Spot.text?, Spot.nextSkip, Spot.nextHeld, hskip, hheld, Shape.content?]
  rw [writeFrom, writeFrom, hfirst, hnext]

/-- **A row is written as its part in front of a leaf that is no text, and then as the part that
begins with the leaf.** -/
theorem writeFrom_append (hfits : spot.Fits before) (hskip : spot.skip ≤ before.length) :
    writeFrom options row inPre level spot (before ++ .leaf barrier :: after) = (do
      let first ← writeFrom options row inPre level spot before
      let more ← writeFrom options row inPre level {} (.leaf barrier :: after)
      .ok (first ++ more)) := by
  have hcontent : (Shape.leaf barrier).content? = none := by
    cases barrier with
    | text content => exact absurd rfl (hbarrier content)
    | comment _ | cdata _ | doctype _ _ _ | instruction _ => rfl
  induction before generalizing spot with
  | nil =>
    have hheld : spot.held = none := by
      cases hheld : spot.held with
      | none => rfl
      | some text =>
        obtain ⟨-, content, more, he⟩ := hfits text hheld
        cases he
    rw [List.nil_append, writeFrom_barrier hbarrier (Nat.le_zero.1 hskip) hheld]
    cases writeFrom options row inPre level {} (.leaf barrier :: after) <;> rfl
  | cons tree rest ih =>
    have hrest := @ih (spot.next options.erb tree rest) Spot.Fits.next (Spot.nextSkip_le hskip)
    generalize writeFrom options row inPre level {} (.leaf barrier :: after) = behind at hrest ⊢
    rw [List.cons_append, writeFrom, writeNext_append hcontent rfl, Spot.next_append hcontent rfl,
      hrest, writeFrom]
    cases writeNext options row inPre level spot rest tree with
    | error failure => rfl
    | ok first =>
      cases writeFrom options row inPre level (spot.next options.erb tree rest) rest with
      | error failure => rfl
      | ok more =>
        cases behind with
        | error failure => rfl
        | ok last => exact congrArg Except.ok (List.append_assoc ..).symm

/-- **A row of any depth can be cut in front of a leaf that is no text.** -/
theorem writeRow_append (depth : Nat) :
    writeRow options depth inPre level (before ++ .leaf barrier :: after) = (do
      let first ← writeRow options depth inPre level before
      let more ← writeRow options depth inPre level (.leaf barrier :: after)
      .ok (first ++ more)) := by
  cases depth with
  | zero =>
    cases before with
    | nil => rfl
    | cons tree rest => rfl
  | succ depth => exact writeFrom_append hbarrier (fun text ht => nomatch ht) (Nat.zero_le _)

end Cutting

/-- **Comments, character data sections, document types and instructions cut a document: what is in
front of them and what begins with them are rendered one after the other**, and the first of the two
that fails is what the whole fails for. -/
theorem render_append {whole front back : Store} {kind : Branch} (options : Options)
    (h : whole.Forest) (hfront : front.Forest) (hback : back.Forest)
    (hkind : kind = .document ∨ kind = .fragment)
    (hbarrier : ∀ content, barrier ≠ .text content)
    (hs : whole.Shows whole.root (.branch kind (before ++ .leaf barrier :: after)))
    (hs' : front.Shows front.root (.branch kind before))
    (hs'' : back.Shows back.root (.branch kind (.leaf barrier :: after))) :
    render whole options = (do
      let first ← render front options
      let more ← render back options
      .ok (first ++ more)) := by
  rw [render_eq_writeRow h hkind hs, render_eq_writeRow hfront hkind hs',
    render_eq_writeRow hback hkind hs'', writeRow_append hbarrier]
  cases writeRow options options.maxDepth false 0 before with
  | error failure => rfl
  | ok first =>
    cases writeRow options options.maxDepth false 0 (.leaf barrier :: after) with
    | error failure => rfl
    | ok more => exact congrArg Except.ok String.ofList_append

/-- A text with a script behind it. -/
def beforeComment : List Shape :=
  [.leaf (.text "one"), .branch (.element "loud" [] false) [.leaf (.text "x")]]

/-- A script with a text behind it. -/
def afterComment : List Shape :=
  [.branch (.element "loud" [] false) [.leaf (.text "y")], .leaf (.text "two")]

/-- A text takes the script in front of a comment and leaves the one behind it. -/
theorem render_append_comment :
    render (Shape.build .fragment (beforeComment ++ .leaf (.comment "c") :: afterComment))
        { erb := true } = (do
      let first ← render (Shape.build .fragment beforeComment) { erb := true }
      let more ← render (Shape.build .fragment (.leaf (.comment "c") :: afterComment))
        { erb := true }
      .ok (first ++ more)) ∧
    render (Shape.build .fragment beforeComment) { erb := true } = .ok "one\x23\x7bx\x7d\n" ∧
    render (Shape.build .fragment (.leaf (.comment "c") :: afterComment)) { erb := true } =
      .ok "/ c\n= y\ntwo\n" := by
  have hall := @render_append beforeComment afterComment (.comment "c")
    (Shape.build .fragment (beforeComment ++ .leaf (.comment "c") :: afterComment))
    (Shape.build .fragment beforeComment)
    (Shape.build .fragment (.leaf (.comment "c") :: afterComment)) .fragment { erb := true }
    (Store.forest_build _ _).1 (Store.forest_build _ _).1 (Store.forest_build _ _).1 (Or.inr rfl)
    (by simp) (Store.shows_build _ rfl) (Store.shows_build _ rfl) (Store.shows_build _ rfl)
  exact ⟨hall, by decide +kernel, by decide +kernel⟩

end HtmlToHaml.Haml
