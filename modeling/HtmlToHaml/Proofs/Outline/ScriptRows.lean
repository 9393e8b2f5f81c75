import HtmlToHaml.Proofs.Forest.Built
import HtmlToHaml.Proofs.Haml.AlignedLines
import HtmlToHaml.Proofs.Haml.Shift
import HtmlToHaml.Proofs.Outline.Passage
import HtmlToHaml.Proofs.Text.Lines

/-!
# Scripts over several lines in a row

Every line of a printed script over several lines ends in a bar, so two of them in a row are one
script to Haml unless another line stands between them. The main statement says when one does: the
second script has to follow at once, not behind white space, and its source has to hold several
lines as it is written, before references are replaced.
-/

namespace HtmlToHaml.Haml

open Text DocTree

variable {options : Options} {row : WriteRow} {inPre : Bool} {level : Nat} {spot : Spot}
  {tree marker next : Shape} {trees blanks after : List Shape} {s line : List Char}
  {lines : List (List Char)}

section Lines

/-- A line ends in a bar. -/
def EndsInBar (line : List Char) : Prop :=
  line.getLast? = some '|'

/-- Lines that are aligned end in bars if there is more than one. -/
theorem endsInBar_alignLoudLines (h : 1 < lines.length) :
    ∀ line ∈ alignLoudLines lines, EndsInBar line := by
  match lines, h with
  | first :: second :: more, _ =>
    intro line hm
    rw [alignLoudLines] at hm
    obtain ⟨bare, -, rfl⟩ := List.mem_map.1 hm
    rw [EndsInBar, withBar, List.getLast?_concat]

/-- A bar brings no line feed into a line. -/
theorem newline_not_mem_withBar (hn : '\n' ∉ line) (width : Nat) : '\n' ∉ withBar width line := by
  simp [withBar, hn]

/-- The first line of a printed script is one line. -/
theorem newline_not_mem_printedLine (hn : '\n' ∉ line) : '\n' ∉ printedLine line := by
  have hdrop : '\n' ∉ line.dropWhile isIndent :=
    fun h => hn ((List.dropWhile_suffix isIndent).subset h)
  simp [printedLine, hdrop]

/-- Aligned lines are lines. -/
theorem newline_not_mem_alignLoudLines (hn : ∀ line ∈ lines, '\n' ∉ line) :
    ∀ line ∈ alignLoudLines lines, '\n' ∉ line := by
  rw [alignLoudLines.eq_def]
  split
  · simp
  · rename_i only
    simpa using newline_not_mem_printedLine (hn only (by simp))
  · rename_i first second more
    intro line hm
    obtain ⟨bare, hbare, rfl⟩ := List.mem_map.1 hm
    refine newline_not_mem_withBar ?_ _
    rcases List.mem_cons.1 hbare with rfl | hbare
    · exact newline_not_mem_printedLine (hn first (by simp))
    · obtain ⟨source, hsource, rfl⟩ := List.mem_map.1 hbare
      have hdrop : ∀ width, '\n' ∉ dropIndent width source := fun width h =>
        hn source (List.mem_cons_of_mem _ hsource) (List.mem_of_mem_drop h)
      simp [hdrop]

/-- The lines of a script are lines. -/
theorem newline_not_mem_loudSourceLines (s : List Char) :
    ∀ line ∈ loudSourceLines s, '\n' ∉ line := by
  intro line hm
  obtain ⟨source, hsource, rfl⟩ := List.mem_map.1 (List.mem_filter.1 hm).1
  exact fun h => newline_not_mem_of_mem_splitLines hsource
    ((trimEndBy_isPrefix isSpace source).subset h)

/-- Lines that are ended by line feeds are read back. -/
theorem splitLines_indentedLines (hn : ∀ line ∈ lines, '\n' ∉ line) :
    splitLines (indentedLines 0 lines) = lines ++ [[]] := by
  have hlines : indentedLines 0 lines = unlines lines := by
    simp [indentedLines, indentation, unlines]
  rw [hlines, splitLines_unlines hn]

end Lines

section Rows

/-- A printed script over several lines. -/
def IsLongScript (tree : Shape) : Prop :=
  tree.isNamed "loud" = true ∧ 1 < (loudSourceLines tree.innerText).length

/-- A text that is nothing but white space. -/
def IsBlankText (tree : Shape) : Prop :=
  ∃ text, tree.content? = some text ∧ isBlank text = true

/-- The lines of a script without the line that may stand behind them. -/
def scriptBlock (tree : Shape) : List (List Char) :=
  alignLoudLines (loudSourceLines tree.innerText)

/-- The line between two scripts, if there is one. -/
def separator (blanks : List Shape) (next : Shape) : List (List Char) :=
  if blanks.isEmpty && isMultiline next.innerText then [['-', '#']] else []

/-- The lines of a tree of a row of scripts. -/
def pieceLines (tree : Shape) (rest : List Shape) : List (List Char) :=
  if tree.isNamed "loud" then scriptLines false tree.innerText rest else []

/-- The lines of a row of scripts. -/
def scriptRow : List Shape → List (List Char)
  | [] => []
  | tree :: rest => pieceLines tree rest ++ scriptRow rest

/-- A long script is an element. -/
theorem IsLongScript.exists_element (h : IsLongScript tree) :
    ∃ attributes selfClosing children,
      tree = .branch (.element "loud" attributes selfClosing) children := by
  cases tree with
  | leaf content => cases h.1
  | branch kind children =>
    cases kind with
    | document | fragment => cases h.1
    | element name attributes selfClosing =>
      have hn : name = "loud" := by simpa [Shape.isNamed] using h.1
      exact ⟨attributes, selfClosing, children, by rw [hn]⟩

/-- A blank text is no script. -/
theorem IsBlankText.isNamed (h : IsBlankText tree) : tree.isNamed "loud" = false := by
  obtain ⟨text, ht, -⟩ := h
  obtain ⟨content, rfl, -⟩ := Shape.exists_of_content? ht
  rfl

/-- A long script is written as its lines, and nothing is left to do behind it. -/
theorem IsLongScript.writeNext (h : IsLongScript tree) (herb : options.erb = true)
    (hskip : spot.skip = 0) :
    writeNext options row inPre level spot trees tree =
        .ok (indentedLines level (scriptLines false tree.innerText trees)) ∧
      (spot.next options.erb tree trees).skip = 0 ∧
      (spot.next options.erb tree trees).held = none := by
  obtain ⟨attributes, selfClosing, children, rfl⟩ := h.exists_element
  have hm : manner options.erb "loud" attributes = .script false := by
    simp [manner, Filter.forElement?, herb]
  refine ⟨?_, ?_, ?_⟩
  · rw [Haml.writeNext, if_pos hskip, writeShape, hm]
    rfl
  · simp [Spot.next, Spot.nextSkip, hskip]
  · simp [Spot.next, Spot.nextHeld, hskip, hm]

/-- A blank text is written as nothing, and nothing is left to do behind it. -/
theorem IsBlankText.writeNext (h : IsBlankText tree) (hskip : spot.skip = 0)
    (hheld : spot.held = none) :
    writeNext options row inPre level spot trees tree = .ok [] ∧
      (spot.next options.erb tree trees).skip = 0 ∧
      (spot.next options.erb tree trees).held = none := by
  obtain ⟨text, ht, hb⟩ := h
  obtain ⟨content, rfl, rfl⟩ := Shape.exists_of_content? ht
  refine ⟨?_, ?_, ?_⟩
  · rw [Haml.writeNext, if_pos hskip, writeShape, writeLeaf, hheld, Option.getD_none, writeText,
      if_pos hb]
  · simp [Spot.next, Spot.nextSkip, hskip, hheld, hb]
  · simp [Spot.next, Spot.nextHeld, hskip]

/-- A row of long scripts and blank texts is written as the lines of its scripts. -/
theorem writeFrom_scripts (herb : options.erb = true)
    (hrow : ∀ tree ∈ trees, IsLongScript tree ∨ IsBlankText tree) (hskip : spot.skip = 0)
    (hheld : spot.held = none) :
    writeFrom options row inPre level spot trees = .ok (indentedLines level (scriptRow trees)) := by
  induction trees generalizing spot with
  | nil => rfl
  | cons tree rest ih =>
    obtain ⟨htree, hrest⟩ := List.forall_mem_cons.1 hrow
    obtain ⟨hfirst, hnext, hleft⟩ :
        writeNext options row inPre level spot rest tree =
            .ok (indentedLines level (pieceLines tree rest)) ∧
          (spot.next options.erb tree rest).skip = 0 ∧
          (spot.next options.erb tree rest).held = none := by
      rcases htree with htree | htree
      · rw [pieceLines, if_pos htree.1]
        exact htree.writeNext herb hskip
      · rw [pieceLines, htree.isNamed, if_neg Bool.false_ne_true]
        exact htree.writeNext hskip hheld
    have hlines : indentedLines level (pieceLines tree rest) ++
        indentedLines level (scriptRow rest) = indentedLines level (scriptRow (tree :: rest)) :=
      List.flatMap_append.symm
    rw [writeFrom, hfirst, ih hrest hnext hleft, ← hlines]
    rfl

/-- The lines of a row of scripts are lines. -/
theorem newline_not_mem_scriptRow (trees : List Shape) : ∀ line ∈ scriptRow trees, '\n' ∉ line := by
  induction trees with
  | nil => simp [scriptRow]
  | cons tree rest ih =>
    rw [scriptRow, List.forall_mem_append, pieceLines]
    refine ⟨?_, ih⟩
    split
    · have hblock : ∀ line ∈ scriptBlock tree, '\n' ∉ line :=
        newline_not_mem_alignLoudLines (newline_not_mem_loudSourceLines _)
      rw [scriptLines, if_neg Bool.false_ne_true, List.forall_mem_append]
      refine ⟨hblock, ?_⟩
      split <;> simp
    · simp

/-- The lines of a row end with those of each of its ends. -/
theorem exists_scriptRow_append (before rest : List Shape) :
    ∃ front, scriptRow (before ++ rest) = front ++ scriptRow rest := by
  induction before with
  | nil => exact ⟨[], rfl⟩
  | cons tree before ih =>
    obtain ⟨front, hfront⟩ := ih
    rw [List.cons_append, scriptRow, hfront, ← List.append_assoc]
    exact ⟨_, rfl⟩

/-- Blank texts have no lines. -/
theorem scriptRow_blanks (hblanks : ∀ tree ∈ blanks, IsBlankText tree) (rest : List Shape) :
    scriptRow (blanks ++ rest) = scriptRow rest := by
  induction blanks with
  | nil => rfl
  | cons tree blanks ih =>
    obtain ⟨htree, hblanks⟩ := List.forall_mem_cons.1 hblanks
    rw [List.cons_append, scriptRow, pieceLines, htree.isNamed, if_neg Bool.false_ne_true,
      ih hblanks]
    rfl

/-- A line is put behind a script exactly if the next one follows at once and has several lines as
it is written. -/
theorem separates_eq (hblanks : ∀ tree ∈ blanks, IsBlankText tree)
    (hnext : next.isNamed "loud" = true) :
    separates (blanks ++ next :: after) = (blanks.isEmpty && isMultiline next.innerText) := by
  cases blanks with
  | nil => simp [separates, hnext]
  | cons tree blanks => simp [separates, (hblanks tree List.mem_cons_self).isNamed]

/-- A long script is written as its block, the line behind it and what follows. -/
theorem scriptRow_cons (hmarker : IsLongScript marker) (hblanks : ∀ tree ∈ blanks, IsBlankText tree)
    (hnext : next.isNamed "loud" = true) :
    scriptRow (marker :: blanks ++ next :: after) =
      scriptBlock marker ++ separator blanks next ++ scriptRow (next :: after) := by
  have hlong : decide (1 < (loudSourceLines marker.innerText).length) = true :=
    decide_eq_true hmarker.2
  have hlines : scriptLines false marker.innerText (blanks ++ next :: after) =
      scriptBlock marker ++ separator blanks next := by
    simp only [scriptLines, Bool.false_eq_true, if_false, hlong, Bool.true_and,
      separates_eq hblanks hnext]
    rfl
  rw [List.cons_append, scriptRow, pieceLines, if_pos hmarker.1, hlines, scriptRow_blanks hblanks]

/-- A block has a line at least, and all its lines end in bars. -/
theorem IsLongScript.block (h : IsLongScript tree) :
    scriptBlock tree ≠ [] ∧ ∀ line ∈ scriptBlock tree, EndsInBar line := by
  refine ⟨fun hnil => ?_, endsInBar_alignLoudLines h.2⟩
  have hlength := length_alignLoudLines (loudSourceLines tree.innerText)
  rw [← scriptBlock, hnil] at hlength
  have hlong := h.2
  rw [← hlength] at hlong
  exact Nat.not_lt_zero _ hlong

/-- A line between two scripts is none of theirs. -/
theorem exists_separator_iff (blanks : List Shape) (next : Shape) :
    (∃ line ∈ separator blanks next, ¬ EndsInBar line) ↔
      blanks = [] ∧ isMultiline next.innerText = true := by
  rw [separator]
  split
  · rename_i h
    simpa [EndsInBar] using h
  · rename_i h
    simpa using h

/-- **Between the blocks of two scripts in a row there is a line that does not end in a bar exactly
if the second one follows at once and has several lines as it is written.** -/
theorem render_scripts {store : Store} (h : store.Forest) (herb : options.erb = true)
    (hdepth : 0 < options.maxDepth) (hs : store.Shows store.root (.branch .fragment trees))
    (hrow : ∀ tree ∈ trees, IsLongScript tree ∨ IsBlankText tree) :
    ∃ text, render store options = .ok (String.ofList text) ∧
      splitLines text = scriptRow trees ++ [[]] ∧
      ∀ before marker blanks next after, trees = before ++ (marker :: blanks ++ next :: after) →
        IsLongScript marker → (∀ tree ∈ blanks, IsBlankText tree) → IsLongScript next →
          ∃ front back,
            scriptRow trees = front ++ (scriptBlock marker ++ separator blanks next ++
              scriptRow (next :: after)) ∧
            scriptRow (next :: after) = scriptBlock next ++ back ∧
            (scriptBlock marker ≠ [] ∧ ∀ line ∈ scriptBlock marker, EndsInBar line) ∧
            (scriptBlock next ≠ [] ∧ ∀ line ∈ scriptBlock next, EndsInBar line) ∧
            ((∃ line ∈ separator blanks next, ¬ EndsInBar line) ↔
              blanks = [] ∧ isMultiline next.innerText = true) := by
  obtain ⟨depth, hdepth⟩ : ∃ depth, options.maxDepth = depth + 1 := Nat.exists_eq_add_one.2 hdepth
  have hwritten : writeRow options options.maxDepth false 0 trees =
      .ok (indentedLines 0 (scriptRow trees)) := by
    rw [hdepth]
    exact writeFrom_scripts herb hrow rfl rfl
  refine ⟨indentedLines 0 (scriptRow trees), ?_, ?_, ?_⟩
  · rw [render_eq_writeRow h (Or.inr rfl) hs, hwritten]
    rfl
  · exact splitLines_indentedLines (newline_not_mem_scriptRow trees)
  · rintro before marker blanks next after rfl hmarker hblanks hnext
    obtain ⟨front, hfront⟩ := exists_scriptRow_append before (marker :: blanks ++ next :: after)
    have hback : ∃ back, scriptRow (next :: after) = scriptBlock next ++ back := by
      rw [scriptRow, pieceLines, if_pos hnext.1, scriptLines, if_neg Bool.false_ne_true,
        List.append_assoc]
      exact ⟨_, rfl⟩
    obtain ⟨back, hback⟩ := hback
    rw [scriptRow_cons hmarker hblanks hnext.1] at hfront
    exact ⟨front, back, hfront, hback, hmarker.block, hnext.block, exists_separator_iff blanks next⟩

/-- A printed script with a source. -/
def printedScript (source : String) : Shape :=
  .branch (.element "loud" [] false) [.leaf (.text source)]

/-- Two scripts over two lines, one right behind the other, are written with a line between them. -/
theorem render_scripts_adjacent :
    render (Shape.build .fragment [printedScript "a\nb", printedScript "c\nd"]) { erb := true } =
        .ok "= a |\n  b |\n-#\n= c |\n  d |\n" ∧
      ∃ line ∈ separator [] (printedScript "c\nd"), ¬ EndsInBar line := by
  have hfirst : IsLongScript (printedScript "a\nb") := ⟨rfl, by decide +kernel⟩
  have hsecond : IsLongScript (printedScript "c\nd") := ⟨rfl, by decide +kernel⟩
  have hrow : ∀ tree ∈ [printedScript "a\nb", printedScript "c\nd"],
      IsLongScript tree ∨ IsBlankText tree := by
    simp [hfirst, hsecond]
  obtain ⟨text, -, -, hall⟩ := @render_scripts { erb := true } _ _ (Store.forest_build _ _).1 rfl
    (by decide) (Store.shows_build .fragment rfl) hrow
  obtain ⟨front, back, -, -, -, -, hiff⟩ :=
    hall [] (printedScript "a\nb") [] (printedScript "c\nd") [] rfl hfirst (by simp) hsecond
  exact ⟨by decide +kernel, hiff.2 ⟨rfl, by decide +kernel⟩⟩

/-- Between the blocks of two scripts in a row there always is a line that does not end in a bar. -/
def Separated (trees : List Shape) (lines : List (List Char)) : Prop :=
  ∀ before marker blanks next after, trees = before ++ (marker :: blanks ++ next :: after) →
    IsLongScript marker → (∀ tree ∈ blanks, IsBlankText tree) → IsLongScript next →
      ∃ front between back,
        lines = front ++ scriptBlock marker ++ between ++ (scriptBlock next ++ back) ∧
        ∃ line ∈ between, ¬ EndsInBar line

/-- Two scripts are not separated if all lines of both end in bars. -/
theorem not_separated (hmarker : IsLongScript marker) (hblanks : ∀ tree ∈ blanks, IsBlankText tree)
    (hnext : IsLongScript next) (hbars : ∀ line ∈ lines, EndsInBar line) :
    ¬ Separated (marker :: blanks ++ [next]) (lines ++ [[]]) := by
  intro hall
  obtain ⟨front, between, back, hlines, line, hm, hbar⟩ :=
    hall [] marker blanks next [] rfl hmarker hblanks hnext
  have hne : scriptBlock next ++ back ≠ [] := by simp [hnext.block.1]
  have hfront := congrArg List.dropLast hlines
  rw [List.dropLast_concat, List.dropLast_append_of_ne_nil hne] at hfront
  exact hbar (hbars line (by simp [hfront, hm]))

/-- Two scripts run together behind white space, and also if the second one has its line break as a
reference. -/
theorem not_render_separated :
    (render (Shape.build .fragment [printedScript "a\nb", printedScript "c&#10;d"])
          { erb := true } = .ok "= a |\n  b |\n= c |\n  d |\n" ∧
        IsLongScript (printedScript "a\nb") ∧ IsLongScript (printedScript "c&#10;d") ∧
        ¬ Separated [printedScript "a\nb", printedScript "c&#10;d"]
          (splitLines "= a |\n  b |\n= c |\n  d |\n".toList)) ∧
      (render (Shape.build .fragment
          [printedScript "a\nb", .leaf (.text " "), printedScript "c\nd"])
          { erb := true } = .ok "= a |\n  b |\n= c |\n  d |\n" ∧
        IsLongScript (printedScript "a\nb") ∧ IsBlankText (.leaf (.text " ")) ∧
        IsLongScript (printedScript "c\nd") ∧
        ¬ Separated [printedScript "a\nb", .leaf (.text " "), printedScript "c\nd"]
          (splitLines "= a |\n  b |\n= c |\n  d |\n".toList)) := by
  have hfirst : IsLongScript (printedScript "a\nb") := ⟨rfl, by decide +kernel⟩
  have hwritten : IsLongScript (printedScript "c\nd") := ⟨rfl, by decide +kernel⟩
  have hreferred : IsLongScript (printedScript "c&#10;d") := ⟨rfl, by decide +kernel⟩
  have hblank : IsBlankText (.leaf (.text " ")) := ⟨[' '], rfl, by decide⟩
  have hbars : ∀ line ∈ ["= a |".toList, "  b |".toList, "= c |".toList, "  d |".toList],
      EndsInBar line := by
    simp [EndsInBar]
  have hlines : splitLines "= a |\n  b |\n= c |\n  d |\n".toList =
      ["= a |".toList, "  b |".toList, "= c |".toList, "  d |".toList] ++ [[]] := by
    decide +kernel
  have hnone : ∀ tree ∈ ([] : List Shape), IsBlankText tree := by simp
  have hspace : ∀ tree ∈ [Shape.leaf (.text " ")], IsBlankText tree := by simpa using hblank
  rw [hlines]
  refine ⟨⟨by decide +kernel, hfirst, hreferred, ?_⟩, by decide +kernel, hfirst, hblank,
    hwritten, ?_⟩
  · exact not_separated hfirst hnone hreferred hbars
  · exact not_separated hfirst hspace hwritten hbars

end Rows

end HtmlToHaml.Haml
