import HtmlToHaml.Haml.ScriptLines
import Mathlib.Data.List.Infix

/-!
# Aligned lines of script

A printed script over several lines is written as a block with bars in one column. The first line
stands behind an equal sign without its own indentation; every other one stands behind two spaces
and loses at most as many leading spaces and tabs as the last line is wide. So the code of the last
line stands right behind the two spaces, nothing but leading spaces and tabs is lost, and lines that
are indented by enough spaces keep their places relative to each other.
-/

namespace HtmlToHaml.Haml

open Text

variable {line : List Char} {lines : List (List Char)} {base place : Nat}

section Indentation

/-- The indentation of a line and what follows it. -/
theorem indentRun_append_dropWhile (line : List Char) :
    indentRun line ++ line.dropWhile isIndent = line :=
  List.takeWhile_append_dropWhile

/-- A line without all of its indentation. -/
theorem drop_length_indentRun (line : List Char) :
    line.drop (indentRun line).length = line.dropWhile isIndent := by
  have hdrop : (indentRun line ++ line.dropWhile isIndent).drop (indentRun line).length =
      line.dropWhile isIndent := List.drop_left
  rwa [indentRun_append_dropWhile] at hdrop

/-- A character of an indentation takes at least one column. -/
theorem length_indentRun_le (line : List Char) : (indentRun line).length ≤ indentWidth line := by
  rw [indentWidth]
  induction indentRun line with
  | nil => exact Nat.le_refl _
  | cons c run ih =>
    rw [List.length_cons, List.foldr_cons]
    have hcolumn : 1 ≤ if c = '\t' then tabWidth else 1 := by
      split <;> decide
    omega

/-- An indentation without tabs is as wide as it is long. -/
theorem indentWidth_of_not_mem (h : '\t' ∉ indentRun line) :
    indentWidth line = (indentRun line).length := by
  rw [indentWidth]
  generalize indentRun line = run at h
  induction run with
  | nil => rfl
  | cons c run ih =>
    rw [List.mem_cons, not_or] at h
    rw [List.foldr_cons, if_neg (Ne.symm h.1), ih h.2, List.length_cons, Nat.add_comm]

/-- A line that loses a part of its indentation begins with the other part. -/
theorem indentRun_drop {n : Nat} (h : n ≤ (indentRun line).length) :
    indentRun (line.drop n) = (indentRun line).drop n := by
  have hrest : (line.dropWhile isIndent).takeWhile isIndent = [] := by
    have hnot := List.head?_dropWhile_not isIndent line
    cases hd : line.dropWhile isIndent with
    | nil => rfl
    | cons c more =>
      rw [hd] at hnot
      exact List.takeWhile_cons_of_neg (by simpa using hnot)
  have hrun : ∀ c ∈ (indentRun line).drop n, isIndent c = true := fun c hc =>
    List.all_eq_true.1 List.all_takeWhile c (List.mem_of_mem_drop hc)
  conv_lhs => rw [← indentRun_append_dropWhile line, List.drop_append_of_le_length h]
  rw [indentRun, List.takeWhile_append_of_pos hrun, hrest, List.append_nil]

end Indentation

section Blocks

/-- There are as many aligned lines as lines. -/
theorem length_alignLoudLines (lines : List (List Char)) :
    (alignLoudLines lines).length = lines.length := by
  rw [alignLoudLines.eq_def]
  split
  · rfl
  · rfl
  · simp

/-- What stands in front of the code of a line. -/
def codeMark (place : Nat) : List Char :=
  if place = 0 then ['=', ' '] else [' ', ' ']

/-- The number of leading spaces and tabs that a line loses: the first line loses all of them, and
any other one at most a given number. -/
def lostIndent (base place : Nat) (line : List Char) : Nat :=
  if place = 0 then (indentRun line).length else min base (indentRun line).length

/-- A line of a block up to the last character of its code. -/
def alignedCode (base place : Nat) (line : List Char) : List Char :=
  codeMark place ++ line.drop (lostIndent base place line)

/-- The lines of a block up to the last characters of their code. -/
def blockCode (lines : List (List Char)) : List (List Char) :=
  lines.mapIdx (alignedCode (indentWidth (lines.getLastD [])))

/-- A line behind the first stands behind two spaces. -/
theorem alignedCode_succ (base place : Nat) (line : List Char) :
    alignedCode base (place + 1) line = ' ' :: ' ' :: dropIndent base line :=
  rfl

/-- The first line stands behind an equal sign. -/
theorem alignedCode_zero (base : Nat) (line : List Char) :
    alignedCode base 0 line = printedLine line := by
  have hcode : alignedCode base 0 line = '=' :: ' ' :: line.drop (indentRun line).length := rfl
  rw [hcode, drop_length_indentRun]
  rfl

/-- Lines are aligned as their code with bars behind it. -/
theorem alignLoudLines_eq (h : 2 ≤ lines.length) :
    alignLoudLines lines = (blockCode lines).map (withBar (maxLength (blockCode lines) + 1)) := by
  match lines, h with
  | first :: second :: more, _ =>
    have hlast : (first :: second :: more).getLastD [] = (second :: more).getLast (by simp) := by
      rw [List.getLastD_eq_getLast?, List.getLast?_cons_cons,
        List.getLast?_eq_some_getLast (by simp), Option.getD_some]
    have hcode : blockCode (first :: second :: more) =
        printedLine first :: (second :: more).map fun line =>
          ' ' :: ' ' :: dropIndent (indentWidth ((second :: more).getLast (by simp))) line := by
      rw [blockCode, hlast, List.mapIdx_cons, alignedCode_zero]
      congr 1
      apply List.ext_getElem?
      intro i
      rw [List.getElem?_mapIdx, List.getElem?_map]
      rfl
    rw [hcode]
    rfl

/-- Nothing that is left out shows. -/
theorem isIndent_of_mem_take {c : Char} (hc : c ∈ line.take (lostIndent base place line)) :
    isIndent c = true := by
  have hle : lostIndent base place line ≤ (indentRun line).length := by
    rw [lostIndent]
    split
    · exact Nat.le_refl _
    · exact Nat.min_le_right _ _
  have hrun : line.take (lostIndent base place line) <+: indentRun line :=
    List.prefix_of_prefix_length_le (List.take_prefix _ _) (List.takeWhile_prefix _)
      ((List.length_take_le _ _).trans hle)
  exact List.all_eq_true.1 List.all_takeWhile c (hrun.mem hc)

/-- No line is longer than the longest one. -/
theorem length_le_maxLength (h : line ∈ lines) : line.length ≤ maxLength lines := by
  have hstart : ∀ (lines : List (List Char)) (width : Nat),
      width ≤ lines.foldl (fun width line => max width line.length) width := by
    intro lines
    induction lines with
    | nil => exact fun width => Nat.le_refl width
    | cons first rest ih => exact fun width => (Nat.le_max_left _ _).trans (ih _)
  rw [maxLength]
  generalize 0 = width
  induction lines generalizing width with
  | nil => cases h
  | cons first rest ih =>
    rcases List.mem_cons.1 h with rfl | h
    · exact (Nat.le_max_right _ _).trans (hstart rest _)
    · exact ih h _

/-- A bar stands behind a space. -/
theorem exists_withBar {width : Nat} (h : line.length ≤ width) :
    ∃ padding, withBar (width + 1) line = line ++ (List.replicate (padding + 1) ' ' ++ ['|']) ∧
      line.length + padding = width := by
  refine ⟨width - line.length, ?_, by omega⟩
  have hpad : width + 1 - line.length = width - line.length + 1 := by omega
  rw [withBar, hpad, List.append_assoc]

/-- Code that is indented by enough spaces is moved by the same number of columns everywhere. -/
theorem indentWidth_alignedCode (hplace : 0 < place) (htab : '\t' ∉ indentRun line)
    (h : base ≤ (indentRun line).length) :
    indentWidth (alignedCode base place line) + base = indentWidth line + 2 := by
  obtain ⟨place, rfl⟩ := Nat.exists_eq_add_one.2 hplace
  have hrun : indentRun (alignedCode base (place + 1) line) =
      ' ' :: ' ' :: (indentRun line).drop base := by
    rw [alignedCode_succ, dropIndent, Nat.min_eq_left h, ← indentRun_drop h]
    rfl
  have htab' : '\t' ∉ indentRun (alignedCode base (place + 1) line) := by
    rw [hrun]
    simpa using fun hm => htab (List.mem_of_mem_drop hm)
  rw [indentWidth_of_not_mem htab', indentWidth_of_not_mem htab, hrun, List.length_cons,
    List.length_cons, List.length_drop]
  omega

/-- The code of the last line stands right behind the two spaces. -/
theorem alignedCode_last (hplace : 0 < place) (line : List Char) :
    alignedCode (indentWidth line) place line = ' ' :: ' ' :: line.dropWhile isIndent := by
  obtain ⟨place, rfl⟩ := Nat.exists_eq_add_one.2 hplace
  rw [alignedCode_succ, dropIndent, Nat.min_eq_right (length_indentRun_le line),
    drop_length_indentRun]

/-- What the lines of a block are made of, where `last` is the last line of the script. -/
structure IsBlock (lines : List (List Char)) (last : List Char) (written : List (List Char)) :
    Prop where
  /-- Every line of the script has a line. -/
  length : written.length = lines.length
  /-- The lines are equally long. -/
  column : ∃ width, ∀ line ∈ written, line.length = width
  /-- Every line ends in a bar behind a space. -/
  bar : ∀ line ∈ written, [' ', '|'] <:+ line
  /-- Nothing but spaces stands between the code of a line and its bar. -/
  code : ∀ place line, lines[place]? = some line → ∃ padding, written[place]? =
    some (alignedCode (indentWidth last) place line ++ (List.replicate (padding + 1) ' ' ++ ['|']))
  /-- A line loses nothing but spaces and tabs. -/
  lost : ∀ place (line : List Char), lines[place]? = some line →
    ∀ c ∈ line.take (lostIndent (indentWidth last) place line), c = ' ' ∨ c = '\t'
  /-- The code of the last line stands right behind two spaces. -/
  final : ∃ padding, written.getLast? =
    some (' ' :: ' ' :: last.dropWhile isIndent ++ (List.replicate (padding + 1) ' ' ++ ['|']))
  /-- Lines behind the first that are indented by enough spaces are all moved by the same number of
  columns. -/
  moved : ∀ place line, 0 < place → lines[place]? = some line → '\t' ∉ indentRun line →
    indentWidth last ≤ (indentRun line).length →
      indentWidth (alignedCode (indentWidth last) place line) + indentWidth last =
        indentWidth line + 2

end Blocks

/-- **The lines of a printed script stand in a block: their bars share a column, and no line loses
more than spaces and tabs in front of its code.** -/
theorem isBlock_alignLoudLines (h : 2 ≤ lines.length) :
    ∃ last, lines.getLast? = some last ∧ IsBlock lines last (alignLoudLines lines) := by
  have hne : lines ≠ [] := by
    rintro rfl
    simp at h
  obtain ⟨last, hlast⟩ : ∃ last, lines.getLast? = some last :=
    ⟨_, List.getLast?_eq_some_getLast hne⟩
  have hbase : lines.getLastD [] = last := by
    rw [List.getLastD_eq_getLast?, hlast, Option.getD_some]
  have hwritten : ∀ line ∈ alignLoudLines lines, ∃ code padding,
      line = code ++ (List.replicate (padding + 1) ' ' ++ ['|']) ∧
        code.length + padding = maxLength (blockCode lines) := by
    intro line hl
    rw [alignLoudLines_eq h] at hl
    obtain ⟨code, hc, rfl⟩ := List.mem_map.1 hl
    obtain ⟨padding, hbar, hwidth⟩ := exists_withBar (length_le_maxLength hc)
    exact ⟨code, padding, hbar, hwidth⟩
  have hcode : ∀ place line, lines[place]? = some line → ∃ padding, (alignLoudLines lines)[place]? =
      some (alignedCode (indentWidth last) place line ++
        (List.replicate (padding + 1) ' ' ++ ['|'])) := by
    intro place line hp
    have hblock : (blockCode lines)[place]? = some (alignedCode (indentWidth last) place line) := by
      rw [blockCode, List.getElem?_mapIdx, hp, hbase, Option.map_some]
    obtain ⟨padding, hbar, -⟩ := exists_withBar (length_le_maxLength (List.mem_of_getElem? hblock))
    refine ⟨padding, ?_⟩
    rw [alignLoudLines_eq h, List.getElem?_map, hblock, Option.map_some, hbar]
  have hlength : (alignLoudLines lines).length = lines.length := by
    rw [alignLoudLines_eq h, List.length_map, blockCode, List.length_mapIdx]
  refine ⟨last, hlast, hlength, ⟨maxLength (blockCode lines) + 2, fun line hl => ?_⟩,
    fun line hl => ?_, hcode, fun place line _ c hc => ?_, ?_, fun place line hp _ htab hrun => ?_⟩
  · obtain ⟨code, padding, rfl, hwidth⟩ := hwritten line hl
    simp only [List.length_append, List.length_replicate, List.length_singleton]
    omega
  · obtain ⟨code, padding, rfl, -⟩ := hwritten line hl
    refine ⟨code ++ List.replicate padding ' ', ?_⟩
    rw [List.replicate_succ']
    simp
  · simpa [isIndent] using isIndent_of_mem_take hc
  · rw [List.getLast?_eq_getElem?] at hlast
    obtain ⟨padding, hp⟩ := hcode _ _ hlast
    refine ⟨padding, ?_⟩
    rw [List.getLast?_eq_getElem?, hlength, hp, alignedCode_last (by omega)]
  · exact indentWidth_alignedCode hp htab hrun

/-- A script in which a tab of the last line takes as many columns as eight spaces of
the line before. -/
def tabbedScript : List (List Char) :=
  ["\ta +".toList, "            b +".toList, "\t c".toList]

/-- The block of a script with tabs. -/
theorem isBlock_alignLoudLines_tabbed :
    2 ≤ tabbedScript.length ∧ ∃ last, tabbedScript.getLast? = some last ∧
      IsBlock tabbedScript last ["= a +    |".toList, "     b + |".toList,
        "  c      |".toList] := by
  have hlong : 2 ≤ tabbedScript.length := by decide
  have hwritten : alignLoudLines tabbedScript =
      ["= a +    |".toList, "     b + |".toList, "  c      |".toList] := by
    decide
  have hblock := isBlock_alignLoudLines hlong
  rw [hwritten] at hblock
  exact ⟨hlong, hblock⟩

end HtmlToHaml.Haml
