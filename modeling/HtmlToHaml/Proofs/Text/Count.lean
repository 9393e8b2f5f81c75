import HtmlToHaml.Text.Lines
import HtmlToHaml.Text.Search
import HtmlToHaml.Text.Space

/-!
# Counting a character

How often a character occurs in a text is not changed by cutting the text into lines or words, by
trimming it and by leaving out blank lines, as long as the character is none of those that are cut
off. Lines are counted as the text they make up together.
-/

namespace HtmlToHaml.Text

variable {c : Char} {p : Char → Bool} {s : List Char} {lines : List (List Char)}

section Ends

/-- Dropping characters of a class keeps the others. -/
theorem count_dropWhile (hc : p c = false) : (s.dropWhile p).count c = s.count c := by
  induction s with
  | nil => rfl
  | cons d s ih =>
    rw [List.dropWhile_cons]
    split
    · rename_i hd
      have hne : d ≠ c := by
        rintro rfl
        rw [hc] at hd
        cases hd
      rw [ih, List.count_cons_of_ne hne]
    · rfl

/-- Trimming at the start keeps the other characters. -/
theorem count_trimStartBy (hc : p c = false) : (trimStartBy p s).count c = s.count c :=
  count_dropWhile hc

/-- Trimming at the end keeps the other characters. -/
theorem count_trimEndBy (hc : p c = false) : (trimEndBy p s).count c = s.count c := by
  rw [trimEndBy, List.count_reverse, count_dropWhile hc, List.count_reverse]

/-- Trimming keeps the other characters. -/
theorem count_trimBy (hc : p c = false) : (trimBy p s).count c = s.count c := by
  rw [trimBy, count_trimEndBy hc, count_trimStartBy hc]

/-- Trimming keeps what is no white space. -/
theorem count_trim (hc : isSpace c = false) : (trim s).count c = s.count c :=
  count_trimBy hc

/-- What is left of a trimmed text was in it. -/
theorem mem_of_mem_trimBy (h : c ∈ trimBy p s) : c ∈ s :=
  (trimStartBy_isSuffix p s).mem ((trimEndBy_isPrefix p _).mem h)

/-- What is no white space is no ASCII white space. -/
theorem isAsciiSpace_eq_false (hc : isSpace c = false) : isAsciiSpace c = false := by
  rw [Bool.eq_false_iff]
  intro h
  rw [isSpace_of_isAsciiSpace h] at hc
  cases hc

/-- What is no white space indents no line. -/
theorem isIndent_eq_false (hc : isSpace c = false) : isIndent c = false := by
  rw [Bool.eq_false_iff]
  intro h
  rw [isIndent, Bool.or_eq_true, beq_iff_eq, beq_iff_eq] at h
  rcases h with rfl | rfl
  · exact absurd hc (by decide)
  · exact absurd hc (by decide)

/-- What is no white space is no line feed. -/
theorem ne_newline (hc : isSpace c = false) : c ≠ '\n' := by
  rintro rfl
  exact absurd hc (by decide)

/-- A text of characters of a class holds no others. -/
theorem count_eq_zero_of_all (hc : p c = false) (hs : s.all p = true) : s.count c = 0 := by
  rw [List.count_eq_zero]
  intro hm
  rw [List.all_eq_true.1 hs c hm] at hc
  cases hc

/-- A blank text holds nothing but white space. -/
theorem count_of_isBlank (hc : isSpace c = false) (hs : isBlank s = true) : s.count c = 0 :=
  count_eq_zero_of_all hc hs

end Ends

section Pieces

variable {α : Type} {f g : α → List Char} {parts : List α}

/-- Texts that are changed one by one without the character are changed together without it. -/
theorem count_flatMap_congr (h : ∀ part ∈ parts, (f part).count c = (g part).count c) :
    (parts.flatMap f).count c = (parts.flatMap g).count c := by
  induction parts with
  | nil => rfl
  | cons part rest ih =>
    rw [List.flatMap_cons, List.flatMap_cons, List.count_append, List.count_append,
      h part (by simp), ih fun part hm => h part (List.mem_cons_of_mem _ hm)]

/-- Texts that are left out without the character are not missed. -/
theorem count_flatMap_filter {q : α → Bool}
    (h : ∀ part ∈ parts, q part = false → (f part).count c = 0) :
    ((parts.filter q).flatMap f).count c = (parts.flatMap f).count c := by
  induction parts with
  | nil => rfl
  | cons part rest ih =>
    have hrest := ih fun part hm => h part (List.mem_cons_of_mem _ hm)
    rw [List.filter_cons, List.flatMap_cons, List.count_append]
    split
    · rw [List.flatMap_cons, List.count_append, hrest]
    · rename_i hq
      rw [h part (by simp) (by simpa using hq), Nat.zero_add, hrest]

/-- Lines that are changed one by one without the character. -/
theorem count_flatten_map {f : List Char → List Char}
    (h : ∀ line ∈ lines, (f line).count c = line.count c) :
    (lines.map f).flatten.count c = lines.flatten.count c := by
  rw [← List.flatMap_def, ← List.flatMap_id]
  exact count_flatMap_congr h

/-- Lines that are left out without the character. -/
theorem count_flatten_filter {q : List Char → Bool}
    (h : ∀ line ∈ lines, q line = false → line.count c = 0) :
    (lines.filter q).flatten.count c = lines.flatten.count c := by
  rw [← List.flatMap_id, ← List.flatMap_id]
  exact count_flatMap_filter h

/-- Cutting a text at characters of a class keeps the others. -/
theorem count_splitOnP (hc : p c = false) : (s.splitOnP p).flatten.count c = s.count c := by
  induction s with
  | nil => rfl
  | cons d s ih =>
    rw [List.splitOnP_cons_eq_if_modifyHead]
    split
    · rename_i hd
      have hne : d ≠ c := by
        rintro rfl
        rw [hc] at hd
        cases hd
      rw [List.flatten_cons, List.nil_append, ih, List.count_cons_of_ne hne]
    · cases hs : s.splitOnP p with
      | nil => exact absurd hs (List.splitOnP_ne_nil _ _)
      | cons first more =>
        rw [hs] at ih
        rw [List.modifyHead_cons, List.flatten_cons, List.cons_append, List.count_cons,
          ← List.flatten_cons, ih, List.count_cons]

/-- Lines make up their text. -/
theorem count_splitLines (hc : c ≠ '\n') : (splitLines s).flatten.count c = s.count c := by
  rw [splitLines, List.splitOn_eq_splitOnP]
  exact count_splitOnP (beq_false_of_ne hc)

/-- Words make up their text. -/
theorem count_words (hc : isSpace c = false) : (words s).flatten.count c = s.count c := by
  rw [words, count_flatten_filter, count_splitOnP hc]
  intro word _ hw
  have he : word.isEmpty = true := by simpa using hw
  rw [List.isEmpty_iff.1 he, List.count_nil]

/-- Lines that are ended by line feeds make up their text. -/
theorem count_unlines (hc : c ≠ '\n') : (unlines lines).count c = lines.flatten.count c := by
  rw [unlines, ← List.flatMap_id]
  apply count_flatMap_congr
  intro line _
  simp [List.count_append, List.count_cons_of_ne hc.symm]

/-- Lines of content make up their text but for carriage returns. -/
theorem count_contentLines (hc : isSpace c = false) :
    (contentLines s).flatten.count c = s.count c := by
  have hreturn : c ≠ '\r' := by
    rintro rfl
    exact absurd hc (by decide)
  have hline : ∀ line : List Char, (dropCarriageReturn line).count c = line.count c := by
    intro line
    rw [dropCarriageReturn]
    split
    · rename_i hlast
      obtain ⟨start, rfl⟩ := List.getLast?_eq_some_iff.1 hlast
      simp [List.count_append, List.count_cons_of_ne hreturn.symm]
    · rfl
  have hpieces : ∀ pieces : List (List Char),
      (endedLines pieces).flatten.count c = pieces.flatten.count c := by
    intro pieces
    induction pieces with
    | nil => rfl
    | cons piece rest ih =>
      cases rest with
      | nil =>
        rw [endedLines]
        split
        · rename_i he
          simp [List.isEmpty_iff.1 he]
        · rfl
      | cons next rest =>
        rw [List.flatten_cons, List.count_append, ← ih, ← hline piece, ← List.count_append,
          ← List.flatten_cons]
        rfl
  rw [contentLines, hpieces, count_splitLines (ne_newline hc)]

end Pieces

end HtmlToHaml.Text
