import HtmlToHaml.Haml.Outline
import HtmlToHaml.Proofs.Haml.Count
import Mathlib.Data.List.Forall2

/-!
# One level deeper

A block of lines is moved one level deeper by putting two spaces in front of each line; lines that
are blank need not move. `Shifted` says it line by line, so blocks of lines are moved one after the
other. Every piece of text that is written at a level is moved when the level grows by one.
-/

namespace HtmlToHaml.Haml

open Text

variable {s s' t t' line line' : List Char} {level : Nat}

/-- A line two spaces deeper than another one; blank lines are alike. -/
def Deeper (line line' : List Char) : Prop :=
  line' = ' ' :: ' ' :: line ∨ (isBlank line = true ∧ isBlank line' = true)

/-- A block of lines one level deeper than another one. -/
inductive Shifted : List Char → List Char → Prop
  /-- No lines at all. -/
  | nil : Shifted [] []
  /-- A line in front of other lines. -/
  | line {line line' rest rest' : List Char} : '\n' ∉ line → '\n' ∉ line' → Deeper line line' →
    Shifted rest rest' → Shifted (line ++ '\n' :: rest) (line' ++ '\n' :: rest')

namespace Shifted

/-- Blocks are moved one after the other. -/
theorem append (h : Shifted s s') (h' : Shifted t t') : Shifted (s ++ t) (s' ++ t') := by
  induction h with
  | nil => exact h'
  | line hn hn' hd _ ih =>
    rw [List.append_assoc, List.append_assoc]
    exact .line hn hn' hd ih

/-- A block of pieces is moved if its pieces are. -/
theorem flatMap {α : Type} {f g : α → List Char} {parts : List α}
    (h : ∀ part ∈ parts, Shifted (f part) (g part)) :
    Shifted (parts.flatMap f) (parts.flatMap g) := by
  induction parts with
  | nil => exact .nil
  | cons part rest ih =>
    rw [List.flatMap_cons, List.flatMap_cons]
    exact (h part (by simp)).append (ih fun part hm => h part (List.mem_cons_of_mem _ hm))

/-- A moved block is moved line by line. -/
theorem forall₂ (h : Shifted s s') : List.Forall₂ Deeper (splitLines s) (splitLines s') := by
  induction h with
  | nil => exact .cons (Or.inr ⟨rfl, rfl⟩) .nil
  | line hn hn' hd _ ih =>
    rw [splitLines, splitLines, List.splitOn_append_cons_self_of_not_mem hn,
      List.splitOn_append_cons_self_of_not_mem hn']
    exact .cons hd ih

end Shifted

/-- An indentation holds no line feed. -/
theorem newline_not_mem_indentation : '\n' ∉ indentation level := by
  simp [indentation]

/-- A line after its indentation is moved with the lines below it. -/
theorem Shifted.headed (hn : '\n' ∉ line) (h : Shifted t t') :
    Shifted (indentation level ++ line ++ '\n' :: t)
      (indentation (level + 1) ++ line ++ '\n' :: t') := by
  have hfirst : ∀ level, '\n' ∉ indentation level ++ line := by
    intro level
    rw [List.mem_append, not_or]
    exact ⟨newline_not_mem_indentation, hn⟩
  exact .line (hfirst level) (hfirst (level + 1)) (Or.inl rfl) h

/-- A line after its indentation is moved. -/
theorem Shifted.indented (hn : '\n' ∉ line) :
    Shifted (indentation level ++ line ++ ['\n']) (indentation (level + 1) ++ line ++ ['\n']) :=
  .headed hn .nil

section Lines

/-- The pieces between line feeds hold none. -/
theorem newline_not_mem_of_mem_splitLines (h : line ∈ splitLines s) : '\n' ∉ line := by
  rw [splitLines] at h
  induction s generalizing line with
  | nil =>
    rw [List.splitOn_nil, List.mem_singleton] at h
    simp [h]
  | cons c rest ih =>
    rw [List.splitOn_cons_eq_if_modifyHead] at h
    split at h
    · rcases List.mem_cons.1 h with rfl | h
      · simp
      · exact ih h
    · rename_i hc
      cases hs : rest.splitOn '\n' with
      | nil => exact absurd hs (List.splitOn_ne_nil _ _)
      | cons first more =>
        rw [hs] at h ih
        rcases List.mem_cons.1 h with rfl | h
        · rw [List.mem_cons, not_or]
          exact ⟨fun he => hc (beq_iff_eq.2 he.symm), ih List.mem_cons_self⟩
        · exact ih (List.mem_cons_of_mem _ h)

/-- Lines of text are moved. -/
theorem shifted_textLines (s : List Char) (level : Nat) (escapeSpecial : Bool) :
    Shifted (textLines s level escapeSpecial) (textLines s (level + 1) escapeSpecial) := by
  rw [textLines, textLines]
  split
  · exact .nil
  · refine .flatMap fun line hl => ?_
    have hline : '\n' ∉ trim line := fun hn =>
      newline_not_mem_of_mem_splitLines hl (mem_of_mem_trimBy hn)
    rw [textLine, textLine, List.append_assoc (indentation level),
      List.append_assoc (indentation (level + 1))]
    refine .indented ?_
    rw [List.mem_append, not_or]
    refine ⟨?_, hline⟩
    split <;> simp

/-- A comment is moved, if its condition stands on one line. -/
theorem shifted_commentBlock {content : List Char}
    (hc : ∀ condition body, condition? content = some (condition, body) → '\n' ∉ condition) :
    Shifted (commentBlock content level) (commentBlock content (level + 1)) := by
  have hcondition : '\n' ∉ ((condition? content).getD ([], content)).1 := by
    cases h : condition? content with
    | none => simp
    | some found => exact hc found.1 found.2 h
  have hslash : '\n' ∉ '/' :: ((condition? content).getD ([], content)).1 := by
    simp [hcondition]
  simp only [commentBlock]
  split
  · exact .headed hslash (shifted_textLines _ _ _)
  · rename_i hbody
    split
    · exact .indented hslash
    · have hline : '\n' ∉ trim ((condition? content).getD ([], content)).2 := by
        intro hn
        exact hbody (List.contains_iff_mem.2 (mem_of_mem_trimBy hn))
      have hall : Shifted
          (indentation level ++ ('/' :: ((condition? content).getD ([], content)).1 ++
            ' ' :: trim ((condition? content).getD ([], content)).2) ++ ['\n'])
          (indentation (level + 1) ++ ('/' :: ((condition? content).getD ([], content)).1 ++
            ' ' :: trim ((condition? content).getD ([], content)).2) ++ ['\n']) :=
        .indented (by simp [hcondition, hline])
      simpa using hall

/-- A line of content begins a piece between line feeds. -/
theorem exists_prefix_of_mem_endedLines {pieces : List (List Char)} (h : line ∈ endedLines pieces) :
    ∃ piece ∈ pieces, line <+: piece := by
  induction pieces with
  | nil => exact absurd h List.not_mem_nil
  | cons piece rest ih =>
    cases rest with
    | nil =>
      rw [endedLines] at h
      split at h
      · exact absurd h List.not_mem_nil
      · rw [List.mem_singleton.1 h]
        exact ⟨piece, by simp, List.prefix_rfl⟩
    | cons next rest =>
      rcases List.mem_cons.1 h with rfl | h
      · refine ⟨piece, by simp, ?_⟩
        rw [dropCarriageReturn]
        split
        · exact List.dropLast_prefix _
        · exact List.prefix_rfl
      · obtain ⟨other, ho, hp⟩ := ih h
        exact ⟨other, List.mem_cons_of_mem _ ho, hp⟩

/-- A line of content holds no line feed. -/
theorem newline_not_mem_of_mem_contentLines (h : line ∈ contentLines s) : '\n' ∉ line := by
  obtain ⟨piece, hp, hbegin⟩ := exists_prefix_of_mem_endedLines h
  exact fun hn => newline_not_mem_of_mem_splitLines hp (hbegin.mem hn)

/-- A block of preserved text is moved; its empty lines are not. -/
theorem shifted_preserveBlock (text : List Char) (level : Nat) :
    Shifted (preserveBlock text level) (preserveBlock text (level + 1)) := by
  have hname : '\n' ∉ ':' :: Filter.preserve.name.toList := by decide
  refine .headed hname (.flatMap fun line hl => ?_)
  rw [preservedLine, preservedLine]
  split
  · exact .line (by simp) (by simp) (Or.inr ⟨rfl, rfl⟩) .nil
  · exact .indented (newline_not_mem_of_mem_contentLines hl)

end Lines

section Inline

/-- The text after a header with the lines below it, and the same with the lines one level
deeper. -/
def Continued (s s' : List Char) : Prop :=
  ∃ line t t', '\n' ∉ line ∧ s = line ++ '\n' :: t ∧ s' = line ++ '\n' :: t' ∧ Shifted t t'

/-- A header with what is after it is moved. -/
theorem Continued.headed (hn : '\n' ∉ line) (h : Continued s s') :
    Shifted (indentation level ++ line ++ s) (indentation (level + 1) ++ line ++ s') := by
  obtain ⟨more, t, t', hmore, rfl, rfl, ht⟩ := h
  have hline : '\n' ∉ line ++ more := by simp [hn, hmore]
  simpa using Shifted.headed hline ht

/-- A block of lines stands below the header. -/
theorem Continued.block (h : Shifted t t') : Continued ('\n' :: t) ('\n' :: t') :=
  ⟨[], t, t', by simp, rfl, rfl, h⟩

/-- A text that is not blank begins with its first character when it is trimmed. -/
theorem trim_eq_cons (hb : isBlank s = false) :
    ∃ c rest, trim s = c :: rest ∧ isSpace c = false := by
  have hstart : ∃ c rest, trimStart s = c :: rest ∧ isSpace c = false := by
    induction s with
    | nil => cases hb
    | cons c rest ih =>
      by_cases hc : isSpace c = true
      · have hb : isBlank rest = false := by simpa [isBlank, hc] using hb
        simpa [trimStart, trimStartBy, hc] using ih hb
      · exact ⟨c, rest, by simp [trimStart, trimStartBy, hc], by simpa using hc⟩
  obtain ⟨c, rest, hs, hc⟩ := hstart
  have htrim : trim s = trimEndBy isSpace (c :: rest) := by
    rw [← hs]
    rfl
  refine ⟨c, trimEndBy isSpace rest, ?_, hc⟩
  rw [htrim, trimEndBy, trimEndBy, List.reverse_cons, List.dropWhile_append]
  split
  · rename_i he
    simp [List.isEmpty_iff.1 he, hc]
  · simp

/-- One line of text is the trimmed text. -/
theorem inlineText_textLines (hn : '\n' ∉ s) :
    inlineText (textLines s level false) =
      if isBlank s then ['\n'] else ' ' :: trim (trim s) ++ ['\n'] := by
  by_cases hb : isBlank s = true
  · rw [textLines, if_pos hb, if_pos hb]
    rfl
  · rw [textLines, if_neg hb, if_neg hb]
    have htrim : '\n' ∉ trim s := fun h => hn (mem_of_mem_trimBy h)
    have hline : '\n' ∉ trim (trim s) := fun h => htrim (mem_of_mem_trimBy h)
    obtain ⟨c, rest, hs, hc⟩ := trim_eq_cons (s := s) (by simpa using hb)
    have hfirst : isBlank (trim s) = false := by simp [hs, isBlank, hc]
    obtain ⟨d, more, hs', hd⟩ := trim_eq_cons hfirst
    have hlines : (splitLines (trim s)).flatMap (fun line => textLine level false (trim line)) =
        indentation level ++ (trim (trim s) ++ ['\n']) := by
      rw [splitLines, List.splitOn_eq_singleton htrim]
      simp [textLine]
    have hstart : trimStart (indentation level ++ (trim (trim s) ++ ['\n'])) =
        trim (trim s) ++ ['\n'] := by
      have hspaces : ∀ x ∈ indentation level, isSpace x = true := by
        intro x hx
        rw [List.eq_of_mem_replicate hx]
        decide
      rw [trimStart, trimStartBy, List.dropWhile_append_of_pos hspaces, hs', List.cons_append,
        List.dropWhile_cons_of_neg (by simp [hd])]
    have hend : hasLineFeed (trimEndBy (· == '\n') (trim (trim s) ++ ['\n'])) = false := by
      rw [hasLineFeed, Bool.eq_false_iff, Ne, List.contains_iff_mem, trimEndBy, List.reverse_append]
      intro h
      rw [List.mem_reverse, List.reverse_singleton, List.singleton_append,
        List.dropWhile_cons_of_pos (by simp)] at h
      exact hline (List.mem_reverse.1 ((List.dropWhile_suffix _).mem h))
    rw [hlines, inlineText, hstart]
    simp only [hend]
    simp

/-- One line of text stands after the header, wherever that is. -/
theorem continued_inlineText (hn : '\n' ∉ s) (level : Nat) :
    Continued (inlineText (textLines s level false))
      (inlineText (textLines s (level + 1) false)) := by
  rw [inlineText_textLines hn, inlineText_textLines hn]
  split
  · exact ⟨[], [], [], by simp, rfl, rfl, .nil⟩
  · have hline : '\n' ∉ trim (trim s) := fun h => hn (mem_of_mem_trimBy (mem_of_mem_trimBy h))
    exact ⟨' ' :: trim (trim s), [], [], by simp [hline], rfl, rfl, .nil⟩

end Inline

end HtmlToHaml.Haml
