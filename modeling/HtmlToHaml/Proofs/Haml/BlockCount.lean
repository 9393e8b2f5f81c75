import HtmlToHaml.Haml.Outline
import HtmlToHaml.Proofs.Haml.Count

/-!
# What blocks of lines say

Filters, comments, scripts and preserved text are written line by line. What is left out of
them is white space and the ASCII marks that frame a section or a condition, so they say what
they are given.
-/

namespace HtmlToHaml.Haml

open Text

variable {c : Char} {s : List Char} {lines : List (List Char)} {level : Nat}

section Filters

/-- A framing line holds nothing but its mark. -/
theorem count_of_framingLine? {mark rest : List Char} (hc : isSpace c = false) (hm : c ∉ mark)
    (hf : framingLine? mark s = some rest) : rest.count c = s.count c := by
  have hline := stripPrefix?_eq_some_iff.1 hf
  have hspaces : (s.dropWhile isIndent).count c = s.count c :=
    count_dropWhile (isIndent_eq_false hc)
  have hend : (mark ++ ['\n']).count c = 0 := by
    rw [List.count_eq_zero, List.mem_append, not_or]
    exact ⟨hm, fun hn => ne_newline hc (List.mem_singleton.1 hn)⟩
  rw [← hspaces, hline, List.count_append, hend, Nat.zero_add]

/-- A framing line is left out where a line begins. -/
theorem dropFraming_cons {mark : List Char} {atStart : Bool} {d : Char} :
    dropFraming mark atStart (d :: s) =
      match if atStart then framingLine? mark (d :: s) else none with
      | some rest => dropFraming mark true rest
      | none => d :: dropFraming mark (d == '\n') s := by
  rw [dropFraming]
  split
  · rename_i rest hf
    rw [hf]
  · rename_i hf
    rw [hf]

/-- Without the framing lines of a mark a text keeps what is not in the mark. -/
theorem count_dropFraming {mark : List Char} {atStart : Bool} (hc : isSpace c = false)
    (hm : c ∉ mark) : (dropFraming mark atStart s).count c = s.count c := by
  induction atStart, s using dropFraming.induct mark with
  | case1 atStart => rw [dropFraming]
  | case2 atStart d s rest hf ih =>
    rw [dite_eq_ite] at hf
    have hrest : framingLine? mark (d :: s) = some rest := by
      cases atStart with
      | false => cases hf
      | true => exact hf
    rw [dropFraming_cons, hf]
    exact ih.trans (count_of_framingLine? hc hm hrest)
  | case3 atStart d s hf ih =>
    rw [dite_eq_ite] at hf
    rw [dropFraming_cons, hf]
    simp only [List.count_cons, ih]

/-- Without its framing lines a section keeps what is not in them. -/
theorem count_stripCdataFraming (hc : isSpace c = false) (ho : c ∉ cdataOpen)
    (he : c ∉ cdataClose) :
    (stripCdataFraming s).count c = s.count c := by
  rw [stripCdataFraming, count_dropFraming hc he, count_dropFraming hc ho]

/-- Blank lines in front can be left out. -/
theorem count_dropWhile_isBlank (hc : isSpace c = false) :
    (lines.dropWhile isBlank).flatten.count c = lines.flatten.count c := by
  induction lines with
  | nil => rfl
  | cons line rest ih =>
    rw [List.dropWhile_cons]
    split
    · rename_i hb
      rw [ih, List.flatten_cons, List.count_append, count_of_isBlank hc hb, Nat.zero_add]
    · rfl

/-- Lines in another order say the same. -/
theorem count_flatten_reverse : lines.reverse.flatten.count c = lines.flatten.count c := by
  rw [List.count_flatten, List.count_flatten, List.map_reverse, List.sum_reverse_nat]

/-- The lines of a body are those of its text but for blank ones. -/
theorem count_bodyLines (hc : isSpace c = false) : (bodyLines s).flatten.count c = s.count c := by
  rw [bodyLines]
  simp only [count_flatten_reverse, count_dropWhile_isBlank hc, count_splitLines (ne_newline hc)]

/-- A moved line loses white space only. -/
theorem count_moveLine {indent line : List Char} (hc : isSpace c = false) (hi : indent.count c = 0)
    (hs : sharesIndent indent line = true) :
    (moveLine indent level line).count c = line.count c := by
  rw [moveLine]
  split
  · rename_i hb
    rw [count_of_isBlank hc hb]
    rfl
  · rename_i hb
    rw [sharesIndent, Bool.or_eq_true, or_iff_right hb, Option.isSome_iff_exists] at hs
    obtain ⟨rest, hrest⟩ := hs
    obtain rfl := stripPrefix?_eq_some_iff.1 hrest
    rw [List.drop_left, List.count_append, List.count_append, hi, count_indentation hc]

/-- A body at a level says its text. -/
theorem count_normalizeBody (hc : isSpace c = false) :
    (normalizeBody s level).count c = s.count c := by
  have hspace : ∀ line, (leadingSpace line).count c = 0 := by
    intro line
    rw [leadingSpace, List.count_eq_zero]
    intro hm
    have hall := List.all_eq_true.1 List.all_takeWhile c hm
    rw [hc] at hall
    cases hall
  rw [normalizeBody, count_unlines (ne_newline hc)]
  split
  · rename_i hall
    rw [count_flatten_map, count_bodyLines hc]
    intro line hl
    exact count_moveLine hc (hspace _) (List.all_eq_true.1 hall line hl)
  · exact count_bodyLines hc

/-- A filter says its name and its body. -/
theorem count_filterBlock (hc : isSpace c = false) (filter : Filter) :
    (filterBlock filter s level).count c = (':' :: filter.name.toList).count c + s.count c := by
  rw [filterBlock, List.count_append, List.count_append, List.count_cons_of_ne (ne_newline hc).symm,
    count_indentation hc, count_normalizeBody hc, Nat.zero_add]

/-- A filter says its body if its name is no matter. -/
theorem Inert.count_filterBlock (h : Inert c) (filter : Filter) :
    (filterBlock filter s level).count c = s.count c := by
  have hname : (':' :: filter.name.toList).count c = 0 := by
    cases filter with
    | javascript => exact h.count_eq_zero (by decide)
    | css => exact h.count_eq_zero (by decide)
    | cdata => exact h.count_eq_zero (by decide)
    | preserve => exact h.count_eq_zero (by decide)
  rw [Haml.count_filterBlock h.solid, hname, Nat.zero_add]

end Filters

section Comments

/-- A condition stands in brackets at the start of a comment that is ended in its way. -/
theorem exists_of_condition? {condition body : List Char}
    (hf : condition? s = some (condition, body)) :
    ∃ inside, condition = '[' :: inside ++ [']'] ∧ ']' ∉ inside ∧
      s = '[' :: inside ++ ']' :: '>' :: (body ++ conditionEnd) := by
  unfold condition? at hf
  split at hf
  · rename_i s
    dsimp only at hf
    split at hf
    · rename_i after hd
      split at hf
      · cases hf
      · obtain ⟨inner, hinner, he⟩ := Option.map_eq_some_iff.1 hf
        simp only [Prod.mk.injEq] at he
        obtain ⟨rfl, rfl⟩ := he
        obtain ⟨front, hfront, rfl⟩ := Option.map_eq_some_iff.1 hinner
        have hafter := congrArg List.reverse (stripPrefix?_eq_some_iff.1 hfront)
        rw [List.reverse_reverse, List.reverse_append, List.reverse_reverse] at hafter
        have hclose : ']' ∉ s.takeWhile (· ≠ ']') := fun hm => by
          simpa using List.all_eq_true.1 List.all_takeWhile _ hm
        refine ⟨s.takeWhile (· ≠ ']'), rfl, hclose, ?_⟩
        rw [← hafter, ← hd, List.cons_append, List.takeWhile_append_dropWhile]
    · cases hf
  · cases hf

/-- A comment says its content. -/
theorem count_commentBlock (h : Inert c) : (commentBlock s level).count c = s.count c := by
  have hend : ['\n'].count c = 0 := h.count_eq_zero rfl
  have hboth : ((condition? s).getD ([], s)).1.count c + ((condition? s).getD ([], s)).2.count c =
      s.count c := by
    cases hf : condition? s with
    | none => simp
    | some found =>
      obtain ⟨condition, body⟩ := found
      obtain ⟨inside, rfl, -, rfl⟩ := exists_of_condition? hf
      have hclose : conditionEnd.count c = 0 := h.count_eq_zero (by decide)
      have hbracket : [']'].count c = 0 := h.count_eq_zero rfl
      simp only [Option.getD_some, List.count_append, h.count_cons (d := '[') (by decide),
        h.count_cons (d := ']') (by decide), h.count_cons (d := '>') (by decide), List.cons_append,
        hclose, List.count_nil, Nat.add_zero]
  generalize hfound : (condition? s).getD ([], s) = found at hboth
  obtain ⟨condition, body⟩ := found
  have hheader : (indentation level ++ '/' :: condition).count c = condition.count c := by
    rw [List.count_append, h.count_indentation, h.count_cons (by decide),
      Nat.zero_add]
  rw [← hboth, commentBlock, hfound]
  dsimp only
  split
  · rw [List.count_append, hheader, h.count_cons (by decide), count_textLines h,
      count_escapeInterpolation (h.ne (by decide))]
  · split
    · rename_i hb
      rw [List.count_append, hheader, hend, count_of_isBlank h.solid hb]
    · rw [List.count_append, List.count_append, hheader, h.count_cons (by decide), hend,
        count_trim h.solid, Nat.add_zero]

end Comments

section Scripts

/-- Indented lines say what the lines say. -/
theorem count_indentedLines (h : Inert c) :
    (indentedLines level lines).count c = lines.flatten.count c := by
  have hend : ['\n'].count c = 0 := h.count_eq_zero rfl
  rw [indentedLines, ← List.flatMap_id]
  apply count_flatMap_congr
  intro line _
  rw [List.count_append, List.count_append, h.count_indentation, hend]
  simp

/-- The lines of a printed script say the script. -/
theorem count_loudSourceLines (h : Inert c) (hs : '&' ∉ s) :
    (loudSourceLines s).flatten.count c = s.count c := by
  rw [loudSourceLines, Entity.unescape_of_not_mem hs, count_flatten_filter, count_flatten_map,
    count_splitLines (ne_newline h.solid)]
  · exact fun line _ => count_trimEndBy h.solid
  · exact fun line _ hb => count_of_isBlank h.solid (by simpa using hb)

/-- The first line of a printed script says the line. -/
theorem count_printedLine (h : Inert c) : (printedLine s).count c = s.count c := by
  rw [printedLine, h.count_cons (by decide), h.count_cons (by decide),
    count_dropWhile (isIndent_eq_false h.solid)]

/-- A line without some of its indentation says the same. -/
theorem count_dropIndent (h : Inert c) (width : Nat) :
    (dropIndent width s).count c = s.count c := by
  have hrun : (indentRun s).count c = 0 :=
    count_eq_zero_of_all (isIndent_eq_false h.solid) List.all_takeWhile
  have htake : (s.take (min width (indentRun s).length)).count c = 0 := by
    rw [List.count_eq_zero]
    intro hm
    have hshort : s.take (min width (indentRun s).length) <+: indentRun s := by
      apply List.prefix_of_prefix_length_le (List.take_prefix _ _) (List.takeWhile_prefix _)
      exact Nat.le_trans (List.length_take_le _ _) (Nat.min_le_right _ _)
    exact List.count_eq_zero.1 hrun (hshort.mem hm)
  have hsplit := congrArg (List.count c) (List.take_append_drop (min width (indentRun s).length) s)
  rw [List.count_append, htake, Nat.zero_add] at hsplit
  exact hsplit

/-- A bar after a line adds nothing that counts. -/
theorem count_withBar (h : Inert c) (width : Nat) : (withBar width s).count c = s.count c := by
  have hbar : ['|'].count c = 0 := h.count_eq_zero rfl
  have hspace : ∀ n, (List.replicate n ' ').count c = 0 := by
    intro n
    rw [List.count_replicate, if_neg (by simpa using (h.ne (by decide)).symm)]
  rw [withBar, List.count_append, List.count_append, hbar, hspace]
  simp

/-- Aligned lines say what the lines say. -/
theorem count_alignLoudLines (h : Inert c) :
    (alignLoudLines lines).flatten.count c = lines.flatten.count c := by
  rcases lines with _ | ⟨first, _ | ⟨second, more⟩⟩
  · rfl
  · simp [alignLoudLines, count_printedLine h]
  · have hline : ∀ width line, (' ' :: ' ' :: dropIndent width line).count c = line.count c := by
      intro width line
      rw [h.count_cons (by decide), h.count_cons (by decide), count_dropIndent h]
    rw [alignLoudLines, count_flatten_map fun _ _ => count_withBar h _, List.flatten_cons,
      List.count_append, count_printedLine h, count_flatten_map fun _ _ => hline _ _,
      ← List.count_append, ← List.flatten_cons]

/-- The lines of a silent script say the script. -/
theorem count_silentLines (h : Inert c) (hs : '&' ∉ s) :
    (silentLines s).flatten.count c = s.count c := by
  rw [silentLines, Entity.unescape_of_not_mem hs, count_flatten_map, count_flatten_filter,
    count_flatten_map, count_splitLines (ne_newline h.solid)]
  · exact fun line _ => count_trim h.solid
  · intro line _ he
    rw [List.isEmpty_iff.1 (by simpa using he : line.isEmpty = true)]
    rfl
  · intro line _
    rw [h.count_cons (by decide), h.count_cons (by decide)]

end Scripts

section Bodies

/-- One line of text says the text. -/
theorem count_inlineText (h : Inert c) : (inlineText s).count c = s.count c := by
  have hstart : (trimStart s).count c = s.count c := count_trimStartBy h.solid
  rw [inlineText]
  split
  · rename_i he
    rw [← hstart, List.isEmpty_iff.1 he]
    exact h.count_eq_zero rfl
  · split
    · exact h.count_cons (by decide)
    · rw [h.count_cons (by decide), hstart]

/-- A script after a header says the script. -/
theorem count_inlineScript (h : Inert c) : (inlineScript s).count c = s.count c := by
  have hstart : (trimStart s).count c = s.count c := count_trimStartBy h.solid
  rw [inlineScript]
  split
  · rename_i he
    rw [← hstart, List.isEmpty_iff.1 he]
    exact h.count_eq_zero rfl
  · exact hstart

/-- Preserved text says the text. -/
theorem count_preserveBlock (h : Inert c) : (preserveBlock s level).count c = s.count c := by
  have hend : ['\n'].count c = 0 := h.count_eq_zero rfl
  have hname : (':' :: Filter.preserve.name.toList).count c = 0 := h.count_eq_zero (by decide)
  have hline : ∀ line ∈ contentLines s, (preservedLine (level + 1) line).count c =
      (id line).count c := by
    intro line _
    rw [preservedLine, List.count_append, hend]
    split
    · rename_i he
      rw [List.isEmpty_iff.1 he]
      rfl
    · rw [List.count_append, h.count_indentation]
      simp
  rw [preserveBlock, List.count_append, List.count_append, hname, h.count_cons (by decide),
    h.count_indentation, count_flatMap_congr hline, List.flatMap_id,
    count_contentLines h.solid]
  simp

/-- The line in front of a word says the word. -/
theorem count_succeedLine (h : Inert c) : (succeedLine s).count c = s.count c := by
  have hsucceed : "= succeed ".toList.count c = 0 := h.count_eq_zero (by decide)
  have hdo : " do\n".toList.count c = 0 := h.count_eq_zero (by decide)
  unfold succeedLine
  simp only [List.count_append, hsucceed, hdo, count_rubyString h, Nat.add_zero, Nat.zero_add]

end Bodies

end HtmlToHaml.Haml
