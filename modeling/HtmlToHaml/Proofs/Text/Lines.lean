import HtmlToHaml.Text.Lines
import HtmlToHaml.Text.Space
import Mathlib.Data.List.DropRight

/-!
# Lines behind lines

The last line of a text is what follows its last line feed. Text that is put behind another one goes
on in the last line, and all lines before that one stay as they are; so a text that begins and ends
with characters that show can be trimmed together with what stands before it. Behind whole lines a
text has lines of its own.
-/

namespace HtmlToHaml.Text

variable {s t line mid : List Char} {c d : Char}

/-- The text after the last line feed. -/
def lastLine (s : List Char) : List Char :=
  s.rtakeWhile (· ≠ '\n')

/-- What holds of no text, and of two texts together if it holds of both, holds of pieces
together. -/
theorem flatMap_of_append {α : Type} {P : List Char → Prop} {f : α → List Char} {parts : List α}
    (hnil : P []) (happend : ∀ {s t}, P s → P t → P (s ++ t)) (h : ∀ part ∈ parts, P (f part)) :
    P (parts.flatMap f) := by
  induction parts with
  | nil => exact hnil
  | cons part rest ih =>
    rw [List.flatMap_cons]
    exact happend (h part (by simp)) (ih fun part hm => h part (List.mem_cons_of_mem _ hm))

section LastLine

/-- A text on one line is its own last line. -/
theorem lastLine_of_not_mem (hn : '\n' ∉ s) : lastLine s = s := by
  rw [lastLine, List.rtakeWhile_eq_self_iff]
  intro c hc
  have hne : c ≠ '\n' := fun he => hn (he ▸ hc)
  simpa using hne

/-- The last line stands behind a line feed. -/
theorem lastLine_append_newline (hn : '\n' ∉ line) : lastLine (s ++ '\n' :: line) = line := by
  have hline : ∀ c ∈ line.reverse, decide (c ≠ '\n') = true := by
    intro c hc
    have hne : c ≠ '\n' := fun he => hn (he ▸ List.mem_reverse.1 hc)
    simpa using hne
  rw [lastLine, List.rtakeWhile, List.reverse_append, List.reverse_cons, List.append_assoc,
    List.takeWhile_append_of_pos hline, List.singleton_append,
    List.takeWhile_cons_of_neg (by simp), List.append_nil, List.reverse_reverse]

/-- A text is its last line, or ends in a line feed and its last line. -/
theorem lastLine_cases (s : List Char) :
    '\n' ∉ s ∨ ∃ front line, s = front ++ '\n' :: line ∧ '\n' ∉ line := by
  induction s with
  | nil => exact Or.inl List.not_mem_nil
  | cons c s ih =>
    rcases ih with hn | ⟨front, line, rfl, hn⟩
    · by_cases hc : c = '\n'
      · exact Or.inr ⟨[], s, by rw [hc, List.nil_append], hn⟩
      · exact Or.inl (by simpa [hn] using Ne.symm hc)
    · exact Or.inr ⟨c :: front, line, rfl, hn⟩

/-- Text on one line goes on in the last line of the text before it. -/
theorem splitLines_append (ht : '\n' ∉ t) :
    splitLines (s ++ t) = (splitLines s).dropLast ++ [lastLine s ++ t] := by
  rcases lastLine_cases s with hn | ⟨front, line, rfl, hn⟩
  · have hst : '\n' ∉ s ++ t := by simp [hn, ht]
    rw [lastLine_of_not_mem hn, splitLines, splitLines, List.splitOn_eq_singleton hst,
      List.splitOn_eq_singleton hn]
    rfl
  · have hlt : '\n' ∉ line ++ t := by simp [hn, ht]
    rw [lastLine_append_newline hn, splitLines, splitLines, List.append_assoc, List.cons_append,
      List.splitOn_append_cons_self, List.splitOn_append_cons_self, List.splitOn_eq_singleton hlt,
      List.splitOn_eq_singleton hn, List.dropLast_concat]

end LastLine

section WholeLines

/-- A text is made of whole lines. -/
def Complete (s : List Char) : Prop :=
  s = [] ∨ s.getLast? = some '\n'

/-- No text is made of whole lines. -/
theorem complete_nil : Complete [] :=
  Or.inl rfl

/-- A line feed ends whole lines. -/
theorem complete_concat (s : List Char) : Complete (s ++ ['\n']) :=
  Or.inr List.getLast?_concat

/-- Text in front of a line feed at the end is ended by it. -/
theorem complete_append_of_getLast? (ht : t.getLast? = some '\n') : Complete (s ++ t) :=
  Or.inr (by rw [List.getLast?_append, ht, Option.some_or])

namespace Complete

/-- Whole lines behind whole lines are whole lines. -/
theorem append (hs : Complete s) (ht : Complete t) : Complete (s ++ t) := by
  rcases ht with rfl | ht
  · rwa [List.append_nil]
  · exact complete_append_of_getLast? ht

/-- Whole lines go on below any line. -/
theorem cons (hs : Complete s) (line : List Char) : Complete (line ++ '\n' :: s) := by
  have hall := (complete_concat line).append hs
  rwa [List.append_assoc, List.singleton_append] at hall

/-- Pieces of whole lines make up whole lines. -/
theorem flatMap {α : Type} {f : α → List Char} {parts : List α}
    (h : ∀ part ∈ parts, Complete (f part)) : Complete (parts.flatMap f) :=
  flatMap_of_append complete_nil append h

/-- A line feed in front of whole lines leaves a line feed at the end. -/
theorem getLast?_cons (hs : Complete s) : ('\n' :: s).getLast? = some '\n' := by
  rcases hs with rfl | hl
  · rfl
  · rw [List.getLast?_cons, hl, Option.getD_some]

/-- The end of whole lines is ended by a line feed. -/
theorem of_isSuffix (hs : Complete s) (h : t <:+ s) : Complete t := by
  obtain ⟨front, rfl⟩ := h
  rcases List.eq_nil_or_concat' t with rfl | ⟨rest, last, rfl⟩
  · exact complete_nil
  · rcases hs with he | hl
    · simp at he
    · rw [← List.append_assoc, List.getLast?_concat, Option.some.injEq] at hl
      rw [hl]
      exact complete_concat rest

end Complete

/-- A line feed ends a piece. -/
theorem splitLines_append_newline (s t : List Char) :
    splitLines (s ++ '\n' :: t) = splitLines s ++ splitLines t :=
  List.splitOn_append_cons_self ..

/-- The lines of a text that is made of whole lines, without their line feeds. -/
def wholeLines (s : List Char) : List (List Char) :=
  (splitLines s).dropLast

/-- Lines that are ended by line feeds are cut apart again. -/
theorem splitLines_unlines {lines : List (List Char)} (hn : ∀ line ∈ lines, '\n' ∉ line) :
    splitLines (unlines lines) = lines ++ [[]] := by
  induction lines with
  | nil => rfl
  | cons line lines ih =>
    have hcons : unlines (line :: lines) = line ++ '\n' :: unlines lines := by simp [unlines]
    rw [hcons, splitLines, List.splitOn_append_cons_self_of_not_mem (hn line List.mem_cons_self),
      ← splitLines, ih fun other ho => hn other (List.mem_cons_of_mem _ ho)]
    rfl

/-- The lines that make up a text are its whole lines. -/
theorem wholeLines_unlines {lines : List (List Char)} (hn : ∀ line ∈ lines, '\n' ∉ line) :
    wholeLines (unlines lines) = lines := by
  rw [wholeLines, splitLines_unlines hn, List.dropLast_concat]

/-- A piece stands at the start of the text or behind a line feed. -/
theorem exists_of_mem_splitLines (h : line ∈ splitLines s) :
    ∃ front back, s = front ++ line ++ back ∧ (front = [] ∨ front.getLast? = some '\n') := by
  induction hl : s.length using Nat.strong_induction_on generalizing s with
  | _ n ih =>
    subst hl
    rcases lastLine_cases s with hn | ⟨front, last, rfl, hn⟩
    · rw [splitLines, List.splitOn_eq_singleton hn, List.mem_singleton] at h
      exact ⟨[], [], by simp [h], Or.inl rfl⟩
    · rw [splitLines_append_newline, splitLines, splitLines, List.splitOn_eq_singleton hn,
        List.mem_append, List.mem_singleton] at h
      rcases h with h | rfl
      · obtain ⟨before, back, he, hb⟩ := ih front.length (by simp) h rfl
        exact ⟨before, back ++ '\n' :: last, by simp [he], hb⟩
      · exact ⟨front ++ ['\n'], [], by simp, Or.inr List.getLast?_concat⟩

end WholeLines

section Trimming

/-- White space at the start does not matter to what is left of it. -/
theorem trimStart_append_of_isBlank (hs : isBlank s = true) : trimStart (s ++ t) = trimStart t :=
  List.dropWhile_append_of_pos (List.all_eq_true.1 hs)

/-- A text is white space and the text that is left without it. -/
theorem exists_isBlank_append_trimStart (s : List Char) :
    ∃ space, isBlank space = true ∧ s = space ++ trimStart s :=
  ⟨s.takeWhile isSpace, List.all_takeWhile,
    List.takeWhile_append_dropWhile.symm⟩

/-- Nothing is left of a blank text, and of no other. -/
theorem trimStart_eq_nil_iff : trimStart s = [] ↔ isBlank s = true := by
  rw [isBlank, List.all_eq_true, trimStart, trimStartBy, List.dropWhile_eq_nil_iff]

/-- White space is left out at the start, and then at the end. -/
theorem trim_eq (s : List Char) : trim s = trimEnd (trimStart s) :=
  rfl

/-- A leading space is left out. -/
theorem trimStart_cons_of_isSpace (hc : isSpace c = true) : trimStart (c :: s) = trimStart s :=
  List.dropWhile_cons_of_pos hc

/-- A text that begins with a character that shows keeps its start. -/
theorem trimStart_cons (hc : isSpace c = false) : trimStart (c :: s) = c :: s :=
  List.dropWhile_cons_of_neg (Bool.eq_false_iff.1 hc)

/-- White space at the end does not matter to what is left of it. -/
theorem trimEnd_append_of_isBlank (ht : isBlank t = true) : trimEnd (s ++ t) = trimEnd s := by
  have hreverse : ∀ c ∈ t.reverse, isSpace c = true :=
    fun c hc => List.all_eq_true.1 ht c (List.mem_reverse.1 hc)
  rw [trimEnd, trimEndBy, List.reverse_append, List.dropWhile_append_of_pos hreverse]
  rfl

/-- A trailing space is left out. -/
theorem trimEnd_concat_of_isSpace (hc : isSpace c = true) : trimEnd (s ++ [c]) = trimEnd s :=
  trimEnd_append_of_isBlank (by rw [isBlank, List.all_cons, hc]; rfl)

/-- What is left of a text without its trailing white space is blank if the text is. -/
theorem isBlank_trimEnd (s : List Char) : isBlank (trimEnd s) = isBlank s := by
  have hsplit : s.reverse.all isSpace = (s.reverse.dropWhile isSpace).all isSpace := by
    conv_lhs => rw [← List.takeWhile_append_dropWhile (p := isSpace) (l := s.reverse),
      List.all_append, List.all_takeWhile, Bool.true_and]
  rw [isBlank, isBlank, trimEnd, trimEndBy, List.all_reverse, ← hsplit, List.all_reverse]

/-- A text that ends in a character that shows keeps its end. -/
theorem trimEnd_of_getLast? (hs : s.getLast? = some c) (hc : isSpace c = false) :
    trimEnd s = s := by
  obtain ⟨front, rfl⟩ := List.getLast?_eq_some_iff.1 hs
  rw [trimEnd, trimEndBy, List.reverse_concat,
    List.dropWhile_cons_of_neg (Bool.eq_false_iff.1 hc), List.reverse_cons, List.reverse_reverse]

/-- White space around a text that begins and ends with characters that show is left out. -/
theorem trim_between {front back : List Char} (hfront : isBlank front = true)
    (hback : isBlank back = true) (hhead : s.head? = some c) (hc : isSpace c = false)
    (hlast : s.getLast? = some d) (hd : isSpace d = false) : trim (front ++ s ++ back) = s := by
  have hstart : trimStart (s ++ back) = s ++ back := by
    obtain ⟨rest, rfl⟩ := List.head?_eq_some_iff.1 hhead
    rw [List.cons_append, trimStart_cons hc]
  rw [trim_eq, List.append_assoc, trimStart_append_of_isBlank hfront, hstart,
    trimEnd_append_of_isBlank hback, trimEnd_of_getLast? hlast hd]

/-- A trimmed text is a part of the text. -/
theorem trim_isInfix (s : List Char) : trim s <:+: s :=
  (trimEndBy_isPrefix isSpace _).isInfix.trans (trimStartBy_isSuffix isSpace s).isInfix

/-- A text keeps its start when more stands behind it and both are trimmed there. -/
theorem trimStartBy_isPrefix_trimStartBy (p : Char → Bool) (h : s <+: t) :
    trimStartBy p s <+: trimStartBy p t := by
  obtain ⟨more, rfl⟩ := h
  rw [trimStartBy, trimStartBy, List.dropWhile_append]
  split
  · rename_i he
    rw [List.isEmpty_iff.1 he]
    exact List.nil_prefix
  · exact List.prefix_append _ _

/-- A text keeps what is left of its end when more stands behind it. -/
theorem trimEndBy_isPrefix_trimEndBy (p : Char → Bool) (h : s <+: t) :
    trimEndBy p s <+: trimEndBy p t := by
  obtain ⟨more, rfl⟩ := h
  rw [trimEndBy, trimEndBy, List.reverse_append, List.dropWhile_append]
  split
  · exact List.prefix_rfl
  · rw [List.reverse_append, List.reverse_reverse]
    exact (trimEndBy_isPrefix p s).trans (List.prefix_append _ _)

/-- What is left of the beginning of a text is the beginning of what is left of the text. -/
theorem trimBy_isPrefix_trimBy (p : Char → Bool) (h : s <+: t) : trimBy p s <+: trimBy p t :=
  trimEndBy_isPrefix_trimEndBy p (trimStartBy_isPrefix_trimStartBy p h)

/-- Nothing is left of a blank text that is trimmed. -/
theorem trim_of_isBlank (hb : isBlank s = true) : trim s = [] := by
  have hstart : trimStartBy isSpace s = [] := trimStart_eq_nil_iff.2 hb
  rw [trim, trimBy, hstart]
  rfl

/-- The last line of a text without its leading white space is that of the text. -/
theorem trimStart_lastLine_trimStart (s : List Char) :
    trimStart (lastLine (trimStart s)) = trimStart (lastLine s) := by
  obtain ⟨space, hspace, he⟩ := exists_isBlank_append_trimStart s
  rcases lastLine_cases (trimStart s) with hn | ⟨front, line, hline, hn⟩
  · have hlast : lastLine s = lastLine space ++ trimStart s := by
      conv_lhs => rw [he]
      rcases lastLine_cases space with hs | ⟨front, line, rfl, hs⟩
      · rw [lastLine_of_not_mem hs, lastLine_of_not_mem (by simp [hs, hn])]
      · rw [lastLine_append_newline hs, List.append_assoc, List.cons_append,
          lastLine_append_newline (by simp [hs, hn])]
    have hblank : isBlank (lastLine space) = true := by
      rw [isBlank, List.all_eq_true] at hspace ⊢
      intro c hc
      exact hspace c ((List.rtakeWhile_suffix _ _).mem hc)
    rw [hlast, trimStart_append_of_isBlank hblank, lastLine_of_not_mem hn]
  · have hlast : lastLine s = line := by
      rw [he, hline, ← List.append_assoc, lastLine_append_newline hn]
    rw [hlast, hline, lastLine_append_newline hn]

/-- White space at the start is left out in front of a character that shows. -/
theorem trimStart_append_cons (hc : isSpace c = false) :
    trimStart (s ++ c :: t) = trimStart s ++ c :: t := by
  rw [trimStart, trimStartBy, List.dropWhile_append]
  split
  · rename_i he
    rw [trimStart, trimStartBy, List.isEmpty_iff.1 he, List.dropWhile_cons_of_neg (by simp [hc]),
      List.nil_append]
  · rfl

/-- White space at the end is left out behind a character that shows. -/
theorem trimEnd_append_cons (hc : isSpace c = false) :
    trimEnd (s ++ c :: t) = s ++ c :: trimEnd t := by
  have hreverse : (s ++ c :: t).reverse = t.reverse ++ c :: s.reverse := by simp
  rw [trimEnd, trimEndBy, hreverse, List.dropWhile_append]
  split
  · rename_i he
    rw [trimEnd, trimEndBy, List.isEmpty_iff.1 he, List.dropWhile_cons_of_neg (by simp [hc])]
    simp
  · rw [trimEnd, trimEndBy]
    simp

/-- A text between two characters that show stays when it is trimmed, behind what is left of the
text before it. -/
theorem trim_append (hc : isSpace c = false) (hd : isSpace d = false) :
    trim (s ++ (c :: mid ++ [d])) = trimStart s ++ (c :: mid ++ [d]) := by
  have hlast : (trimStart s ++ (c :: mid ++ [d])).getLast? = some d := by
    rw [← List.append_assoc, List.getLast?_concat]
  rw [← trimEnd_of_getLast? hlast hd, List.cons_append, ← trimStart_append_cons hc]
  rfl

end Trimming

end HtmlToHaml.Text
