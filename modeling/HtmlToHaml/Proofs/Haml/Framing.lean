import HtmlToHaml.Proofs.Haml.BlockCount
import HtmlToHaml.Proofs.Text.Lines
import HtmlToHaml.Proofs.Text.Search

/-!
# The lines that frame a section

Framing lines are looked for from character to character, wherever a line begins. They are whole
lines, so what is left are the other lines of the text, and leaving out those of one mark neither
hides nor makes one of the other. The main statement compares a text with its lines, each cut
together with the line feed that ends it.
-/

namespace HtmlToHaml.Haml

open Text

variable {c : Char} {s t line last mark rest : List Char} {lines : List (List Char)}
  {atStart : Bool}

/-- The first of some lines is followed by a line feed and the others. -/
theorem unlines_cons_append (line last : List Char) (lines : List (List Char)) :
    unlines (line :: lines) ++ last = line ++ '\n' :: (unlines lines ++ last) := by
  simp [unlines]

/-- Lines that are left are lines. -/
theorem newline_not_mem_filter (p : List Char → Bool) (hn : ∀ line ∈ lines, '\n' ∉ line) :
    ∀ line ∈ lines.filter p, '\n' ∉ line :=
  fun line hm => hn line (List.mem_of_mem_filter hm)

section Marks

/-- No framing line begins in the middle of a line. -/
theorem dropFraming_false_append (hn : '\n' ∉ s) :
    dropFraming mark false (s ++ t) = s ++ dropFraming mark false t := by
  induction s with
  | nil => rfl
  | cons d s ih =>
    rw [List.mem_cons, not_or] at hn
    have hinside : (d == '\n') = false := beq_false_of_ne (Ne.symm hn.1)
    rw [List.cons_append, dropFraming_cons, hinside, ih hn.2]
    rfl

/-- A text without a mark is not framed. -/
theorem dropFraming_of_not_hasFramingLine (h : hasFramingLine mark atStart s = false) :
    dropFraming mark atStart s = s := by
  induction s generalizing atStart with
  | nil => rw [dropFraming]
  | cons d s ih =>
    rw [hasFramingLine, Bool.or_eq_false_iff] at h
    have hnone : (if atStart then framingLine? mark (d :: s) else none) = none := by
      cases atStart with
      | false => rfl
      | true => simpa using h.1
    rw [dropFraming_cons, hnone]
    exact congrArg (d :: ·) (ih h.2)

/-- A text without its framing lines is part of the text. -/
theorem dropFraming_sublist : (dropFraming mark atStart s).Sublist s := by
  induction atStart, s using dropFraming.induct mark with
  | case1 atStart => rw [dropFraming]
  | case2 atStart d s rest hf ih =>
    rw [dite_eq_ite] at hf
    rw [dropFraming_cons, hf]
    have hline : framingLine? mark (d :: s) = some rest := by
      cases atStart with
      | false => cases hf
      | true => exact hf
    have hrest : rest <:+ (d :: s).dropWhile isIndent :=
      ⟨_, (stripPrefix?_eq_some_iff.1 hline).symm⟩
    exact ih.trans (hrest.trans (List.dropWhile_suffix _)).sublist
  | case3 atStart d s hf ih =>
    rw [dite_eq_ite] at hf
    rw [dropFraming_cons, hf]
    exact ih.cons_cons d

/-- Whether the mark is all there is behind the indentation of a line. -/
def isMarked (mark line : List Char) : Bool :=
  line.dropWhile isIndent == mark

/-- The indentation of a line ends at its line feed. -/
theorem dropWhile_isIndent_append (line rest : List Char) :
    (line ++ '\n' :: rest).dropWhile isIndent = line.dropWhile isIndent ++ '\n' :: rest := by
  rw [List.dropWhile_append]
  split
  · rename_i he
    rw [List.isEmpty_iff.1 he]
    rfl
  · rfl

/-- A framing line is a line with nothing but the mark behind its indentation. -/
theorem framingLine?_line (hm : '\n' ∉ mark) (hl : '\n' ∉ line) :
    framingLine? mark (line ++ '\n' :: rest) = if isMarked mark line then some rest else none := by
  have hbehind : '\n' ∉ line.dropWhile isIndent := fun hn =>
    hl ((List.dropWhile_suffix isIndent).mem hn)
  rw [framingLine?, dropWhile_isIndent_append]
  split
  · rename_i hmarked
    rw [isMarked, beq_iff_eq] at hmarked
    rw [hmarked, stripPrefix?_eq_some_iff, List.append_assoc]
    rfl
  · rename_i hmarked
    rw [Option.eq_none_iff_forall_not_mem]
    intro behind hbegin
    have he := stripPrefix?_eq_some_iff.1 hbegin
    rw [List.append_assoc, List.singleton_append] at he
    exact hmarked (beq_iff_eq.2 (append_cons_inj hbehind hm he).1)

/-- A text without a line feed has no framing line. -/
theorem framingLine?_of_not_mem (hl : '\n' ∉ line) : framingLine? mark line = none := by
  rw [framingLine?, Option.eq_none_iff_forall_not_mem]
  intro behind hbegin
  refine hl ((List.dropWhile_suffix isIndent).mem (stripPrefix?_eq_some_iff.1 hbegin ▸ ?_))
  simp

/-- A text that begins with a framing line goes on behind it. -/
theorem dropFraming_of_framingLine? (h : framingLine? mark s = some rest) :
    dropFraming mark true s = dropFraming mark true rest := by
  cases s with
  | nil =>
    rw [framingLine?, List.dropWhile_nil, stripPrefix?_eq_some_iff] at h
    simp at h
  | cons d s => rw [dropFraming_cons, if_pos rfl, h]

/-- Where no framing line begins, a text goes on as in the middle of a line. -/
theorem dropFraming_of_framingLine?_eq_none (h : framingLine? mark s = none) :
    dropFraming mark true s = dropFraming mark false s := by
  cases s with
  | nil => rw [dropFraming, dropFraming]
  | cons d s =>
    rw [dropFraming_cons, if_pos rfl, h, dropFraming_cons]
    rfl

/-- A line is left out if it is marked, and nothing else of it is. -/
theorem dropFraming_line (hm : '\n' ∉ mark) (hl : '\n' ∉ line) :
    dropFraming mark true (line ++ '\n' :: rest) =
      (if isMarked mark line then [] else line ++ ['\n']) ++ dropFraming mark true rest := by
  have hfound : framingLine? mark (line ++ '\n' :: rest) =
      if isMarked mark line then some rest else none := framingLine?_line hm hl
  cases hmarked : isMarked mark line with
  | true =>
    rw [hmarked] at hfound
    exact dropFraming_of_framingLine? hfound
  | false =>
    rw [hmarked] at hfound
    rw [dropFraming_of_framingLine?_eq_none hfound, dropFraming_false_append hl, dropFraming_cons]
    simp

/-- What follows the last line feed stays. -/
theorem dropFraming_last (hl : '\n' ∉ last) : dropFraming mark true last = last := by
  have hrest : dropFraming mark false (last ++ []) = last ++ dropFraming mark false [] :=
    dropFraming_false_append hl
  rw [List.append_nil, dropFraming, List.append_nil] at hrest
  rw [dropFraming_of_framingLine?_eq_none (framingLine?_of_not_mem hl), hrest]

/-- **Without its framing lines a text has its other lines left.** -/
theorem dropFraming_unlines_append (hm : '\n' ∉ mark) (hn : ∀ line ∈ lines, '\n' ∉ line)
    (hl : '\n' ∉ last) :
    dropFraming mark true (unlines lines ++ last) =
      unlines (lines.filter (!isMarked mark ·)) ++ last := by
  induction lines with
  | nil => exact dropFraming_last hl
  | cons line lines ih =>
    obtain ⟨hline, hlines⟩ := List.forall_mem_cons.1 hn
    rw [unlines_cons_append, dropFraming_line hm hline, ih hlines, List.filter_cons]
    cases isMarked mark line with
    | true => rfl
    | false => simp [unlines]

/-- No framing line is found in the middle of a line. -/
theorem hasFramingLine_false_append (hn : '\n' ∉ s) :
    hasFramingLine mark false (s ++ t) = hasFramingLine mark false t := by
  induction s with
  | nil => rfl
  | cons d s ih =>
    rw [List.mem_cons, not_or] at hn
    have hinside : (d == '\n') = false := beq_false_of_ne (Ne.symm hn.1)
    rw [List.cons_append, hasFramingLine, hinside, ih hn.2]
    rfl

/-- A framing line begins a text or is found behind its first character. -/
theorem hasFramingLine_true :
    hasFramingLine mark true s = ((framingLine? mark s).isSome || hasFramingLine mark false s) := by
  cases s with
  | nil =>
    have hnone : framingLine? mark [] = none := framingLine?_of_not_mem (by simp)
    rw [hnone]
    rfl
  | cons d s =>
    rw [hasFramingLine, hasFramingLine]
    rfl

/-- A text has a framing line if one of its lines is marked. -/
theorem hasFramingLine_unlines_append (hm : '\n' ∉ mark) (hn : ∀ line ∈ lines, '\n' ∉ line)
    (hl : '\n' ∉ last) :
    hasFramingLine mark true (unlines lines ++ last) = lines.any (isMarked mark) := by
  induction lines with
  | nil =>
    have hrest : hasFramingLine mark false (last ++ []) = hasFramingLine mark false [] :=
      hasFramingLine_false_append hl
    rw [List.append_nil] at hrest
    change hasFramingLine mark true last = false
    rw [hasFramingLine_true, framingLine?_of_not_mem hl, hrest]
    rfl
  | cons line lines ih =>
    obtain ⟨hline, hlines⟩ := List.forall_mem_cons.1 hn
    rw [unlines_cons_append, hasFramingLine_true, framingLine?_line hm hline,
      hasFramingLine_false_append hline, hasFramingLine, List.any_cons, ← ih hlines]
    cases isMarked mark line <;> rfl

end Marks

section Sections

/-- Whether a line, without its line feed, opens or closes a section and does nothing else. -/
def isFraming (line : List Char) : Bool :=
  isMarked cdataOpen line || isMarked cdataClose line

/-- Without the lines that frame sections a text has its other lines left. -/
theorem stripCdataFraming_unlines_append (hn : ∀ line ∈ lines, '\n' ∉ line) (hl : '\n' ∉ last) :
    stripCdataFraming (unlines lines ++ last) = unlines (lines.filter (!isFraming ·)) ++ last := by
  have hleft := newline_not_mem_filter (!isMarked cdataOpen ·) hn
  rw [stripCdataFraming, dropFraming_unlines_append (by decide) hn hl,
    dropFraming_unlines_append (by decide) hleft hl, List.filter_filter]
  simp only [isFraming, Bool.not_or, Bool.and_comm]

/-- A text is framed if one of its lines frames a section. -/
theorem hasCdataFraming_unlines_append (hn : ∀ line ∈ lines, '\n' ∉ line) (hl : '\n' ∉ last) :
    hasCdataFraming (unlines lines ++ last) = lines.any isFraming := by
  rw [hasCdataFraming, hasFramingLine_unlines_append (by decide) hn hl,
    hasFramingLine_unlines_append (by decide) hn hl]
  induction lines with
  | nil => rfl
  | cons line lines ih =>
    rw [List.any_cons, List.any_cons, List.any_cons, ← ih (List.forall_mem_cons.1 hn).2, isFraming]
    cases isMarked cdataOpen line <;> cases isMarked cdataClose line <;> simp

end Sections

section Lines

/-- The lines of a text, each with the line feed that ends it; the last one is what follows the
last line feed. -/
def fedLines (s : List Char) : List (List Char) :=
  (splitLines s).dropLast.map (· ++ ['\n']) ++ (splitLines s).getLast?.toList

/-- A line with its line feed holds spaces and tabs, what opens or closes a section,
and nothing else. -/
def Frames (line : List Char) : Prop :=
  ∃ indent mark, (∀ c ∈ indent, c = ' ' ∨ c = '\t') ∧ (mark = cdataOpen ∨ mark = cdataClose) ∧
    line = indent ++ mark ++ ['\n']

/-- A text is cut into whole lines and what follows them. -/
theorem exists_unlines_append (s : List Char) :
    ∃ lines last, s = unlines lines ++ last ∧ (∀ line ∈ lines, '\n' ∉ line) ∧ '\n' ∉ last := by
  induction s with
  | nil => exact ⟨[], [], rfl, by simp, by simp⟩
  | cons c s ih =>
    obtain ⟨lines, last, rfl, hn, hl⟩ := ih
    by_cases hc : c = '\n'
    · exact ⟨[] :: lines, last, by simp [unlines, hc], by simpa using hn, hl⟩
    · cases lines with
      | nil => exact ⟨[], c :: last, rfl, by simp, by simp [Ne.symm hc, hl]⟩
      | cons line lines =>
        obtain ⟨hline, hlines⟩ := List.forall_mem_cons.1 hn
        refine ⟨(c :: line) :: lines, last, by simp [unlines], ?_, hl⟩
        exact List.forall_mem_cons.2 ⟨by simp [Ne.symm hc, hline], hlines⟩

/-- The lines of a text are those that it is made of. -/
theorem fedLines_unlines_append (hn : ∀ line ∈ lines, '\n' ∉ line) (hl : '\n' ∉ last) :
    fedLines (unlines lines ++ last) = lines.map (· ++ ['\n']) ++ [last] := by
  have hsplit : splitLines (unlines lines ++ last) = lines ++ [last] := by
    induction lines with
    | nil => exact List.splitOn_eq_singleton hl
    | cons line lines ih =>
      obtain ⟨hline, hlines⟩ := List.forall_mem_cons.1 hn
      rw [unlines_cons_append, splitLines, List.splitOn_append_cons_self_of_not_mem hline,
        ← splitLines, ih hlines]
      rfl
  rw [fedLines, hsplit, List.dropLast_concat, List.getLast?_concat]
  rfl

/-- Lines with their line feeds, and what follows them, are a text. -/
theorem flatten_map_append (lines : List (List Char)) (last : List Char) :
    (lines.map (· ++ ['\n']) ++ [last]).flatten = unlines lines ++ last := by
  rw [List.flatten_append, List.flatten_singleton, ← List.flatMap_def, unlines]

/-- The lines of a text make up the text. -/
theorem flatten_fedLines (s : List Char) : (fedLines s).flatten = s := by
  obtain ⟨lines, last, rfl, hn, hl⟩ := exists_unlines_append s
  rw [fedLines_unlines_append hn hl, flatten_map_append]

/-- A line frames a section if that is what stands behind its indentation. -/
theorem frames_iff :
    Frames line ↔ line.dropWhile isIndent = cdataOpen ++ ['\n'] ∨
      line.dropWhile isIndent = cdataClose ++ ['\n'] := by
  have hbehind : ∀ indent mark, (∀ c ∈ indent, c = ' ' ∨ c = '\t') →
      (mark = cdataOpen ∨ mark = cdataClose) →
      (indent ++ mark ++ ['\n']).dropWhile isIndent = mark ++ ['\n'] := by
    intro indent mark hindent hmark
    rw [List.append_assoc,
      List.dropWhile_append_of_pos fun c hc => by simpa [isIndent] using hindent c hc]
    rcases hmark with rfl | rfl <;> rfl
  have hfront : ∀ c ∈ line.takeWhile isIndent, c = ' ' ∨ c = '\t' := fun c hc => by
    simpa [isIndent] using List.mem_takeWhile_imp hc
  have hline : ∀ {rest}, line.dropWhile isIndent = rest →
      line = line.takeWhile isIndent ++ rest := by
    rintro rest rfl
    exact List.takeWhile_append_dropWhile.symm
  constructor
  · rintro ⟨indent, mark, hindent, hmark, rfl⟩
    rw [hbehind indent mark hindent hmark]
    exact hmark.imp (congrArg (· ++ ['\n'])) (congrArg (· ++ ['\n']))
  · rintro (h | h)
    · exact ⟨_, cdataOpen, hfront, Or.inl rfl, (hline h).trans (List.append_assoc _ _ _).symm⟩
    · exact ⟨_, cdataClose, hfront, Or.inr rfl, (hline h).trans (List.append_assoc _ _ _).symm⟩

instance (line : List Char) : Decidable (Frames line) :=
  decidable_of_iff _ frames_iff.symm

/-- A line frames a section by what stands in front of its line feed. -/
theorem frames_concat_iff : Frames (line ++ ['\n']) ↔ isFraming line = true := by
  rw [frames_iff, dropWhile_isIndent_append, List.append_left_inj, List.append_left_inj, isFraming,
    Bool.or_eq_true, isMarked, isMarked, beq_iff_eq, beq_iff_eq]

/-- A line frames a section only up to its line feed. -/
theorem not_frames_of_not_mem (hl : '\n' ∉ line) : ¬Frames line := by
  rintro ⟨indent, mark, -, -, rfl⟩
  exact hl (by simp)

/-- The lines that do not frame a section are those that a text is left with. -/
theorem filter_not_frames (hl : '\n' ∉ last) :
    (lines.map (· ++ ['\n']) ++ [last]).filter (¬Frames ·) =
      (lines.filter (!isFraming ·)).map (· ++ ['\n']) ++ [last] := by
  have hlines : (lines.map (· ++ ['\n'])).filter (¬Frames ·) =
      (lines.filter (!isFraming ·)).map (· ++ ['\n']) := by
    rw [List.filter_map]
    refine congrArg _ (List.filter_congr fun line _ => ?_)
    simp [frames_concat_iff]
  rw [List.filter_append, hlines, List.filter_singleton, decide_eq_true (not_frames_of_not_mem hl),
    cond_true]

/-- A text loses lines only if one of them frames a section. -/
theorem unlines_filter_eq_iff (hn : ∀ line ∈ lines, '\n' ∉ line) :
    unlines (lines.filter (!isFraming ·)) ++ last = unlines lines ++ last ↔
      lines.any isFraming = false := by
  have hleft := newline_not_mem_filter (!isFraming ·) hn
  rw [List.append_left_inj, List.any_eq_false]
  constructor
  · intro he
    have hlines := congrArg wholeLines he
    rw [wholeLines_unlines hleft, wholeLines_unlines hn] at hlines
    simpa using List.filter_eq_self.1 hlines
  · intro hnone
    rw [List.filter_eq_self.2 (by simpa using hnone)]

/-- **A section is left with the lines that do not frame it.** The text is the lines it is cut into,
each with its line feed; it carries framing lines if and only if it loses some, and when it has lost
them there are none left to lose. -/
theorem stripCdataFraming_eq (s : List Char) :
    (fedLines s).flatten = s ∧
      stripCdataFraming s = ((fedLines s).filter (¬Frames ·)).flatten ∧
      (hasCdataFraming s = true ↔ stripCdataFraming s ≠ s) ∧
      hasCdataFraming (stripCdataFraming s) = false ∧
      stripCdataFraming (stripCdataFraming s) = stripCdataFraming s := by
  obtain ⟨lines, last, rfl, hn, hl⟩ := exists_unlines_append s
  have hleft := newline_not_mem_filter (!isFraming ·) hn
  have hnone : (lines.filter (!isFraming ·)).any isFraming = false := by
    rw [List.any_eq_false]
    intro line hm
    simpa using List.of_mem_filter hm
  refine ⟨flatten_fedLines _, ?_, ?_, ?_, ?_⟩
  · rw [stripCdataFraming_unlines_append hn hl, fedLines_unlines_append hn hl, filter_not_frames hl,
      flatten_map_append]
  · rw [hasCdataFraming_unlines_append hn hl, stripCdataFraming_unlines_append hn hl, ne_eq,
      unlines_filter_eq_iff hn, Bool.not_eq_false]
  · rw [stripCdataFraming_unlines_append hn hl, hasCdataFraming_unlines_append hleft hl, hnone]
  · rw [stripCdataFraming_unlines_append hn hl, stripCdataFraming_unlines_append hleft hl,
      (unlines_filter_eq_iff hleft).2 hnone]

end Lines

end HtmlToHaml.Haml
