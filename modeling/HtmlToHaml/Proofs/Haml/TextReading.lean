import HtmlToHaml.Proofs.Haml.Sealed
import HtmlToHaml.Proofs.Haml.Shift

/-!
# Reading plain text back

A line of plain text is read in three steps, the escapes in the reverse of the order in which they
were put on: the backslash in front of a special character is dropped, interpolations that were
taken back stand for themselves, and references stand for their characters. The escapes neither move
nor hide a line break or the white space around a line, so the lines that are read are the trimmed
lines of the text.
-/

namespace HtmlToHaml.Haml

open Text

/-- The text with the references to ampersands and angle brackets read, in one pass. -/
def readReferences : List Char → List Char
  | '&' :: 'l' :: 't' :: ';' :: s => '<' :: readReferences s
  | '&' :: 'g' :: 't' :: ';' :: s => '>' :: readReferences s
  | '&' :: 'a' :: 'm' :: 'p' :: ';' :: s => '&' :: readReferences s
  | c :: s => c :: readReferences s
  | [] => []

/-- The text with the interpolations that were taken back standing for themselves. -/
def readInterpolations : List Char → List Char
  | '\\' :: '#' :: '{' :: s => '#' :: '{' :: readInterpolations s
  | c :: s => c :: readInterpolations s
  | [] => []

/-- The text without the backslash that stands before a special character. A backslash that takes
back an interpolation stays. -/
def dropBackslash : List Char → List Char
  | '\\' :: '#' :: '{' :: s => '\\' :: '#' :: '{' :: s
  | '\\' :: s => s
  | s => s

/-- The text that a line at a level stands for, if the line has the indentation of the level. -/
def readLine (level : Nat) (line : List Char) : Option (List Char) :=
  (stripPrefix? (indentation level) line).map fun text =>
    readReferences (readInterpolations (dropBackslash text))

variable {s t line : List Char} {c : Char} {level : Nat}

section Escapes

/-- References are read back. -/
theorem readReferences_htmlEscape (s : List Char) : readReferences (htmlEscape s) = s := by
  induction s with
  | nil => rfl
  | cons c s ih =>
    rw [htmlEscape, List.flatMap_cons, ← htmlEscape]
    split
    · rw [List.cons_append, List.cons_append, List.cons_append, List.cons_append, List.cons_append,
        List.nil_append, readReferences, ih]
    · rw [List.cons_append, List.cons_append, List.cons_append, List.cons_append, List.nil_append,
        readReferences, ih]
    · rw [List.cons_append, List.cons_append, List.cons_append, List.cons_append, List.nil_append,
        readReferences, ih]
    · rename_i hamp _ _
      rw [List.singleton_append, readReferences, ih]
      all_goals exact fun _ hc => absurd hc hamp

/-- Interpolations that were taken back are read back. -/
theorem readInterpolations_escapeInterpolation (s : List Char) :
    readInterpolations (escapeInterpolation s) = s := by
  fun_induction escapeInterpolation s with
  | case1 s ih => rw [readInterpolations, ih]
  | case2 c s hopen ih =>
    rw [readInterpolations, ih]
    intro more _ he
    have hhead := sealed_escapeInterpolation s [] more he
    cases hhead
  | case3 => rfl

/-- Escaped text does not begin with an interpolation. -/
theorem escapeInterpolation_ne (s more : List Char) : escapeInterpolation s ≠ '#' :: '{' :: more :=
  fun he => by cases sealed_escapeInterpolation s [] more he

/-- What was put in front of an escaped line is dropped, and nothing else. -/
theorem dropBackslash_escape (s : List Char) :
    dropBackslash ((if needsEscape (escapeInterpolation s) then ['\\'] else []) ++
      escapeInterpolation s) = escapeInterpolation s := by
  split
  · rw [List.singleton_append, dropBackslash]
    exact escapeInterpolation_ne s
  · rename_i hn
    rw [List.nil_append]
    generalize escapeInterpolation s = text at hn ⊢
    fun_cases dropBackslash text with
    | case1 more => rfl
    | case2 more hopen =>
      refine absurd (needsEscape_cons.2 ⟨by decide, fun h => ?_⟩) hn
      obtain ⟨-, rest, rfl⟩ := h
      exact hopen rest rfl
    | case3 => rfl

/-- A line that was given a backslash, or needs none, begins with no other special character. -/
theorem eq_backslash_of_head? (hc : ((if needsEscape s then ['\\'] else []) ++ s).head? = some c)
    (hspecial : c ∈ specialCharacters) : c = '\\' := by
  split at hc
  · simpa using hc.symm
  · rename_i hn
    rw [List.nil_append] at hc
    obtain ⟨more, rfl⟩ := List.head?_eq_some_iff.1 hc
    rw [needsEscape_cons, not_and_not_right] at hn
    exact (hn hspecial).1

end Escapes

section Lines

/-- A space is no reference. -/
theorem htmlEscape_cons_of_isSpace (hc : isSpace c = true) (s : List Char) :
    htmlEscape (c :: s) = c :: htmlEscape s := by
  rw [htmlEscape, List.flatMap_cons, ← htmlEscape]
  split
  · exact absurd hc (by decide)
  · exact absurd hc (by decide)
  · exact absurd hc (by decide)
  · rfl

/-- What is no space is written as something that begins and ends with no space. -/
theorem shown_htmlEscape (hc : isSpace c = false) :
    (∃ d more, htmlEscape [c] = d :: more ∧ isSpace d = false) ∧
      ∃ d, (htmlEscape [c]).getLast? = some d ∧ isSpace d = false := by
  rw [htmlEscape, List.flatMap_singleton]
  split
  · exact ⟨⟨_, _, rfl, by decide⟩, _, rfl, by decide⟩
  · exact ⟨⟨_, _, rfl, by decide⟩, _, rfl, by decide⟩
  · exact ⟨⟨_, _, rfl, by decide⟩, _, rfl, by decide⟩
  · exact ⟨⟨_, _, rfl, hc⟩, _, rfl, hc⟩

/-- Leading white space is left out before references are put in or behind that. -/
theorem trimStart_htmlEscape (s : List Char) :
    trimStart (htmlEscape s) = htmlEscape (trimStart s) := by
  induction s with
  | nil => rfl
  | cons c s ih =>
    cases hc : isSpace c with
    | true =>
      rw [htmlEscape_cons_of_isSpace hc, trimStart_cons_of_isSpace hc, trimStart_cons_of_isSpace hc,
        ih]
    | false =>
      obtain ⟨⟨d, more, he, hd⟩, -⟩ := shown_htmlEscape hc
      rw [trimStart_cons hc, ← List.singleton_append, htmlEscape_append, he, List.cons_append,
        trimStart_cons hd]

/-- Trailing white space is left out before references are put in or behind that. -/
theorem trimEnd_htmlEscape (s : List Char) : trimEnd (htmlEscape s) = htmlEscape (trimEnd s) := by
  induction s using List.reverseRecOn with
  | nil => rfl
  | append_singleton s c ih =>
    cases hc : isSpace c with
    | true =>
      have hone : htmlEscape [c] = [c] := htmlEscape_cons_of_isSpace hc []
      rw [htmlEscape_append, hone, trimEnd_concat_of_isSpace hc, trimEnd_concat_of_isSpace hc, ih]
    | false =>
      obtain ⟨-, d, hlast, hd⟩ := shown_htmlEscape hc
      have hall : (htmlEscape (s ++ [c])).getLast? = some d := by
        rw [htmlEscape_append, List.getLast?_append, hlast, Option.some_or]
      rw [trimEnd_of_getLast? List.getLast?_concat hc, trimEnd_of_getLast? hall hd]

/-- A text is trimmed before the escapes or behind them. -/
theorem trim_escape (s : List Char) :
    trim (escapeInterpolation (htmlEscape s)) = escapeInterpolation (htmlEscape (trim s)) := by
  rw [trim_escapeInterpolation, trim_eq, trim_eq, trimStart_htmlEscape, trimEnd_htmlEscape]

/-- A text is cut into lines before the escapes or behind them. -/
theorem splitLines_escape (s : List Char) :
    splitLines (escapeInterpolation (htmlEscape s)) =
      (splitLines s).map fun line => escapeInterpolation (htmlEscape line) := by
  induction hl : s.length using Nat.strong_induction_on generalizing s with
  | _ n ih =>
    subst hl
    have hone : ∀ {line : List Char}, '\n' ∉ line →
        splitLines (escapeInterpolation (htmlEscape line)) =
          (splitLines line).map fun line => escapeInterpolation (htmlEscape line) := by
      intro line hn
      rw [splitLines, splitLines, List.splitOn_eq_singleton hn,
        List.splitOn_eq_singleton (newline_not_mem_escape hn)]
      rfl
    rcases lastLine_cases s with hn | ⟨front, line, rfl, hn⟩
    · exact hone hn
    · rw [escape_append_newline, splitLines_append_newline, splitLines_append_newline,
        List.map_append, ih front.length (by simp) front rfl, hone hn]

/-- The line in which a trimmed line of a text is written. -/
def plainLine (level : Nat) (line : List Char) : List Char :=
  indentation level ++
    ((if needsEscape (escapeInterpolation (htmlEscape line)) then ['\\'] else []) ++
    escapeInterpolation (htmlEscape line))

/-- The trimmed lines of a text; a blank text has none. -/
def trimmedLines (s : List Char) : List (List Char) :=
  if isBlank s then [] else (splitLines (trim s)).map trim

/-- A text is written as its trimmed lines. -/
theorem textLines_escape (s : List Char) (level : Nat) :
    textLines (escapeInterpolation (htmlEscape s)) level true =
      unlines ((trimmedLines s).map (plainLine level)) := by
  rw [textLines, isBlank_escapeInterpolation, isBlank_htmlEscape, trimmedLines]
  split
  · rfl
  · rw [trim_escape, splitLines_escape, unlines, List.flatMap_map, List.flatMap_map,
      List.flatMap_map]
    refine List.flatMap_congr fun line _ => ?_
    simp only [textLine, trim_escape, plainLine, Bool.true_and, List.append_assoc]

/-- A written line is one line if the line is. -/
theorem newline_not_mem_plainLine (hn : '\n' ∉ line) : '\n' ∉ plainLine level line := by
  rw [plainLine, List.mem_append, List.mem_append, not_or, not_or]
  refine ⟨newline_not_mem_indentation, ?_, newline_not_mem_escape hn⟩
  split <;> decide

/-- Trimmed lines are lines. -/
theorem newline_not_mem_trimmedLines (h : line ∈ trimmedLines s) : '\n' ∉ line := by
  rw [trimmedLines] at h
  split at h
  · cases h
  · obtain ⟨piece, hp, rfl⟩ := List.mem_map.1 h
    exact fun hn => newline_not_mem_of_mem_splitLines hp (mem_of_mem_trimBy hn)

/-- A written line is read back. -/
theorem readLine_plainLine (level : Nat) (line : List Char) :
    readLine level (plainLine level line) = some line := by
  rw [readLine, plainLine, stripPrefix?_append, Option.map_some, dropBackslash_escape,
    readInterpolations_escapeInterpolation, readReferences_htmlEscape]

end Lines

/-- **Plain text is read back line by line, and no line of it is a construct.** The lines make up
the whole text; read one by one they are the trimmed lines of the source, and behind its indentation
none of them begins with a special character other than a backslash. -/
theorem read_textLines (s : List Char) (level : Nat) :
    unlines (wholeLines (textLines (escapeInterpolation (htmlEscape s)) level true)) =
        textLines (escapeInterpolation (htmlEscape s)) level true ∧
      (wholeLines (textLines (escapeInterpolation (htmlEscape s)) level true)).mapM
        (readLine level) = some (trimmedLines s) ∧
      ∀ line ∈ wholeLines (textLines (escapeInterpolation (htmlEscape s)) level true), ∀ text c,
        line = indentation level ++ text → text.head? = some c → c ∈ specialCharacters →
          c = '\\' := by
  have hn : ∀ line ∈ (trimmedLines s).map (plainLine level), '\n' ∉ line := by
    intro line hl
    obtain ⟨source, hs, rfl⟩ := List.mem_map.1 hl
    exact newline_not_mem_plainLine (newline_not_mem_trimmedLines hs)
  rw [textLines_escape, wholeLines_unlines hn]
  refine ⟨rfl, ?_, fun line hl text c he hc hspecial => ?_⟩
  · have hread : readLine level ∘ plainLine level = fun line => pure (id line) :=
      funext (readLine_plainLine level)
    rw [List.mapM_map, hread, List.mapM_pure, List.map_id]
    rfl
  · obtain ⟨source, -, rfl⟩ := List.mem_map.1 hl
    rw [plainLine, List.append_cancel_left_eq] at he
    exact eq_backslash_of_head? (he ▸ hc) hspecial

/-- An interpolation behind a backslash, a reference and a special character. -/
example :
    (wholeLines (textLines (escapeInterpolation (htmlEscape " \\#{a} &amp;\n\n = <b> ".toList)) 1
    true)).mapM (readLine 1) = some ["\\#{a} &amp;".toList, [], "= <b>".toList] := by decide

end HtmlToHaml.Haml
