import HtmlToHaml.Proofs.Haml.BlockCount
import HtmlToHaml.Proofs.Outline.Sealing
import HtmlToHaml.Proofs.Text.Words

/-!
# The lines of a comment

A comment begins with a slash at its level, and its body stands on that line or a level deeper. The
condition of a conditional comment is copied behind the slash as it is, with the line feeds that it
holds. The main statement is that all lines of a comment but the first stand a level deeper exactly
if those of its condition do so by themselves.
-/

namespace HtmlToHaml.Haml

open Text

variable {s t content condition inside body line : List Char} {c : Char} {level : Nat}

section LaterLines

/-- All lines of a text but the first one stand at a level. -/
def LaterLinesAt (level : Nat) (s : List Char) : Prop :=
  ∀ line ∈ (splitLines s).tail, indentation level <+: line

/-- A text on one line has no other lines. -/
theorem laterLinesAt_of_not_mem (hs : '\n' ∉ s) : LaterLinesAt level s := by
  intro line hl
  rw [splitLines, List.splitOn_eq_singleton hs] at hl
  cases hl

/-- What stands before a text goes on in its first line. -/
theorem splitLines_append_left (hs : '\n' ∉ s) (t : List Char) :
    splitLines (s ++ t) = (splitLines t).modifyHead (s ++ ·) :=
  splitOnP_append_left (fun c hc => by simpa using fun he : c = '\n' => hs (he ▸ hc)) t

/-- What stands before a text on its first line does not matter to its later lines. -/
theorem laterLinesAt_append_left (hs : '\n' ∉ s) :
    LaterLinesAt level (s ++ t) ↔ LaterLinesAt level t := by
  rw [LaterLinesAt, LaterLinesAt, splitLines_append_left hs, List.tail_modifyHead]

/-- A line stands at a level whatever is written behind it, if that begins with no space. -/
theorem indentation_isPrefix_append_cons (hc : c ≠ ' ') :
    indentation level <+: line ++ c :: t ↔ indentation level <+: line := by
  refine ⟨fun h => ?_, fun h => h.trans (List.prefix_append _ _)⟩
  rcases List.prefix_or_prefix_of_prefix h (List.prefix_append line (c :: t)) with
    hline | ⟨more, hmore⟩
  · exact hline
  · cases more with
    | nil => rw [← hmore, List.append_nil]
    | cons d more =>
      -- What the line lacks of the indentation would be the text behind it.
      rw [← hmore, List.prefix_append_right_inj, List.cons_prefix_cons] at h
      have hd : d ∈ indentation level := by simp [← hmore]
      exact absurd (h.1.symm.trans (List.eq_of_mem_replicate hd)) hc

/-- What stands behind a text on its last line does not matter to its later lines, if it begins
with no space. -/
theorem laterLinesAt_append_right (hc : c ≠ ' ') (ht : '\n' ∉ c :: t) :
    LaterLinesAt level (s ++ c :: t) ↔ LaterLinesAt level s := by
  have hs : splitLines s = (splitLines s).dropLast ++ [lastLine s] := by
    simpa using splitLines_append (s := s) (t := []) List.not_mem_nil
  rw [LaterLinesAt, LaterLinesAt, splitLines_append ht]
  conv_rhs => rw [hs]
  cases (splitLines s).dropLast with
  | nil => simp
  | cons first mid =>
    simp only [List.cons_append, List.tail_cons, List.forall_mem_append, List.forall_mem_singleton,
      indentation_isPrefix_append_cons hc]

end LaterLines

section Conditions

/-- A comment with a condition in square brackets and a body between its marks. -/
structure IsConditional (content inside body : List Char) : Prop where
  /-- The condition says something. -/
  ne_nil : inside ≠ []
  /-- The first bracket that closes ends it. -/
  bracket_not_mem : ']' ∉ inside
  /-- The marks stand around the body. -/
  eq_append : content = '[' :: inside ++ ']' :: '>' :: (body ++ conditionEnd)

/-- An end that was put behind a text is taken away. -/
theorem stripSuffix?_append (s suffix : List Char) :
    stripSuffix? suffix (s ++ suffix) = some s := by
  rw [stripSuffix?, List.reverse_append, stripPrefix?_append, Option.map_some, List.reverse_reverse]

/-- Brackets with something between them are a condition, if the end mark stands at the end. -/
theorem condition?_brackets (hb : ']' ∉ inside) :
    condition? ('[' :: inside ++ ']' :: '>' :: s) =
      if inside.isEmpty then none
      else (stripSuffix? conditionEnd s).map fun body => ('[' :: inside ++ [']'], body) := by
  have hinside : ∀ c ∈ inside, decide (c ≠ ']') = true := by
    intro c hc
    have hne : c ≠ ']' := fun he => hb (he ▸ hc)
    simpa using hne
  have htake : (inside ++ ']' :: '>' :: s).takeWhile (· ≠ ']') = inside := by
    rw [List.takeWhile_append_of_pos hinside, List.takeWhile_cons_of_neg (by simp), List.append_nil]
  have hdrop : (inside ++ ']' :: '>' :: s).dropWhile (· ≠ ']') = ']' :: '>' :: s := by
    rw [List.dropWhile_append_of_pos hinside, List.dropWhile_cons_of_neg (by simp)]
  rw [List.cons_append, condition?]
  simp only [htake, hdrop]

/-- A condition is found exactly where one is written. -/
theorem condition?_eq_some_iff :
    condition? content = some (condition, body) ↔
      ∃ inside, condition = '[' :: inside ++ [']'] ∧ IsConditional content inside body := by
  constructor
  · intro h
    obtain ⟨inside, rfl, hb, rfl⟩ := exists_of_condition? h
    refine ⟨inside, rfl, ?_, hb, rfl⟩
    rintro rfl
    rw [condition?_brackets hb] at h
    cases h
  · rintro ⟨inside, rfl, hne, hb, rfl⟩
    rw [condition?_brackets hb, if_neg (by simpa using hne), stripSuffix?_append, Option.map_some]

end Conditions

section Lines

/-- The lines of a text, each ended by a line feed, are the text and a line feed behind it. -/
theorem unlines_splitLines (s : List Char) : unlines (splitLines s) = s ++ ['\n'] := by
  induction s with
  | nil => rfl
  | cons c s ih =>
    rw [splitLines, List.splitOn_cons_eq_if_modifyHead, ← splitLines]
    obtain ⟨first, more, hs⟩ := List.exists_cons_of_ne_nil (List.splitOn_ne_nil '\n' s)
    rw [← splitLines] at hs
    split
    · rename_i hc
      rw [beq_iff_eq.1 hc, List.cons_append, ← ih]
      rfl
    · rw [List.cons_append, ← ih, hs]
      rfl

/-- Lines behind lines. -/
theorem unlines_append (lines more : List (List Char)) :
    unlines (lines ++ more) = unlines lines ++ unlines more :=
  List.flatMap_append

/-- Text is written as lines at its level. -/
theorem exists_unlines_textLines (s : List Char) (level : Nat) (escapeSpecial : Bool) :
    ∃ rows, textLines s level escapeSpecial = unlines rows ∧
      ∀ row ∈ rows, '\n' ∉ row ∧ indentation level <+: row := by
  rw [textLines]
  split
  · exact ⟨[], rfl, by simp⟩
  · refine ⟨(splitLines (trim s)).map fun line => indentation level ++
      ((if escapeSpecial && needsEscape (trim line) then ['\\'] else []) ++ trim line), ?_, ?_⟩
    · simp only [unlines, List.flatMap_map, textLine, List.append_assoc]
    · intro row hr
      obtain ⟨line, hl, rfl⟩ := List.mem_map.1 hr
      have htrim : '\n' ∉ trim line := fun hn =>
        newline_not_mem_of_mem_splitLines hl (mem_of_mem_trimBy hn)
      refine ⟨?_, List.prefix_append _ _⟩
      split <;> simp [indentation, htrim]

/-- What stands behind the slash goes on at a level if the condition does. -/
theorem laterLinesAt_commentHead (content : List Char) (level : Nat) :
    LaterLinesAt level (commentHead content) ↔
      ∀ inside body, IsConditional content inside body → LaterLinesAt level inside := by
  have hinline : ∀ body : List Char,
      '\n' ∉ if hasLineFeed body || isBlank body then [] else ' ' :: trim body := by
    intro body
    split
    · exact List.not_mem_nil
    · rename_i hbody
      rw [List.mem_cons, not_or]
      refine ⟨by decide, fun hn => hbody ?_⟩
      rw [Bool.or_eq_true]
      exact Or.inl (List.contains_iff_mem.2 (mem_of_mem_trimBy hn))
  rw [commentHead]
  cases hf : condition? content with
  | none =>
    refine iff_of_true (laterLinesAt_of_not_mem (hinline content)) fun inside body hc => ?_
    rw [condition?_eq_some_iff.2 ⟨inside, rfl, hc⟩] at hf
    cases hf
  | some found =>
    obtain ⟨condition, body⟩ := found
    obtain ⟨inside, rfl, hc⟩ := condition?_eq_some_iff.1 hf
    have hall : (∀ inside' body', IsConditional content inside' body' →
        LaterLinesAt level inside') ↔ LaterLinesAt level inside := by
      refine ⟨fun h => h inside body hc, fun h inside' body' hc' => ?_⟩
      rw [condition?_eq_some_iff.2 ⟨inside', rfl, hc'⟩] at hf
      have hinside : inside' = inside := by simpa using congrArg Prod.fst (Option.some.inj hf)
      exact hinside ▸ h
    rw [hall, Option.getD_some]
    dsimp only
    rw [List.append_assoc, List.singleton_append, List.cons_append,
      ← List.singleton_append, laterLinesAt_append_left (by decide)]
    refine laterLinesAt_append_right (by decide) ?_
    rw [List.mem_cons, not_or]
    exact ⟨by decide, hinline body⟩

/-- **A comment stands below its slash exactly if its condition does.** The comment is made of whole
lines, the first of which begins with a slash at the level of the comment; the others stand a level
deeper if and only if the later lines of the condition are indented as deep by themselves. -/
theorem lines_commentBlock (content : List Char) (level : Nat) :
    ∃ first more, commentBlock content level = unlines (first :: more) ∧
      (∀ line ∈ first :: more, '\n' ∉ line) ∧ indentation level ++ ['/'] <+: first ∧
      ((∀ line ∈ more, indentation (level + 1) <+: line) ↔
        ∀ inside body, IsConditional content inside body → LaterLinesAt (level + 1) inside) := by
  have hslash : '\n' ∉ indentation level ++ ['/'] := by simp [indentation]
  obtain ⟨rows, hrows, hrow⟩ : ∃ rows,
      commentBlock content level =
        (indentation level ++ ['/'] ++ commentHead content) ++ '\n' :: unlines rows ∧
      ∀ row ∈ rows, '\n' ∉ row ∧ indentation (level + 1) <+: row := by
    rw [commentBlock_eq]
    split
    · obtain ⟨rows, he, hrow⟩ := exists_unlines_textLines
        (escapeInterpolation ((condition? content).getD ([], content)).2) (level + 1) true
      exact ⟨rows, by rw [he]; simp, hrow⟩
    · exact ⟨[], by simp [unlines], by simp⟩
  obtain ⟨first, more, hhead⟩ := List.exists_cons_of_ne_nil
    (List.splitOn_ne_nil '\n' (commentHead content))
  rw [← splitLines] at hhead
  have hlines : splitLines (indentation level ++ ['/'] ++ commentHead content) =
      (indentation level ++ ['/'] ++ first) :: more := by
    rw [splitLines_append_left hslash, hhead]
    rfl
  refine ⟨indentation level ++ ['/'] ++ first, more ++ rows, ?_, ?_, List.prefix_append _ _, ?_⟩
  · rw [hrows, ← List.cons_append, ← hlines, unlines_append, unlines_splitLines,
      List.append_assoc _ ['\n'], List.singleton_append]
  · intro line hl
    rw [← List.cons_append, ← hlines, List.mem_append] at hl
    exact hl.elim newline_not_mem_of_mem_splitLines fun hl => (hrow line hl).1
  · have hmore : (∀ line ∈ more, indentation (level + 1) <+: line) ↔
        LaterLinesAt (level + 1) (commentHead content) := by
      rw [LaterLinesAt, hhead, List.tail_cons]
    rw [List.forall_mem_append, hmore, laterLinesAt_commentHead]
    exact and_iff_left fun row hr => (hrow row hr).2

/-- A comment whose condition goes on in a line of its own, as it might stand in a template. -/
def brokenCondition : List Char :=
  "[if IE\n= exit]>old<![endif]".toList

/-- Not every line of a comment stands below its slash. -/
theorem not_lines_commentBlock :
    ¬ ∀ (content : List Char) (level : Nat) (first : List Char) (more : List (List Char)),
      commentBlock content level = unlines (first :: more) → (∀ line ∈ first :: more, '\n' ∉ line) →
      ∀ line ∈ more, indentation (level + 1) <+: line := by
  intro h
  have hline := h brokenCondition 0 "/[if IE".toList ["= exit] old".toList] (by decide) (by decide)
    "= exit] old".toList List.mem_cons_self
  exact absurd hline (by decide)

end Lines

end HtmlToHaml.Haml
