import HtmlToHaml.Haml.FilterBlock
import HtmlToHaml.Proofs.Haml.Shift
import HtmlToHaml.Proofs.Text.Lines

/-!
# The body of a filter

The body of a filter is its text without the blank lines at either end. It is moved as a whole if
its lines share the white space that the first one begins with, and left alone otherwise. Either way
the lines that come out are a body again, and the indentation that it was given is what they share;
so a body that is moved twice stands where the second move puts it.
-/

namespace HtmlToHaml.Haml

open Text

variable {s line rest indent : List Char} {body : List (List Char)} {level : Nat}

section Lines

/-- A text is blank exactly if all of its lines are. -/
theorem isBlank_eq_all_splitLines (s : List Char) : isBlank s = (splitLines s).all isBlank := by
  induction hl : s.length using Nat.strong_induction_on generalizing s with
  | _ n ih =>
    subst hl
    have hone : ∀ {line : List Char}, '\n' ∉ line →
        isBlank line = (splitLines line).all isBlank := by
      intro line hn
      rw [splitLines, List.splitOn_eq_singleton hn, List.all_cons, List.all_nil, Bool.and_true]
    rcases lastLine_cases s with hn | ⟨front, line, rfl, hn⟩
    · exact hone hn
    · rw [splitLines_append_newline, List.all_append, ← hone hn,
        ← ih front.length (by simp) front rfl, isBlank, List.all_append, List.all_cons,
        isSpace_newline, Bool.true_and]
      rfl

/-- Neither the first nor the last of some lines is blank. -/
structure Edged (body : List (List Char)) : Prop where
  /-- The first line is not blank. -/
  head : ∀ line ∈ body.head?, isBlank line = false
  /-- The last line is not blank. -/
  last : ∀ line ∈ body.getLast?, isBlank line = false

/-- The lines of a text from the first to the last that is not blank. -/
structure IsBody (s : List Char) (body : List (List Char)) : Prop extends Edged body where
  /-- All other lines are blank. -/
  around : ∃ front back, splitLines s = front ++ body ++ back ∧
    ∀ line ∈ front ++ back, isBlank line = true

/-- The lines that are taken as the body are the body. -/
theorem isBody_bodyLines (s : List Char) : IsBody s (bodyLines s) := by
  have hhead : ∀ lines : List (List Char), ∀ line ∈ (lines.dropWhile isBlank).head?,
      isBlank line = false := by
    intro lines line hl
    have hnot := List.head?_dropWhile_not isBlank lines
    rw [Option.mem_def.1 hl] at hnot
    simpa using hnot
  obtain ⟨back, hback, hrest⟩ : ∃ back : List (List Char), back.all isBlank = true ∧
      (splitLines s).dropWhile isBlank = bodyLines s ++ back := by
    refine ⟨(((splitLines s).dropWhile isBlank).reverse.takeWhile isBlank).reverse, ?_, ?_⟩
    · rw [List.all_reverse]
      exact List.all_takeWhile
    · rw [bodyLines, ← List.reverse_append, List.takeWhile_append_dropWhile, List.reverse_reverse]
  refine ⟨⟨fun line hl => ?_, fun line hl => ?_⟩, (splitLines s).takeWhile isBlank, back, ?_, ?_⟩
  · apply hhead (splitLines s)
    rw [hrest, List.head?_append, Option.mem_def.1 hl, Option.some_or]
    rfl
  · rw [bodyLines, List.getLast?_reverse] at hl
    exact hhead _ line hl
  · rw [List.append_assoc, ← hrest, List.takeWhile_append_dropWhile]
  · intro line hl
    rcases List.mem_append.1 hl with hl | hl
    · exact List.all_eq_true.1 List.all_takeWhile line hl
    · exact List.all_eq_true.1 hback line hl

/-- A text has one body. -/
theorem IsBody.bodyLines_eq (h : IsBody s body) : bodyLines s = body := by
  obtain ⟨front, back, hs, hblank⟩ := h.around
  have hfront : ∀ line ∈ front, isBlank line = true := fun line hl =>
    hblank line (List.mem_append_left _ hl)
  have hback : ∀ line ∈ back, isBlank line = true := fun line hl =>
    hblank line (List.mem_append_right _ hl)
  rcases body with _ | ⟨first, rest⟩
  · have hall : (splitLines s).dropWhile isBlank = [] := by
      rw [hs, List.append_nil, List.dropWhile_eq_nil_iff]
      exact hblank
    rw [bodyLines, hall]
    rfl
  · have hfirst := h.head first rfl
    have hstart : (splitLines s).dropWhile isBlank = first :: rest ++ back := by
      rw [hs, List.append_assoc, List.dropWhile_append_of_pos hfront, List.cons_append,
        List.dropWhile_cons_of_neg (Bool.eq_false_iff.1 hfirst)]
    obtain ⟨inner, final, he⟩ :=
      (List.eq_nil_or_concat' (first :: rest)).resolve_left (List.cons_ne_nil first rest)
    have hfinal : isBlank final = false := h.last final (by rw [he, List.getLast?_concat]; rfl)
    rw [bodyLines, hstart, he, List.reverse_append,
      List.dropWhile_append_of_pos (by simpa using hback), List.reverse_concat,
      List.dropWhile_cons_of_neg (Bool.eq_false_iff.1 hfinal), List.reverse_cons,
      List.reverse_reverse]

/-- Lines that are ended by line feeds are a body if neither the first nor the last is blank. -/
theorem Edged.isBody_unlines (h : Edged body) (hn : ∀ line ∈ body, '\n' ∉ line) :
    IsBody (unlines body) body := by
  refine ⟨h, [], [[]], ?_, ?_⟩
  · rw [splitLines_unlines hn, List.nil_append]
  · simp [isBlank]

/-- The body is empty exactly if the text is blank. -/
theorem bodyLines_eq_nil_iff : bodyLines s = [] ↔ isBlank s = true := by
  rw [isBlank_eq_all_splitLines, List.all_eq_true]
  constructor
  · intro hb
    obtain ⟨front, back, hs, hblank⟩ := (isBody_bodyLines s).around
    rw [hs, hb, List.append_nil]
    exact hblank
  · intro hall
    have hbody : IsBody s [] := ⟨⟨nofun, nofun⟩, splitLines s, [], by simp, by simpa using hall⟩
    exact hbody.bodyLines_eq

/-- Lines come to nothing only if there are none. -/
theorem unlines_eq_nil_iff : unlines body = [] ↔ body = [] := by
  cases body with
  | nil => exact iff_of_true rfl rfl
  | cons line rest => simp [unlines]

/-- A body is made of lines. -/
theorem newline_not_mem_of_mem_bodyLines (h : line ∈ bodyLines s) : '\n' ∉ line := by
  obtain ⟨front, back, hs, -⟩ := (isBody_bodyLines s).around
  apply newline_not_mem_of_mem_splitLines (s := s)
  rw [hs]
  simp [h]

end Lines

section Indentation

/-- What a line begins with is white space. -/
theorem isBlank_leadingSpace (line : List Char) : isBlank (leadingSpace line) = true :=
  List.all_takeWhile

/-- A line that is not blank goes on behind its leading white space with a character that shows. -/
theorem exists_of_leadingSpace (h : isBlank line = false) :
    ∃ c rest, line = leadingSpace line ++ c :: rest ∧ isSpace c = false := by
  have hsplit : leadingSpace line ++ line.dropWhile isSpace = line :=
    List.takeWhile_append_dropWhile
  rcases hd : line.dropWhile isSpace with _ | ⟨c, rest⟩
  · have hblank : isBlank line = true := trimStart_eq_nil_iff.1 hd
    rw [h] at hblank
    cases hblank
  · have hnot := List.head?_dropWhile_not isSpace line
    rw [hd] at hnot hsplit
    exact ⟨c, rest, hsplit.symm, by simpa using hnot⟩

/-- The leading white space of a line ends at the first character that shows. -/
theorem leadingSpace_append_cons {c : Char} (hindent : isBlank indent = true)
    (hc : isSpace c = false) :
    leadingSpace (indent ++ c :: rest) = indent := by
  rw [leadingSpace, List.takeWhile_append_of_pos (List.all_eq_true.1 hindent),
    List.takeWhile_cons_of_neg (Bool.eq_false_iff.1 hc), List.append_nil]

/-- An indentation is white space. -/
theorem isBlank_indentation (level : Nat) : isBlank (indentation level) = true := by
  rw [isBlank, List.all_eq_true]
  intro c hc
  rw [List.eq_of_mem_replicate hc]
  decide

/-- White space in front of a line does not matter to whether the line is blank. -/
theorem isBlank_append_of_isBlank (hindent : isBlank indent = true) :
    isBlank (indent ++ rest) = isBlank rest := by
  rw [isBlank, List.all_append, ← isBlank, hindent, Bool.true_and, isBlank]

/-- A line shares an indentation if it is blank or begins with it. -/
theorem sharesIndent_iff :
    sharesIndent indent line = true ↔ isBlank line = true ∨ indent <+: line := by
  rw [sharesIndent, Bool.or_eq_true, Option.isSome_iff_exists]
  apply or_congr_right
  constructor
  · rintro ⟨rest, hrest⟩
    exact ⟨rest, (stripPrefix?_eq_some_iff.1 hrest).symm⟩
  · rintro ⟨rest, rfl⟩
    exact ⟨rest, stripPrefix?_append indent rest⟩

/-- A blank line becomes empty. -/
theorem moveLine_of_isBlank (h : isBlank line = true) : moveLine indent level line = [] :=
  if_pos h

/-- A line is moved from one indentation to the other. -/
theorem moveLine_append (level : Nat) (h : isBlank (indent ++ rest) = false) :
    moveLine indent level (indent ++ rest) = indentation level ++ rest := by
  rw [moveLine, if_neg (Bool.eq_false_iff.1 h), List.drop_left]

/-- What is left of a line that shares the indentation is blank or stands at the new level. -/
theorem moveLine_cases (level : Nat) (hindent : isBlank indent = true)
    (h : sharesIndent indent line = true) :
    (isBlank line = true ∧ moveLine indent level line = []) ∨
      ∃ rest, line = indent ++ rest ∧ isBlank rest = false ∧
        moveLine indent level line = indentation level ++ rest := by
  cases hb : isBlank line with
  | true => exact Or.inl ⟨rfl, moveLine_of_isBlank hb⟩
  | false =>
    obtain ⟨rest, rfl⟩ := (sharesIndent_iff.1 h).resolve_left (Bool.eq_false_iff.1 hb)
    exact Or.inr ⟨rest, rfl, (isBlank_append_of_isBlank hindent).symm.trans hb,
      moveLine_append level hb⟩

/-- A move keeps whether a line is blank. -/
theorem isBlank_moveLine (hindent : isBlank indent = true) (h : sharesIndent indent line = true) :
    isBlank (moveLine indent level line) = isBlank line := by
  rcases moveLine_cases level hindent h with ⟨hb, he⟩ | ⟨rest, rfl, -, he⟩
  · rw [he, hb]
    rfl
  · rw [he, isBlank_append_of_isBlank (isBlank_indentation level),
      isBlank_append_of_isBlank hindent]

/-- A line that was moved shares the new indentation. -/
theorem sharesIndent_moveLine (hindent : isBlank indent = true)
    (h : sharesIndent indent line = true) :
    sharesIndent (indentation level) (moveLine indent level line) = true := by
  rw [sharesIndent_iff]
  rcases moveLine_cases level hindent h with ⟨-, he⟩ | ⟨rest, -, -, he⟩
  · exact Or.inl (by rw [he]; rfl)
  · exact Or.inr ⟨rest, he.symm⟩

/-- The second move of a line decides. -/
theorem moveLine_moveLine (hindent : isBlank indent = true) (h : sharesIndent indent line = true)
    (t u : Nat) : moveLine (indentation t) u (moveLine indent t line) = moveLine indent u line := by
  rcases moveLine_cases t hindent h with ⟨hb, he⟩ | ⟨rest, rfl, hrest, he⟩
  · rw [he, moveLine_of_isBlank hb, moveLine_of_isBlank rfl]
  · have hnew := (isBlank_append_of_isBlank (isBlank_indentation t)).trans hrest
    have hold := (isBlank_append_of_isBlank hindent).trans hrest
    rw [he, moveLine_append u hnew, moveLine_append u hold]

end Indentation

section Bodies

/-- The white space that the first line of a body begins with. -/
def bodyIndent (body : List (List Char)) : List Char :=
  leadingSpace (body.headD [])

/-- A body at a level: moved there if its lines share the indentation of the first one. -/
def settle (level : Nat) (body : List (List Char)) : List (List Char) :=
  if body.all (sharesIndent (bodyIndent body)) then body.map (moveLine (bodyIndent body) level)
  else body

/-- The body of a filter is settled. -/
theorem normalizeBody_eq (s : List Char) (level : Nat) :
    normalizeBody s level = unlines (settle level (bodyLines s)) :=
  rfl

/-- A body whose lines share an indentation is moved. -/
theorem settle_of_shared (h : ∀ line ∈ body, sharesIndent (bodyIndent body) line = true) :
    settle level body = body.map (moveLine (bodyIndent body) level) :=
  if_pos (List.all_eq_true.2 h)

/-- A body whose lines do not share an indentation is left alone. -/
theorem settle_of_not_shared (level : Nat)
    (h : ¬ ∀ line ∈ body, sharesIndent (bodyIndent body) line = true) :
    settle level body = body :=
  if_neg (mt List.all_eq_true.1 h)

/-- The first line of a body stands at the new level once it is moved. -/
theorem leadingSpace_moveLine (h : isBlank line = false) :
    leadingSpace (moveLine (leadingSpace line) level line) = indentation level := by
  obtain ⟨c, rest, he, hc⟩ := exists_of_leadingSpace h
  have hmove : moveLine (leadingSpace line) level line = indentation level ++ c :: rest := by
    have happend := moveLine_append level (he ▸ h)
    rwa [← he] at happend
  rw [hmove, leadingSpace_append_cons (isBlank_indentation level) hc]

/-- A body keeps its number of lines. -/
theorem length_settle (level : Nat) (body : List (List Char)) :
    (settle level body).length = body.length := by
  rw [settle]
  split
  · exact List.length_map _
  · rfl

/-- A body that was moved shares the indentation of its level. -/
theorem bodyIndent_settle (hb : Edged body) (hne : body ≠ [])
    (h : ∀ line ∈ body, sharesIndent (bodyIndent body) line = true) :
    bodyIndent (settle level body) = indentation level := by
  obtain ⟨first, rest, rfl⟩ := List.exists_cons_of_ne_nil hne
  rw [settle_of_shared h]
  exact leadingSpace_moveLine (hb.head first rfl)

/-- The second indentation of a body decides. -/
theorem settle_settle (hb : Edged body) (t u : Nat) : settle u (settle t body) = settle u body := by
  by_cases hshared : ∀ line ∈ body, sharesIndent (bodyIndent body) line = true
  · by_cases hne : body = []
    · rw [hne]
      rfl
    have hindent := isBlank_leadingSpace (body.headD [])
    -- The moved lines share the indentation of their level, so the second move takes just
    -- that away.
    have hmoved : ∀ line ∈ settle t body, sharesIndent (bodyIndent (settle t body)) line =
        true := by
      rw [bodyIndent_settle hb hne hshared, settle_of_shared hshared]
      intro line hl
      obtain ⟨source, hs, rfl⟩ := List.mem_map.1 hl
      exact sharesIndent_moveLine hindent (hshared source hs)
    rw [settle_of_shared hmoved, bodyIndent_settle hb hne hshared, settle_of_shared hshared,
      settle_of_shared hshared, List.map_map]
    exact List.map_congr_left fun line hl => moveLine_moveLine hindent (hshared line hl) t u
  · rw [settle_of_not_shared t hshared]

/-- A settled body begins and ends with lines that are not blank. -/
theorem Edged.settle (hb : Edged body) (level : Nat) : Edged (settle level body) := by
  by_cases hshared : ∀ line ∈ body, sharesIndent (bodyIndent body) line = true
  · have hmoved : ∀ line ∈ body, isBlank (moveLine (bodyIndent body) level line) = isBlank line :=
      fun line hl => isBlank_moveLine (isBlank_leadingSpace _) (hshared line hl)
    rw [settle_of_shared hshared]
    constructor
    · rw [List.head?_map]
      intro line hl
      obtain ⟨source, hs, rfl⟩ := Option.map_eq_some_iff.1 hl
      rw [hmoved source (List.mem_of_head? hs), hb.head source hs]
    · rw [List.getLast?_map]
      intro line hl
      obtain ⟨source, hs, rfl⟩ := Option.map_eq_some_iff.1 hl
      rw [hmoved source (List.mem_of_getLast? hs), hb.last source hs]
  · rwa [settle_of_not_shared level hshared]

/-- Settling puts no line feed into the lines of a body. -/
theorem newline_not_mem_settle (hn : ∀ line ∈ body, '\n' ∉ line) :
    ∀ line ∈ settle level body, '\n' ∉ line := by
  by_cases hshared : ∀ line ∈ body, sharesIndent (bodyIndent body) line = true
  · rw [settle_of_shared hshared]
    intro line hl hmem
    obtain ⟨source, hs, rfl⟩ := List.mem_map.1 hl
    rw [moveLine] at hmem
    split at hmem
    · cases hmem
    · rcases List.mem_append.1 hmem with hmem | hmem
      · exact newline_not_mem_indentation hmem
      · exact hn source hs (List.mem_of_mem_drop hmem)
  · rwa [settle_of_not_shared level hshared]

/-- The lines of a filter are those of its settled body. -/
theorem wholeLines_normalizeBody (s : List Char) (level : Nat) :
    wholeLines (normalizeBody s level) = settle level (bodyLines s) :=
  wholeLines_unlines (newline_not_mem_settle fun _ => newline_not_mem_of_mem_bodyLines)

/-- The body of what a filter writes is the settled body. -/
theorem bodyLines_normalizeBody (s : List Char) (level : Nat) :
    bodyLines (normalizeBody s level) = settle level (bodyLines s) := by
  have hedged := (isBody_bodyLines s).toEdged.settle level
  have hbody :=
    hedged.isBody_unlines (newline_not_mem_settle fun _ => newline_not_mem_of_mem_bodyLines)
  exact hbody.bodyLines_eq

end Bodies

/-- A line of a body and the line that is written for it: a blank line is emptied, and any other is
moved from the indentation of the body to a level. -/
def Moved (indent : List Char) (level : Nat) (line written : List Char) : Prop :=
  (isBlank line = true ∧ written = []) ∨
    (isBlank line = false ∧ ∃ rest, line = indent ++ rest ∧ written = indentation level ++ rest)

/-- The lines that are written for a body at a level. -/
inductive Reindented (level : Nat) (body written : List (List Char)) : Prop
  /-- The lines share the white space that the first one begins with, and are moved. -/
  | moved : (∀ line ∈ body, isBlank line = true ∨ bodyIndent body <+: line) →
    List.Forall₂ (Moved (bodyIndent body) level) body written → Reindented level body written
  /-- A line does not begin with that white space, and all lines stay as they are. -/
  | kept : (∃ line ∈ body, isBlank line = false ∧ ¬ bodyIndent body <+: line) → written = body →
    Reindented level body written

/-- A settled body is the body at its level. -/
theorem reindented_settle (level : Nat) (body : List (List Char)) :
    Reindented level body (settle level body) := by
  have hindent : isBlank (bodyIndent body) = true := isBlank_leadingSpace _
  by_cases hshared : ∀ line ∈ body, sharesIndent (bodyIndent body) line = true
  · refine .moved (fun line hl => sharesIndent_iff.1 (hshared line hl)) ?_
    rw [settle_of_shared hshared, List.forall₂_map_right_iff, List.forall₂_same]
    intro line hl
    rcases moveLine_cases level hindent (hshared line hl) with
      ⟨hb, he⟩ | ⟨rest, hline, hb, he⟩
    · exact Or.inl ⟨hb, he⟩
    · refine Or.inr ⟨?_, rest, hline, he⟩
      rw [hline, isBlank_append_of_isBlank hindent, hb]
  · refine .kept ?_ (settle_of_not_shared level hshared)
    push Not at hshared
    obtain ⟨line, hl, hnot⟩ := hshared
    rw [Ne, sharesIndent_iff, not_or, Bool.not_eq_true] at hnot
    exact ⟨line, hl, hnot⟩

/-- **The lines of a filter are those of its body, moved or as they were, and a second indentation
absorbs the first.** -/
theorem normalizeBody_absorbs (s : List Char) (t u : Nat) :
    normalizeBody (normalizeBody s t) u = normalizeBody s u ∧
      IsBody s (bodyLines s) ∧
      unlines (wholeLines (normalizeBody s t)) = normalizeBody s t ∧
      (wholeLines (normalizeBody s t)).length = (bodyLines s).length ∧
      Reindented t (bodyLines s) (wholeLines (normalizeBody s t)) ∧
      (normalizeBody s t = [] ↔ isBlank s = true) := by
  have hbody := isBody_bodyLines s
  have hlines := wholeLines_normalizeBody s t
  refine ⟨?_, hbody, ?_, ?_, ?_, ?_⟩
  · rw [normalizeBody_eq, bodyLines_normalizeBody, settle_settle hbody.toEdged, ← normalizeBody_eq]
  · rw [hlines, normalizeBody_eq]
  · rw [hlines, length_settle]
  · rw [hlines]
    exact reindented_settle t (bodyLines s)
  · rw [normalizeBody_eq, unlines_eq_nil_iff, ← List.length_eq_zero_iff, length_settle,
      List.length_eq_zero_iff, bodyLines_eq_nil_iff]

/-- A body with a blank line is moved as a whole. -/
example : normalizeBody "\n\ta\n  \n\t b\n\n".toList 1 = "  a\n\n   b\n".toList := by decide

end HtmlToHaml.Haml
