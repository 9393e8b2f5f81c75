import HtmlToHaml.Proofs.Haml.Count
import HtmlToHaml.Proofs.Text.Lines
import HtmlToHaml.Proofs.Text.Search

/-!
# Escapes in plain text

References stand for ampersands and angle brackets, and a backslash takes back what would open an
interpolation. Both work text by text and line by line: they bring neither white space nor line
feeds and take none away, and they only make a text longer.
-/

namespace HtmlToHaml.Haml

open Text

variable {s t needle : List Char} {c d : Char}

/-- What is put behind an escaped text is escaped by itself, unless it goes on an interpolation. -/
theorem escapeInterpolation_append (ht : t.head? ≠ some '{') :
    escapeInterpolation (s ++ t) = escapeInterpolation s ++ escapeInterpolation t := by
  fun_induction escapeInterpolation s with
  | case1 s ih => simp [escapeInterpolation, ih]
  | case2 c s hopen ih =>
    rw [List.cons_append, List.cons_append, ← ih]
    refine escapeInterpolation.eq_2 _ _ fun more hc he => ?_
    cases s with
    | nil => exact ht (by rw [← List.nil_append t, he]; rfl)
    | cons d s => exact hopen s hc (by rw [(List.cons.inj he).1])
  | case3 => rfl

/-- Text without a `#` in front stays as it is. -/
theorem escapeInterpolation_append_of_hash_not_mem (hs : '#' ∉ s) :
    escapeInterpolation (s ++ t) = s ++ escapeInterpolation t := by
  induction s with
  | nil => rfl
  | cons c s ih =>
    rw [List.mem_cons, not_or] at hs
    rw [List.cons_append, escapeInterpolation.eq_2 _ _ fun _ hc => absurd hc.symm hs.1, ih hs.2,
      List.cons_append]

/-- A text without interpolations has none to take back. -/
theorem escapeInterpolation_of_not_isInfix (h : ¬ ['#', '{'] <:+: s) :
    escapeInterpolation s = s := by
  fun_induction escapeInterpolation s with
  | case1 s => exact absurd ⟨[], s, rfl⟩ h
  | case2 c s hopen ih => rw [ih fun hs => h (List.infix_cons hs)]
  | case3 => rfl

/-- A character is taken over, behind a backslash if it begins an interpolation. -/
theorem escapeInterpolation_cons (c : Char) (s : List Char) :
    escapeInterpolation (c :: s) =
      (if c = '#' ∧ s.head? = some '{' then ['\\'] else []) ++ c :: escapeInterpolation s := by
  split
  · rename_i h
    obtain ⟨rfl, hs⟩ := h
    obtain ⟨more, rfl⟩ := List.head?_eq_some_iff.1 hs
    rw [escapeInterpolation, escapeInterpolation.eq_2 _ _ (by simp)]
    rfl
  · rename_i h
    refine escapeInterpolation.eq_2 _ _ fun more hc hs => h ⟨hc, ?_⟩
    rw [hs]
    rfl

/-- A brace begins an escaped text only if it begins the text. -/
theorem head?_escapeInterpolation (h : (escapeInterpolation s).head? = some '{') :
    s.head? = some '{' := by
  cases s with
  | nil => exact h
  | cons c s =>
    rw [escapeInterpolation_cons] at h
    split at h
    · simp at h
    · exact h

/-- References are put in text by text. -/
theorem htmlEscape_append : htmlEscape (s ++ t) = htmlEscape s ++ htmlEscape t :=
  List.flatMap_append

/-- A backslash takes no white space away. -/
theorem isBlank_escapeInterpolation : isBlank (escapeInterpolation s) = isBlank s := by
  fun_induction escapeInterpolation s with
  | case1 s ih => rfl
  | case2 c s _ ih => exact congrArg (isSpace c && ·) ih
  | case3 => rfl

/-- References take no white space away and bring none. -/
theorem isBlank_htmlEscape : isBlank (htmlEscape s) = isBlank s := by
  rw [isBlank, isBlank, htmlEscape, List.all_flatMap]
  congr 1
  funext c
  split
  · decide
  · decide
  · decide
  · exact Bool.and_true _

/-- A space is not escaped. -/
theorem escapeInterpolation_cons_of_isSpace (hc : isSpace c = true) (s : List Char) :
    escapeInterpolation (c :: s) = c :: escapeInterpolation s := by
  refine escapeInterpolation_append_of_hash_not_mem (s := [c]) fun hm => ?_
  rw [← List.mem_singleton.1 hm] at hc
  exact absurd hc (by decide)

/-- A backslash is never put last. -/
theorem getLast?_escapeInterpolation (s : List Char) :
    (escapeInterpolation s).getLast? = s.getLast? := by
  fun_induction escapeInterpolation s with
  | case1 s ih => simp [List.getLast?_cons, ih]
  | case2 c s _ ih => rw [List.getLast?_cons, List.getLast?_cons, ih]
  | case3 => rfl

/-- Leading white space is left out before interpolations are taken back or behind that. -/
theorem trimStart_escapeInterpolation (s : List Char) :
    trimStart (escapeInterpolation s) = escapeInterpolation (trimStart s) := by
  induction s with
  | nil => rfl
  | cons c s ih =>
    cases hc : isSpace c with
    | true =>
      rw [escapeInterpolation_cons_of_isSpace hc, trimStart_cons_of_isSpace hc,
        trimStart_cons_of_isSpace hc, ih]
    | false =>
      rw [trimStart_cons hc]
      generalize hline : c :: s = line
      fun_cases escapeInterpolation line with
      | case1 more => exact trimStart_cons (by decide)
      | case2 d more _ => exact trimStart_cons ((List.cons.inj hline).1 ▸ hc)
      | case3 => cases hline

/-- Trailing white space is left out before interpolations are taken back or behind that. -/
theorem trimEnd_escapeInterpolation (s : List Char) :
    trimEnd (escapeInterpolation s) = escapeInterpolation (trimEnd s) := by
  induction s using List.reverseRecOn with
  | nil => rfl
  | append_singleton s c ih =>
    cases hc : isSpace c with
    | true =>
      have hhead : [c].head? ≠ some '{' := by
        rw [List.head?_cons, Ne, Option.some.injEq]
        rintro rfl
        exact absurd hc (by decide)
      have hone : escapeInterpolation [c] = [c] := escapeInterpolation_cons_of_isSpace hc []
      rw [escapeInterpolation_append hhead, hone, trimEnd_concat_of_isSpace hc,
        trimEnd_concat_of_isSpace hc, ih]
    | false =>
      have hlast : (escapeInterpolation (s ++ [c])).getLast? = some c := by
        rw [getLast?_escapeInterpolation, List.getLast?_concat]
      rw [trimEnd_of_getLast? List.getLast?_concat hc, trimEnd_of_getLast? hlast hc]

/-- A text is trimmed before interpolations are taken back or behind that. -/
theorem trim_escapeInterpolation (s : List Char) :
    trim (escapeInterpolation s) = escapeInterpolation (trim s) := by
  rw [trim_eq, trim_eq, trimStart_escapeInterpolation, trimEnd_escapeInterpolation]

/-- A beginning that no interpolation can reach is found before interpolations are taken back
or behind that. -/
theorem stripPrefix?_escapeInterpolation (hback : '\\' ∉ needle) (hhash : '#' ∉ needle)
    (s : List Char) :
    stripPrefix? needle (escapeInterpolation s) =
      (stripPrefix? needle s).map escapeInterpolation := by
  induction needle generalizing s with
  | nil => rfl
  | cons d needle ih =>
    rw [List.mem_cons, not_or] at hback hhash
    fun_cases escapeInterpolation s with
    | case1 s =>
      rw [stripPrefix?, if_neg (Ne.symm hback.1), stripPrefix?, if_neg (Ne.symm hhash.1)]
      rfl
    | case2 c s _ =>
      rw [stripPrefix?, stripPrefix?]
      split
      · exact ih hback.2 hhash.2 s
      · rfl
    | case3 => rfl

/-- A text is cut around a needle that no interpolation can reach before interpolations are taken
back or behind that. -/
theorem breakOn_escapeInterpolation (hbrace : '{' ≠ d) (hback : '\\' ∉ d :: needle)
    (hhash : '#' ∉ d :: needle) (s : List Char) :
    breakOn (d :: needle) (escapeInterpolation s) =
      (breakOn (d :: needle) s).map (Prod.map escapeInterpolation escapeInterpolation) := by
  have hslash : '\\' ≠ d := List.ne_of_not_mem_cons hback
  have hsign : '#' ≠ d := List.ne_of_not_mem_cons hhash
  fun_induction escapeInterpolation s with
  | case1 s ih =>
    rw [breakOn_cons_of_ne hslash, breakOn_cons_of_ne hsign, breakOn_cons_of_ne hbrace,
      breakOn_cons_of_ne hsign, breakOn_cons_of_ne hbrace, ih]
    simp only [Option.map_map]
    rfl
  | case2 c s hopen ih =>
    have hcons := stripPrefix?_escapeInterpolation hback hhash (c :: s)
    rw [escapeInterpolation.eq_2 _ _ hopen] at hcons
    rw [breakOn, breakOn, hcons]
    cases stripPrefix? (d :: needle) (c :: s) with
    | some rest => rfl
    | none =>
      simp only [Option.map_none, ih]
      cases hcut : breakOn (d :: needle) s with
      | none => rfl
      | some cut =>
        obtain ⟨before, after⟩ := cut
        have hs := eq_append_of_breakOn hcut
        -- The text before the cut goes on behind `c` as the whole text does.
        have hbefore : escapeInterpolation (c :: before) = c :: escapeInterpolation before := by
          refine escapeInterpolation.eq_2 _ _ fun more hc he => ?_
          rw [he] at hs
          exact hopen _ hc hs
        simp only [Option.map_some, Prod.map_apply, hbefore]
  | case3 => rfl

/-- A needle that no interpolation can reach is not brought into a text by taking interpolations
back. -/
theorem not_isInfix_escapeInterpolation (hbrace : '{' ≠ d) (hback : '\\' ∉ d :: needle)
    (hhash : '#' ∉ d :: needle) (h : ¬ d :: needle <:+: s) :
    ¬ d :: needle <:+: escapeInterpolation s := by
  rw [← breakOn_eq_none_iff, breakOn_escapeInterpolation hbrace hback hhash,
    breakOn_of_not_isInfix h]
  rfl

/-- Escapes bring no line feed into a text. -/
theorem newline_not_mem_escape (hn : '\n' ∉ s) :
    '\n' ∉ escapeInterpolation (htmlEscape s) := by
  rw [← List.count_eq_zero, count_escapeInterpolation (by decide), count_htmlEscape (by decide),
    List.count_eq_zero]
  exact hn

/-- A line feed parts what is escaped. -/
theorem escape_append_newline :
    escapeInterpolation (htmlEscape (s ++ '\n' :: t)) =
      escapeInterpolation (htmlEscape s) ++ '\n' :: escapeInterpolation (htmlEscape t) := by
  have hcons : htmlEscape ('\n' :: t) = '\n' :: htmlEscape t := rfl
  rw [htmlEscape_append, hcons, escapeInterpolation_append (by simp),
    escapeInterpolation.eq_2 _ _ (by simp)]

/-- Escapes stay on their lines. -/
theorem lastLine_escape :
    lastLine (escapeInterpolation (htmlEscape s)) =
      escapeInterpolation (htmlEscape (lastLine s)) := by
  rcases lastLine_cases s with hn | ⟨front, line, rfl, hn⟩
  · rw [lastLine_of_not_mem hn, lastLine_of_not_mem (newline_not_mem_escape hn)]
  · rw [escape_append_newline, lastLine_append_newline hn,
      lastLine_append_newline (newline_not_mem_escape hn)]

/-- A line is escaped for its first character, unless an interpolation that is taken back begins
it. -/
theorem needsEscape_cons {c : Char} :
    needsEscape (c :: s) = true ↔ c ∈ specialCharacters ∧ ¬ (c = '\\' ∧ ['#', '{'] <+: s) := by
  rw [← List.contains_iff_mem]
  by_cases hp : c = '\\' ∧ ['#', '{'] <+: s
  · obtain ⟨rfl, more, rfl⟩ := hp
    simp [needsEscape]
  · rw [needsEscape.eq_2 _ _ fun more hc hs => hp ⟨hc, more, hs.symm⟩]
    exact (and_iff_left hp).symm

/-- An escape makes no text shorter. -/
theorem length_le_length_escapeInterpolation : s.length ≤ (escapeInterpolation s).length := by
  fun_induction escapeInterpolation s with
  | case1 s ih => simpa using Nat.le_succ_of_le ih
  | case2 c s _ ih => simpa using ih
  | case3 => exact Nat.le_refl _

/-- An interpolation that is taken back makes a text longer. -/
theorem length_lt_length_escapeInterpolation (h : ['#', '{'] <:+: s) :
    s.length < (escapeInterpolation s).length := by
  fun_induction escapeInterpolation s with
  | case1 s ih =>
    have hs := length_le_length_escapeInterpolation (s := s)
    simp only [List.length_cons]
    omega
  | case2 c s hopen ih =>
    rcases List.infix_cons_iff.1 h with hp | hs
    · obtain ⟨more, he⟩ := hp
      obtain ⟨rfl, rfl⟩ := List.cons.inj he
      exact absurd rfl (hopen more rfl)
    · exact Nat.succ_lt_succ (ih hs)
  | case3 => simp at h

/-- References make no text shorter. -/
theorem length_le_length_htmlEscape : s.length ≤ (htmlEscape s).length := by
  induction s with
  | nil => exact Nat.le_refl _
  | cons c s ih =>
    have hc : 1 ≤ (htmlEscape [c]).length := by
      rw [htmlEscape, List.flatMap_singleton]
      split <;> simp
    rw [← List.singleton_append, htmlEscape_append, List.length_append, List.length_append]
    exact Nat.add_le_add hc ih

end HtmlToHaml.Haml
