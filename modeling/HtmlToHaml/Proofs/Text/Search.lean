import HtmlToHaml.Text.Search
import Mathlib.Data.List.Infix

/-!
# Where a needle is found

A text is cut around a needle exactly if the needle occurs in it, and never behind an occurrence. A
needle whose first character does not come again in it cannot overlap with itself, so behind a text
in which it does not occur it is found where it was put.
-/

namespace HtmlToHaml.Text

variable {c d : Char} {needle s before after rest : List Char}

/-- A text that does not hold a needle is not cut. -/
theorem breakOn_of_not_isInfix (h : ¬ needle <:+: s) : breakOn needle s = none := by
  rw [Option.eq_none_iff_forall_not_mem]
  rintro ⟨before, after⟩ hcut
  exact h ⟨before, after, (eq_append_of_breakOn hcut).symm⟩

/-- A text that does not hold a needle does not begin with it. -/
theorem stripPrefix?_of_not_isInfix (h : ¬ needle <:+: s) : stripPrefix? needle s = none := by
  rw [Option.eq_none_iff_forall_not_mem]
  intro rest hrest
  exact h (stripPrefix?_eq_some_iff.1 hrest ▸ (List.prefix_append needle rest).isInfix)

/-- A text without the first character of a needle does not hold the needle. -/
theorem not_isInfix_of_not_mem (hc : c ∉ s) : ¬ c :: needle <:+: s :=
  fun h => hc (h.subset List.mem_cons_self)

/-- A text that begins with a needle is cut at its start. -/
theorem breakOn_of_stripPrefix? (h : stripPrefix? needle s = some rest) :
    breakOn needle s = some ([], rest) := by
  cases s with
  | nil =>
    obtain ⟨rfl, rfl⟩ : needle = [] ∧ rest = [] := by simpa using stripPrefix?_eq_some_iff.1 h
    rfl
  | cons c s => simp only [breakOn, h]

/-- A character that the needle does not begin with stands before the cut. -/
theorem breakOn_cons_of_ne (hc : c ≠ d) (needle s : List Char) :
    breakOn (d :: needle) (c :: s) = (breakOn (d :: needle) s).map fun cut =>
      (c :: cut.1, cut.2) := by
  rw [breakOn, stripPrefix?, if_neg hc.symm]

/-- A text that is cut behind its first character does not begin with the needle. -/
theorem stripPrefix?_eq_none_of_breakOn (h : breakOn needle (c :: s) = some (c :: before, after)) :
    stripPrefix? needle (c :: s) = none := by
  cases hp : stripPrefix? needle (c :: s) with
  | none => rfl
  | some rest =>
    rw [breakOn_of_stripPrefix? hp] at h
    cases h

/-- A text that holds a needle is cut at the needle or before it. -/
theorem exists_breakOn_append (needle before after : List Char) :
    ∃ front back, breakOn needle (before ++ (needle ++ after)) = some (front, back) ∧
      after <:+ back := by
  induction before with
  | nil =>
    exact ⟨[], after, breakOn_of_stripPrefix? (stripPrefix?_append needle after), List.suffix_rfl⟩
  | cons c before ih =>
    cases hp : stripPrefix? needle (c :: (before ++ (needle ++ after))) with
    | none =>
      obtain ⟨front, back, hcut, hsuffix⟩ := ih
      refine ⟨c :: front, back, ?_, hsuffix⟩
      rw [List.cons_append, breakOn, hp, hcut]
      rfl
    | some rest =>
      refine ⟨[], rest, breakOn_of_stripPrefix? hp, ?_⟩
      have he := stripPrefix?_eq_some_iff.1 hp
      have hafter : after <:+ c :: (before ++ (needle ++ after)) :=
        ⟨c :: (before ++ needle), by simp⟩
      have hlength := congrArg List.length he
      simp only [List.length_cons, List.length_append] at hlength
      exact List.suffix_of_suffix_length_le hafter ⟨needle, he.symm⟩ (by omega)

/-- A text is cut exactly if it holds the needle. -/
theorem breakOn_eq_none_iff : breakOn needle s = none ↔ ¬ needle <:+: s := by
  refine ⟨fun h => ?_, breakOn_of_not_isInfix⟩
  rintro ⟨before, after, rfl⟩
  obtain ⟨front, back, hcut, -⟩ := exists_breakOn_append needle before after
  rw [List.append_assoc, hcut] at h
  cases h

/-- A needle that does not overlap with itself is found where it was put, if what stands before it
does not hold it. -/
theorem breakOn_append (hc : c ∉ needle) (hbefore : ¬ c :: needle <:+: before) :
    breakOn (c :: needle) (before ++ (c :: needle ++ after)) = some (before, after) := by
  induction before with
  | nil => exact breakOn_of_stripPrefix? (stripPrefix?_append (c :: needle) after)
  | cons d before ih =>
    have hno : stripPrefix? (c :: needle) (d :: (before ++ (c :: needle ++ after))) = none := by
      rw [Option.eq_none_iff_forall_not_mem]
      intro rest hrest
      have he : d :: (before ++ (c :: needle ++ after)) = c :: (needle ++ rest) :=
        stripPrefix?_eq_some_iff.1 hrest
      rw [List.cons.injEq] at he
      obtain ⟨rfl, he⟩ := he
      -- The needle found here ends before the one that was put, or reaches its first character.
      rcases List.append_eq_append_iff.1 he with ⟨_ | ⟨e, mid⟩, hneedle, hmid⟩ | ⟨mid, rfl, -⟩
      · rw [List.append_nil] at hneedle
        exact hbefore (hneedle ▸ List.infix_rfl)
      · rw [List.cons_append, List.cons_append, List.cons.injEq] at hmid
        exact hc (by rw [hneedle, hmid.1]; simp)
      · exact hbefore ⟨[], mid, rfl⟩
    rw [List.cons_append, breakOn, hno, ih fun h => hbefore (List.infix_cons h)]
    rfl

/-- A character behind a text that does not hold it stands in what follows the text. -/
theorem exists_append_of_not_mem (hc : c ∉ before) (h : before ++ after = s ++ c :: rest) :
    ∃ more, s = before ++ more ∧ after = more ++ c :: rest := by
  rcases List.append_eq_append_iff.1 h with hmore | ⟨more, rfl, hmore⟩
  · exact hmore
  · cases more with
    | nil => exact ⟨[], by simp, hmore.symm⟩
    | cons d more =>
      obtain ⟨rfl, -⟩ := List.cons.inj hmore
      exact absurd (by simp) hc

/-- A text is cut around a character exactly if it holds the character. -/
theorem breakOn_singleton_eq_none_iff : breakOn [c] s = none ↔ c ∉ s := by
  rw [breakOn_eq_none_iff, List.singleton_infix_iff]

/-- A text is cut around a character exactly where the character stands for the first time. -/
theorem breakOn_singleton_eq_some_iff :
    breakOn [c] s = some (before, after) ↔ s = before ++ c :: after ∧ c ∉ before := by
  have hput : ∀ {before}, c ∉ before → ∀ after,
      breakOn [c] (before ++ c :: after) = some (before, after) :=
    fun h _ => breakOn_append (by simp) (not_isInfix_of_not_mem h)
  refine ⟨fun h => ?_, fun ⟨hs, h⟩ => hs ▸ hput h after⟩
  have hs : s = before ++ c :: after := by simpa using eq_append_of_breakOn h
  refine ⟨hs, fun hc => ?_⟩
  obtain ⟨front, back, hbefore, hfront⟩ := List.eq_append_cons_of_mem hc
  have hcut : s = front ++ c :: (back ++ c :: after) := by rw [hs, hbefore]; simp
  have hfirst := hput hfront (back ++ c :: after)
  rw [← hcut, h] at hfirst
  obtain ⟨rfl, -⟩ := Prod.mk.inj (Option.some.inj hfirst)
  exact hfront hc

/-- There is one place where a character stands for the first time. -/
theorem append_cons_inj (hs : c ∉ s) (hbefore : c ∉ before)
    (h : s ++ c :: rest = before ++ c :: after) : s = before ∧ rest = after := by
  have hcut := breakOn_singleton_eq_some_iff.2 ⟨h, hbefore⟩
  rw [breakOn_singleton_eq_some_iff.2 ⟨rfl, hs⟩] at hcut
  exact Prod.mk.inj (Option.some.inj hcut)

end HtmlToHaml.Text
