import HtmlToHaml.Proofs.Entity.Names
import HtmlToHaml.Proofs.Haml.Escape

/-!
# References around interpolations

No name and no number of a reference holds a brace, so a reference never reaches over an
interpolation: it is the same whether interpolations are taken back before it is looked up or not.
Each backslash that takes one back is therefore still there when references have been replaced.
-/

namespace HtmlToHaml.Entity

open Text Haml

variable {s name rest value : List Char}

section References

/-- A reference is a known name up to a semicolon. -/
theorem exists_of_reference? (h : reference? s = some (value, rest)) :
    ∃ name, breakOn [';'] s = some (name, rest) ∧ resolve? name = some value := by
  rw [reference?] at h
  split at h
  · rename_i name rest' hcut
    split at h
    · cases h
    · obtain ⟨value', hvalue, he⟩ := Option.map_eq_some_iff.1 h
      obtain ⟨rfl, rfl⟩ := Prod.mk.inj he
      exact ⟨name, hcut, hvalue⟩
  · cases h

/-- A text is cut at a semicolon before interpolations are taken back or behind that. -/
theorem breakOn_semicolon_escape (s : List Char) :
    breakOn [';'] (escapeInterpolation s) =
      (breakOn [';'] s).map (Prod.map escapeInterpolation escapeInterpolation) :=
  breakOn_escapeInterpolation (by decide) (by decide) (by decide) s

/-- What a reference stands for is looked up before interpolations are taken back or behind that. -/
theorem reference?_escapeInterpolation (s : List Char) :
    reference? (escapeInterpolation s) = (reference? s).map (Prod.map id escapeInterpolation) := by
  rw [reference?, reference?, breakOn_semicolon_escape]
  cases breakOn [';'] s with
  | none => rfl
  | some cut =>
    obtain ⟨name, rest⟩ := cut
    simp only [Option.map_some, Prod.map_apply]
    by_cases hbrace : '{' ∈ name
    · have hescaped : '{' ∈ escapeInterpolation name := by
        rw [← List.count_pos_iff, count_escapeInterpolation (by decide), List.count_pos_iff]
        exact hbrace
      rw [resolve?_of_isStray (by decide) hbrace, resolve?_of_isStray (by decide) hescaped]
      simp
    · rw [escapeInterpolation_of_not_isInfix fun hm => hbrace (hm.subset (by simp))]
      split
      · rfl
      · simp [Option.map_map, Function.comp_def]

/-- **Taking interpolations back makes a text longer by as much before its references are replaced
as behind that.** -/
theorem length_unescape_escapeInterpolation (s : List Char) :
    (unescape (escapeInterpolation s)).length + s.length =
      (unescape s).length + (escapeInterpolation s).length := by
  have hamp : ∀ s, escapeInterpolation ('&' :: s) = '&' :: escapeInterpolation s :=
    escapeInterpolation_cons '&'
  induction s using unescape.induct with
  | case1 => rfl
  | case2 s value rest h ih =>
    obtain ⟨name, hcut, hname⟩ := exists_of_reference? h
    have hescaped : reference? (escapeInterpolation s) =
        some (value, escapeInterpolation rest) := by
      rw [reference?_escapeInterpolation, h]
      rfl
    have hclear : escapeInterpolation name = name := by
      refine escapeInterpolation_of_not_isInfix fun hm => ?_
      rw [resolve?_of_isStray (c := '{') (by decide) (hm.subset (by simp))] at hname
      cases hname
    have hs : escapeInterpolation s = name ++ ';' :: escapeInterpolation rest := by
      rw [eq_append_of_breakOn hcut, List.append_assoc, escapeInterpolation_append (by simp),
        hclear, List.singleton_append, escapeInterpolation_cons]
      rfl
    rw [hamp, unescape_of_reference? hescaped, unescape_of_reference? h, hs,
      eq_append_of_breakOn hcut]
    simp only [List.length_append, List.length_cons, List.length_nil]
    omega
  | case3 s h ih =>
    have hescaped : reference? (escapeInterpolation s) = none := by
      rw [reference?_escapeInterpolation, h]
      rfl
    rw [hamp, unescape_of_reference?_eq_none hescaped, unescape_of_reference?_eq_none h]
    simp only [List.length_cons]
    omega
  | case4 c s hc ih =>
    rw [escapeInterpolation_cons, unescape_cons_of_ne hc]
    split
    · rw [List.singleton_append, unescape_cons_of_ne (by decide), unescape_cons_of_ne hc]
      simp only [List.length_cons]
      omega
    · rw [List.nil_append, unescape_cons_of_ne hc]
      simp only [List.length_cons]
      omega

end References

end HtmlToHaml.Entity
