import HtmlToHaml.Entity.Reference
import HtmlToHaml.Haml.PlainText

/-!
# References are taken back

The references that escaping puts into a text are those that replacing references takes out again,
whatever follows the text.
-/

namespace HtmlToHaml.Entity

open Text Haml

variable {s rest value : List Char} {c : Char}

/-- A character that is no ampersand stays. -/
theorem unescape_cons_of_ne (hc : c ≠ '&') : unescape (c :: s) = c :: unescape s := by
  rw [unescape, if_neg hc]

/-- A reference is replaced, and what replaces it is not looked at again. -/
theorem unescape_of_reference? (h : reference? s = some (value, rest)) :
    unescape ('&' :: s) = value ++ unescape rest := by
  rw [unescape, if_pos rfl]
  split
  · rename_i value' rest' h'
    obtain ⟨rfl, rfl⟩ := Prod.mk.inj (Option.some.inj (h.symm.trans h'))
    rfl
  · rename_i h'
    cases h.symm.trans h'

/-- An ampersand that begins no reference stays. -/
theorem unescape_of_reference?_eq_none (h : reference? s = none) :
    unescape ('&' :: s) = '&' :: unescape s := by
  rw [unescape, if_pos rfl]
  split
  · rename_i h'
    cases h.symm.trans h'
  · rfl

/-- The references of the characters that are escaped are known. -/
theorem reference?_xml (s : List Char) :
    reference? ('a' :: 'm' :: 'p' :: ';' :: s) = some (['&'], s) ∧
      reference? ('l' :: 't' :: ';' :: s) = some (['<'], s) ∧
      reference? ('g' :: 't' :: ';' :: s) = some (['>'], s) := by
  obtain ⟨hamp, hlt, hgt⟩ := resolve?_xml
  refine ⟨?_, ?_, ?_⟩
  · simp [reference?, breakOn, stripPrefix?, utf8Length, Char.utf8Size, hamp]
  · simp [reference?, breakOn, stripPrefix?, utf8Length, Char.utf8Size, hlt]
  · simp [reference?, breakOn, stripPrefix?, utf8Length, Char.utf8Size, hgt]

/-- **Replacing references takes back what escaping a text put into it**, and goes on behind it. -/
theorem unescape_htmlEscape_append (s t : List Char) :
    unescape (htmlEscape s ++ t) = s ++ unescape t := by
  induction s with
  | nil => rfl
  | cons c s ih =>
    obtain ⟨hamp, hlt, hgt⟩ := reference?_xml (htmlEscape s ++ t)
    rw [htmlEscape, List.flatMap_cons, ← htmlEscape]
    split
    · exact (unescape_of_reference? hamp).trans (congrArg _ ih)
    · exact (unescape_of_reference? hlt).trans (congrArg _ ih)
    · exact (unescape_of_reference? hgt).trans (congrArg _ ih)
    · rename_i hno _ _
      rw [List.append_assoc, List.singleton_append, unescape_cons_of_ne hno, ih, List.cons_append]

/-- Replacing the references of an escaped text gives the text. -/
theorem unescape_htmlEscape (s : List Char) : unescape (htmlEscape s) = s := by
  have h := unescape_htmlEscape_append s []
  rwa [List.append_nil, unescape, List.append_nil] at h

end HtmlToHaml.Entity
