import HtmlToHaml.Entity.Sweep
import HtmlToHaml.Proofs.Entity.Unescape
import HtmlToHaml.Proofs.Text.Search

/-!
# References are replaced in a single pass

A text is related to what it becomes in one pass from left to right, where every rule takes away
what it has dealt with. The main statements are that replacing references is this relation, that a
sweep from ampersand to ampersand does the same, and that escaping is taken back once.
-/

namespace HtmlToHaml.Entity

open Text Haml

variable {s t name rest value : List Char} {c : Char}

section References

/-- What stands between an ampersand and the next semicolon is the name of a reference, and stands
for a text. -/
structure Refers (name value : List Char) : Prop where
  /-- It ends at the next semicolon. -/
  semicolon_not_mem : ';' ∉ name
  /-- It is not empty. -/
  one_le : 1 ≤ (String.ofList name).utf8ByteSize
  /-- It is not too long. -/
  le : (String.ofList name).utf8ByteSize ≤ 31
  /-- It is known. -/
  resolve?_eq : resolve? name = some value

/-- The number of bytes of a text. -/
theorem utf8Length_eq (s : List Char) : utf8Length s = (String.ofList s).utf8ByteSize := by
  induction s with
  | nil => rfl
  | cons c s ih =>
    rw [utf8Length, List.foldr_cons, ← utf8Length, ih]
    simp

/-- Only the empty text has no bytes. -/
theorem one_le_utf8Length_iff : 1 ≤ utf8Length s ↔ s ≠ [] := by
  cases s with
  | nil => simp [utf8Length]
  | cons c s =>
    have hsize := Char.utf8Size_pos c
    rw [utf8Length, List.foldr_cons]
    simp only [ne_eq, reduceCtorEq, not_false_eq_true, iff_true]
    omega

/-- What a reference is replaced by is what its name stands for. -/
theorem reference?_eq_some_iff :
    reference? s = some (value, rest) ↔ ∃ name, s = name ++ ';' :: rest ∧ Refers name value := by
  have hlength : ∀ name, (name.isEmpty || 31 < utf8Length name) = false ↔
      1 ≤ (String.ofList name).utf8ByteSize ∧ (String.ofList name).utf8ByteSize ≤ 31 := by
    intro name
    rw [← utf8Length_eq, one_le_utf8Length_iff]
    simp
  rw [reference?]
  constructor
  · intro h
    split at h
    · rename_i name rest' hcut
      obtain ⟨hs, hsemicolon⟩ := breakOn_singleton_eq_some_iff.1 hcut
      split at h
      · cases h
      · rename_i hwindow
        obtain ⟨hone, hle⟩ := (hlength name).1 (by simpa using hwindow)
        obtain ⟨found, hfound, he⟩ := Option.map_eq_some_iff.1 h
        obtain ⟨rfl, rfl⟩ := Prod.mk.inj he
        exact ⟨name, hs, hsemicolon, hone, hle, hfound⟩
    · cases h
  · rintro ⟨name, rfl, hname⟩
    rw [breakOn_singleton_eq_some_iff.2 ⟨rfl, hname.semicolon_not_mem⟩]
    simp only [(hlength name).2 ⟨hname.one_le, hname.le⟩, hname.resolve?_eq]
    rfl

/-- Nothing is replaced if no name is one of a reference. -/
theorem reference?_eq_none_iff : reference? s = none ↔
    ∀ name rest value, s = name ++ ';' :: rest → ¬ Refers name value := by
  constructor
  · intro h name rest value hs hname
    cases h.symm.trans (reference?_eq_some_iff.2 ⟨name, hs, hname⟩)
  · intro h
    rw [Option.eq_none_iff_forall_not_mem]
    rintro ⟨value, rest⟩ hreference
    obtain ⟨name, hs, hname⟩ := reference?_eq_some_iff.1 hreference
    exact h name rest value hs hname

/-- A text is related to what it becomes in one pass. -/
inductive Replaced : List Char → List Char → Prop
  /-- At the end nothing is left. -/
  | nil : Replaced [] []
  /-- A character that is no ampersand stays. -/
  | char {c : Char} {s t : List Char} : c ≠ '&' → Replaced s t → Replaced (c :: s) (c :: t)
  /-- A reference is replaced, and the pass goes on behind it. -/
  | reference {name value s t : List Char} : Refers name value → Replaced s t →
    Replaced ('&' :: (name ++ ';' :: s)) (value ++ t)
  /-- An ampersand that begins no reference stays, and the pass goes on with the next character. -/
  | ampersand {s t : List Char} :
    (∀ name rest value, s = name ++ ';' :: rest → ¬ Refers name value) →
    Replaced s t → Replaced ('&' :: s) ('&' :: t)

/-- Replacing references is one pass. -/
theorem replaced_unescape (s : List Char) : Replaced s (unescape s) := by
  induction s using unescape.induct with
  | case1 =>
    rw [unescape]
    exact .nil
  | case2 s value rest h ih =>
    rw [unescape_of_reference? h]
    obtain ⟨name, rfl, hname⟩ := reference?_eq_some_iff.1 h
    exact .reference hname ih
  | case3 s h ih =>
    rw [unescape_of_reference?_eq_none h]
    exact .ampersand (reference?_eq_none_iff.1 h) ih
  | case4 c s hc ih =>
    rw [unescape_cons_of_ne hc]
    exact .char hc ih

/-- One pass leads to one text. -/
theorem Replaced.eq (h : Replaced s t) : t = unescape s := by
  induction h with
  | nil => rw [unescape]
  | char hc _ ih => rw [unescape_cons_of_ne hc, ih]
  | reference hname _ ih =>
    rw [unescape_of_reference? (reference?_eq_some_iff.2 ⟨_, rfl, hname⟩), ih]
  | ampersand hno _ ih => rw [unescape_of_reference?_eq_none (reference?_eq_none_iff.2 hno), ih]

/-- The references of a text are replaced in one pass. -/
theorem unescape_eq_iff : unescape s = t ↔ Replaced s t :=
  ⟨fun h => h ▸ replaced_unescape s, fun h => h.eq.symm⟩

end References

section Sweeps

/-- The window of an ampersand is that of the bytes behind it. -/
theorem replacement?_ampersand (s : List Char) : replacement? ('&' :: s) = reference? s := by
  have hsize : ∀ name, utf8Length ('&' :: name) = 1 + utf8Length name := fun _ => rfl
  rw [replacement?, window?, reference?, breakOn_cons_of_ne (by decide)]
  cases breakOn [';'] s with
  | none => rfl
  | some cut =>
    obtain ⟨name, rest⟩ := cut
    simp only [Option.map_some, Option.filter_some, hsize]
    by_cases hname : name = []
    · subst hname
      rfl
    · have hone := one_le_utf8Length_iff.2 hname
      by_cases hlong : 31 < utf8Length name
      · rw [if_neg (by simp; omega), if_pos (by simp [hlong])]
        rfl
      · rw [if_pos (by simp; omega), if_neg (by simp [hname, hlong])]
        rfl

/-- What stands in front of the first ampersand stays. -/
theorem unescape_append_of_not_mem (h : '&' ∉ s) (t : List Char) :
    unescape (s ++ t) = s ++ unescape t := by
  induction s with
  | nil => rfl
  | cons c s ih =>
    rw [List.mem_cons, not_or] at h
    rw [List.cons_append, unescape_cons_of_ne (Ne.symm h.1), ih h.2, List.cons_append]

/-- A text without an ampersand stays. -/
theorem unescape_of_not_mem (h : '&' ∉ s) : unescape s = s := by
  have hs := unescape_append_of_not_mem h []
  rwa [List.append_nil, unescape, List.append_nil] at hs

/-- **A sweep writes the text with its references replaced behind what is written already.** -/
theorem sweep_eq (written rest : List Char) : sweep written rest = written ++ unescape rest := by
  fun_induction sweep written rest with
  | case1 written rest hcut => rw [unescape_of_not_mem (breakOn_singleton_eq_none_iff.1 hcut)]
  | case2 written rest before after hcut value behind h ih =>
    obtain ⟨rfl, hbefore⟩ := breakOn_singleton_eq_some_iff.1 hcut
    rw [replacement?_ampersand] at h
    rw [ih, unescape_append_of_not_mem hbefore, unescape_of_reference? h, List.append_assoc,
      List.append_assoc]
  | case3 written rest before after hcut h ih =>
    obtain ⟨rfl, hbefore⟩ := breakOn_singleton_eq_some_iff.1 hcut
    rw [replacement?_ampersand] at h
    rw [ih, unescape_append_of_not_mem hbefore, unescape_of_reference?_eq_none h, List.append_assoc,
      List.append_assoc, List.singleton_append]

/-- Sweeping a text replaces its references. -/
theorem sweepText_eq (s : List Char) : sweepText s = unescape s := by
  rw [sweepText]
  split
  · rename_i hcut
    rw [unescape_of_not_mem (breakOn_singleton_eq_none_iff.1 hcut)]
  · rename_i before after hcut
    obtain ⟨rfl, hbefore⟩ := breakOn_singleton_eq_some_iff.1 hcut
    rw [sweep_eq, unescape_append_of_not_mem hbefore]

end Sweeps

/-- **Replacing references takes escaping back and goes on behind it; it is one pass from left to
right, and so is a sweep from ampersand to ampersand.** -/
theorem unescape_singlePass :
    (∀ s t, unescape (htmlEscape s ++ t) = s ++ unescape t) ∧
    (∀ s, unescape (htmlEscape s) = s) ∧
    (∀ s t, unescape s = t ↔ Replaced s t) ∧
    ∀ s, sweepText s = unescape s :=
  ⟨unescape_htmlEscape_append, unescape_htmlEscape, fun _ _ => unescape_eq_iff, sweepText_eq⟩

end HtmlToHaml.Entity
