import HtmlToHaml.Proofs.Haml.Enclosed
import HtmlToHaml.Proofs.Haml.Escape

/-!
# Backslashes in front of interpolations

Backslashes are read in pairs in plain text too, so an interpolation is taken back by an odd number
of them and alive behind an even one. Taking interpolations back puts one backslash in front of each
of them and looks at nothing that stands there already. The main statement says which texts are left
without a live interpolation: those in which no interpolation was taken back before.
-/

namespace HtmlToHaml.Haml

open Text

variable {s before after : List Char}

/-- Every interpolation stands behind an odd number of backslashes. -/
def TakenBack (s : List Char) : Prop :=
  ∀ before after, s = before ++ '#' :: '{' :: after → Odd (endingBackslashes before)

/-- An interpolation is taken back in front of what is escaped by itself. -/
theorem escapeInterpolation_append_interpolation (before after : List Char) :
    escapeInterpolation (before ++ '#' :: '{' :: after) =
      escapeInterpolation before ++ '\\' :: '#' :: '{' :: escapeInterpolation after := by
  rw [escapeInterpolation_append (by simp), escapeInterpolation]

/-- **Each interpolation in an escaped text is one of the text**, behind one more backslash. -/
theorem escapeInterpolation_eq_append_iff :
    escapeInterpolation s = before ++ '#' :: '{' :: after ↔
      ∃ front back, s = front ++ '#' :: '{' :: back ∧
        before = escapeInterpolation front ++ ['\\'] ∧ after = escapeInterpolation back := by
  constructor
  · intro h
    fun_induction escapeInterpolation s generalizing before with
    | case1 s ih =>
      rcases before with _ | ⟨a, _ | ⟨b, _ | ⟨c, before⟩⟩⟩
      · simp at h
      · obtain ⟨rfl, rfl⟩ : '\\' = a ∧ escapeInterpolation s = after := by simpa using h
        exact ⟨[], s, rfl, rfl, rfl⟩
      · simp at h
      · obtain ⟨rfl, rfl, rfl, hs⟩ : '\\' = a ∧ '#' = b ∧ '{' = c ∧
            escapeInterpolation s = before ++ '#' :: '{' :: after := by simpa using h
        obtain ⟨front, back, rfl, rfl, rfl⟩ := ih hs
        exact ⟨'#' :: '{' :: front, back, rfl, rfl, rfl⟩
    | case2 c s hopen ih =>
      rcases before with _ | ⟨b, before⟩
      · obtain ⟨rfl, hs⟩ := List.cons.inj h
        obtain ⟨more, rfl⟩ :=
          List.head?_eq_some_iff.1 (head?_escapeInterpolation (s := s) (by rw [hs]; rfl))
        exact absurd rfl (hopen more rfl)
      · obtain ⟨rfl, hs⟩ := List.cons.inj h
        obtain ⟨front, back, rfl, rfl, rfl⟩ := ih hs
        refine ⟨c :: front, back, rfl, ?_, rfl⟩
        -- what begins the text before the interpolation begins the whole text
        rw [escapeInterpolation_cons, if_neg]
        · rfl
        · rintro ⟨hc, hf⟩
          obtain ⟨more, rfl⟩ := List.head?_eq_some_iff.1 hf
          exact hopen _ hc rfl
    | case3 => simp at h
  · rintro ⟨front, back, rfl, rfl, rfl⟩
    rw [escapeInterpolation_append_interpolation, List.append_assoc]
    rfl

/-- A text that ends in a character other than a backslash ends in no backslashes. -/
theorem endingBackslashes_of_getLast? {c : Char} (h : s.getLast? = some c) (hc : c ≠ '\\') :
    endingBackslashes s = 0 := by
  obtain ⟨front, rfl⟩ := List.getLast?_eq_some_iff.1 h
  exact endingBackslashes_concat front hc

/-- An escaped text ends in as many backslashes as the text. -/
theorem endingBackslashes_escapeInterpolation (s : List Char) :
    endingBackslashes (escapeInterpolation s) = endingBackslashes s := by
  induction s using List.reverseRecOn with
  | nil => rfl
  | append_singleton s c ih =>
    by_cases hc : c = '\\'
    · subst hc
      have hone : escapeInterpolation ['\\'] = ['\\'] := rfl
      rw [escapeInterpolation_append (by simp), hone, endingBackslashes_concat_backslash,
        endingBackslashes_concat_backslash, ih]
    · have hlast : (escapeInterpolation (s ++ [c])).getLast? = some c := by
        rw [getLast?_escapeInterpolation, List.getLast?_concat]
      rw [endingBackslashes_of_getLast? hlast hc, endingBackslashes_concat s hc]

/-- **Every interpolation of an escaped text is taken back exactly if none of the text was
taken back already.** -/
theorem takenBack_escapeInterpolation_iff (s : List Char) :
    TakenBack (escapeInterpolation s) ↔
      ∀ before after, s = before ++ '#' :: '{' :: after → Even (endingBackslashes before) := by
  have hmore : ∀ front, Odd (endingBackslashes (escapeInterpolation front ++ ['\\'])) ↔
      Even (endingBackslashes front) := by
    intro front
    rw [endingBackslashes_concat_backslash, endingBackslashes_escapeInterpolation, Nat.odd_add_one,
      Nat.not_odd_iff_even]
  constructor
  · intro h before after hs
    refine (hmore before).1 (h _ (escapeInterpolation after) ?_)
    exact escapeInterpolation_eq_append_iff.2 ⟨before, after, hs, rfl, rfl⟩
  · intro h before after hs
    obtain ⟨front, back, hfront, rfl, -⟩ := escapeInterpolation_eq_append_iff.1 hs
    exact (hmore front).2 (h front back hfront)

/-- An interpolation that was taken back already is alive behind its two backslashes. -/
theorem not_takenBack_escapeInterpolation : ¬ ∀ s, TakenBack (escapeInterpolation s) := by
  intro h
  have hodd : Odd (endingBackslashes ['\\', '\\']) := h ['\\', '#', '{', 'x', '}'] _ ['x', '}'] rfl
  exact absurd hodd (by decide)

end HtmlToHaml.Haml
