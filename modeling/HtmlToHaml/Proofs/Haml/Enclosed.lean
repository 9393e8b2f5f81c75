import HtmlToHaml.Proofs.Haml.LiteralReading
import Mathlib.Algebra.Ring.Parity
import Mathlib.Data.List.DropRight

/-!
# Text that stays between its quotes

Ruby reads backslashes in pairs, so a quote ends a literal and a `#` opens an interpolation if
an even number of backslashes stands before it. In the inside of a literal that is written
neither happens: escapes end in no odd run of backslashes, so what stands before one has no say
in how it is read.
-/

namespace HtmlToHaml.Haml

variable {s t before after : List Char} {c d : Char}

/-- The number of backslashes that a text ends in. -/
def endingBackslashes (s : List Char) : Nat :=
  (s.rtakeWhile (· = '\\')).length

/-- Text that can stand between two quotes: it holds no control characters, and neither a quote nor
an interpolation in it is alive. -/
structure Enclosed (body : List Char) : Prop where
  /-- No control character of ASCII, and so no line break, is in it. -/
  shown : ∀ c ∈ body, ¬ (c.toNat < 0x20 ∨ c.toNat = 0x7F)
  /-- Every quote is escaped. -/
  quote : ∀ before after, body = before ++ '"' :: after → Odd (endingBackslashes before)
  /-- Every `#` that would open an interpolation is escaped. -/
  interpolation : ∀ before after, body = before ++ '#' :: after → opensInterpolation after = true →
    Odd (endingBackslashes before)

section Backslashes

/-- One more backslash at the end. -/
theorem endingBackslashes_concat_backslash (s : List Char) :
    endingBackslashes (s ++ ['\\']) = endingBackslashes s + 1 := by
  rw [endingBackslashes, List.rtakeWhile_concat_pos _ _ _ (by decide), List.length_append]
  rfl

/-- No other character ends a text in backslashes. -/
theorem endingBackslashes_concat (s : List Char) (hc : c ≠ '\\') :
    endingBackslashes (s ++ [c]) = 0 := by
  rw [endingBackslashes, List.rtakeWhile_concat_neg _ _ _ (by simpa using hc)]
  rfl

/-- A text that ends in another character ends in an even number of backslashes, in none. -/
theorem even_endingBackslashes_concat (s : List Char) (hc : c ≠ '\\') :
    Even (endingBackslashes (s ++ [c])) := by
  rw [endingBackslashes_concat s hc]
  exact Even.zero

/-- Pairs of backslashes at the seam make no difference. -/
theorem odd_endingBackslashes_append (hs : Even (endingBackslashes s)) :
    Odd (endingBackslashes (s ++ t)) ↔ Odd (endingBackslashes t) := by
  induction t using List.reverseRecOn with
  | nil =>
    rw [List.append_nil]
    exact iff_of_false (Nat.not_odd_iff_even.2 hs) (by decide)
  | append_singleton t c ih =>
    rw [← List.append_assoc]
    by_cases hc : c = '\\'
    · rw [hc, endingBackslashes_concat_backslash, endingBackslashes_concat_backslash,
        Nat.odd_add_one, Nat.odd_add_one, ih]
    · rw [endingBackslashes_concat _ hc, endingBackslashes_concat _ hc]

end Backslashes

section Escapes

/-- An escape ends in no backslash or in two of them. -/
theorem even_endingBackslashes_rubyEscapeChar (c : Char) (rest : List Char) :
    Even (endingBackslashes (rubyEscapeChar c rest)) := by
  rcases rubyEscapeChar_forms c rest with ⟨d, he, -⟩ | ⟨he, -⟩ | ⟨he, -, hback, -⟩
  · rw [he]
    by_cases hd : d = '\\'
    · rw [hd]
      decide
    · exact even_endingBackslashes_concat ['\\'] hd
  · obtain ⟨a, b, hpair⟩ : ∃ a b, Encoding.hexPair c.toNat.toUInt8 = [a, b] := ⟨_, _, rfl⟩
    have hb : b ≠ '\\' := by
      rintro rfl
      have hrange := (hexPair_range (hpair ▸ List.mem_cons_of_mem a List.mem_cons_self)).2
      exact absurd hrange (by decide)
    rw [he, hpair]
    exact even_endingBackslashes_concat ['\\', 'x', a] hb
  · rw [he]
    exact even_endingBackslashes_concat [] hback

/-- A quote, or a `#` that would open an interpolation, stands behind one backslash in its
escape. -/
theorem eq_of_rubyEscapeChar_eq {rest more : List Char}
    (he : rubyEscapeChar c rest = before ++ d :: more)
    (hd : d = '"' ∨ d = '#' ∧ opensInterpolation (more ++ rubyEscape rest) = true) :
    before = ['\\'] := by
  rcases rubyEscapeChar_forms c rest with ⟨e, hform, -⟩ | ⟨hform, -⟩ | ⟨hform, hquote, -, hopen, -⟩
  · rw [hform] at he
    rcases before with _ | ⟨b, _ | ⟨b', before⟩⟩
    · rw [List.nil_append, List.cons.injEq] at he
      rw [← he.1] at hd
      simp at hd
    · rw [List.singleton_append, List.cons.injEq] at he
      rw [← he.1]
    · simp at he
  · have hmem : d ∈ '\\' :: 'x' :: Encoding.hexPair c.toNat.toUInt8 := by
      rw [← hform, he]
      simp
    have hlow : d.toNat < 48 := by
      rcases hd with rfl | ⟨rfl, -⟩ <;> decide
    have hno : d ∉ Encoding.hexPair c.toNat.toUInt8 := fun hm => by
      have hrange := (hexPair_range hm).1
      omega
    rcases hd with rfl | ⟨rfl, -⟩
    · simp [hno] at hmem
    · simp [hno] at hmem
  · rw [hform] at he
    obtain ⟨rfl, rfl, rfl⟩ : before = [] ∧ c = d ∧ more = [] := by
      cases before with
      | nil => simpa using he
      | cons b before => simp at he
    rw [List.nil_append, ← List.append_nil (rubyEscape rest),
      opensInterpolation_rubyEscape rest rfl] at hd
    rcases hd with hd | hd
    · exact absurd hd hquote
    · exact absurd hd hopen

/-- What would end a literal, or open an interpolation in it, is escaped. -/
theorem odd_of_rubyEscape_eq (he : rubyEscape s = before ++ d :: after)
    (hd : d = '"' ∨ d = '#' ∧ opensInterpolation after = true) :
    Odd (endingBackslashes before) := by
  induction s generalizing before with
  | nil => simp [rubyEscape] at he
  | cons c s ih =>
    rw [rubyEscape] at he
    rcases List.append_eq_append_iff.1 he with ⟨mid, rfl, hm⟩ | ⟨_ | ⟨e, mid⟩, hm, ha⟩
    · exact (odd_endingBackslashes_append (even_endingBackslashes_rubyEscapeChar c s)).2 (ih hm)
    · have hnone : Odd (endingBackslashes []) := ih ha.symm
      exact absurd hnone (by decide)
    · rw [List.cons_append, List.cons.injEq] at ha
      obtain ⟨rfl, rfl⟩ := ha
      rw [eq_of_rubyEscapeChar_eq hm hd]
      decide

end Escapes

/-- **A literal is one inert piece of Ruby, and is read back.** Between its quotes stands a text in
which no control character, no quote and no interpolation is alive; the literal is read as the text
that it was written for, up to its last quote and not further, whatever follows. -/
theorem exists_enclosed_rubyString (s : List Char) :
    ∃ body, rubyString s = '"' :: body ++ ['"'] ∧ Enclosed body ∧
      ∀ rest, readLiteral ('"' :: body ++ '"' :: rest) = some (s, rest) := by
  refine ⟨rubyEscape s, rfl,
    ⟨fun c hc => ?_, fun before after he => ?_, fun before after he ho => ?_⟩,
    fun rest => readInside_rubyEscape s rest⟩
  · exact shown_rubyEscape hc
  · exact odd_of_rubyEscape_eq he (Or.inl rfl)
  · exact odd_of_rubyEscape_eq he (Or.inr ⟨rfl, ho⟩)

end HtmlToHaml.Haml
