import HtmlToHaml.Entity.Reference

/-!
# From ampersand to ampersand

A text is swept for its references with what is written so far at hand. Everything up to the next
ampersand is written at once; the next semicolon is looked for from there, and what stands in
between is a name if the semicolon is near enough. The sweep goes on behind the semicolon if the
name is known, and right behind the ampersand if it is not.
-/

namespace HtmlToHaml.Entity

open Text

/-- The ampersand that a text begins with and the name behind it, and what follows the next
semicolon. The semicolon is not the next character, and is no more than 32 bytes away. -/
def window? (s : List Char) : Option (List Char × List Char) :=
  (breakOn [';'] s).filter fun cut => 1 < utf8Length cut.1 && utf8Length cut.1 ≤ 32

/-- What the reference that a text begins with is replaced by, and what follows it. -/
def replacement? (s : List Char) : Option (List Char × List Char) :=
  (window? s).bind fun cut => (resolve? (cut.1.drop 1)).map fun value => (value, cut.2)

/-- What follows a reference is shorter than the text that it begins. -/
theorem length_lt_of_replacement? {s value rest : List Char}
    (h : replacement? s = some (value, rest)) :
    rest.length < s.length := by
  obtain ⟨cut, hcut, hvalue⟩ := Option.bind_eq_some_iff.1 h
  obtain ⟨found, -, he⟩ := Option.map_eq_some_iff.1 hvalue
  obtain ⟨-, rfl⟩ := Prod.mk.inj he
  exact length_lt_of_breakOn (by simp) (Option.filter_eq_some_iff.1 hcut).1

/-- What is written for a text, behind what is written already. -/
def sweep (written rest : List Char) : List Char :=
  match _hcut : breakOn ['&'] rest with
  | none => written ++ rest
  | some (before, after) =>
    match _h : replacement? ('&' :: after) with
    | some (value, behind) => sweep (written ++ before ++ value) behind
    | none => sweep (written ++ before ++ ['&']) after
termination_by rest.length
decreasing_by
  · have hafter := length_lt_of_breakOn (by simp) _hcut
    have hbehind := length_lt_of_replacement? _h
    rw [List.length_cons] at hbehind
    omega
  · exact length_lt_of_breakOn (by simp) _hcut

/-- The text with its references replaced; one without an ampersand is not swept at all. -/
def sweepText (s : List Char) : List Char :=
  match breakOn ['&'] s with
  | none => s
  | some (before, after) => sweep before ('&' :: after)

end HtmlToHaml.Entity
