import HtmlToHaml.Entity.BareNames
import HtmlToHaml.Entity.Reference
import HtmlToHaml.Html.Token

/-!
# Character references of HTML

HTML knows more references than XML: every name may stand for more than one character, some names
need no semicolon, and numbers need none either. Numbers that stand for no character of their own
are replaced. In an attribute value a name without a semicolon counts only if nothing follows that
could continue it.
-/

namespace HtmlToHaml.Html

open Text

/-- What a reference stands for, the text after it, and whether it was written by the rules. -/
structure Referenced where
  /-- The characters it stands for. -/
  value : List Char
  /-- The text after it. -/
  rest : List Char
  /-- Whether it was written by the rules. -/
  wellFormed : Bool

/-- The characters that the numbers 128 to 159 stand for; zero marks a number that stands for
itself. -/
def controlStandIns : List Nat :=
  [0x20AC, 0, 0x201A, 0x0192, 0x201E, 0x2026, 0x2020, 0x2021, 0x02C6, 0x2030, 0x0160, 0x2039,
    0x0152, 0, 0x017D, 0, 0, 0x2018, 0x2019, 0x201C, 0x201D, 0x2022, 0x2013, 0x2014, 0x02DC,
    0x2122, 0x0161, 0x203A, 0x0153, 0, 0x017E, 0x0178]

/-- The character that a number stands for. -/
def numberedCharacter (code : Nat) : Char :=
  if code = 0 ∨ !code.isValidChar then '\uFFFD'
  else if 0x80 ≤ code ∧ code ≤ 0x9F then
    let mapped := controlStandIns.getD (code - 0x80) 0
    Char.ofNat (if mapped = 0 then code else mapped)
  else Char.ofNat code

/-- Whether a number may stand in a reference. -/
def isAllowedNumber (code : Nat) : Bool :=
  code.isValidChar && code != 0 && !(0x80 ≤ code && code ≤ 0x9F) &&
    !(1 ≤ code && code ≤ 8) && code != 0xB && !(0xD ≤ code && code ≤ 0x1F) && code != 0x7F &&
    !(0xFDD0 ≤ code && code ≤ 0xFDEF) && code % 0x10000 < 0xFFFE

/-- The reference that digits in a base make, none without a digit. -/
def numberedReference? (base : Nat) (s : List Char) : Option Referenced :=
  let isDigit := fun c => (Entity.digit? base c).isSome
  let digits := s.takeWhile isDigit
  let code := (Entity.digits? base 0 digits).getD 0
  if digits.isEmpty then none
  else
    match s.dropWhile isDigit with
    | ';' :: rest => some ⟨[numberedCharacter code], rest, isAllowedNumber code⟩
    | rest => some ⟨[numberedCharacter code], rest, false⟩

/-- The longer of two texts, if there are any. -/
def longer (best : Option (List Char)) (name : List Char) : Option (List Char) :=
  match best with
  | some known => if known.length < name.length then some name else best
  | none => some name

/-- The longest name without a semicolon that begins a text. -/
def bareName? (s : List Char) : Option (List Char) :=
  ((Entity.bareNames.map String.toList).filter fun name =>
    (stripPrefix? name s).isSome).foldl longer none

/-- The text a name stands for. -/
def namedText? (name : List Char) : Option (List Char) :=
  (Entity.named? (String.ofList name)).map String.toList

/-- Whether a character after a name without a semicolon continues a word of an address. -/
def continuesName : List Char → Bool
  | c :: _ => c == '=' || c.isAlphanum
  | [] => false

/-- The reference with a name that begins a text. -/
def namedReference? (inAttribute : Bool) (s : List Char) : Option Referenced :=
  let word := s.takeWhile Char.isAlphanum
  match s.dropWhile Char.isAlphanum, namedText? word with
  | ';' :: rest, some value => some ⟨value, rest, true⟩
  | _, _ =>
    match bareName? s with
    | none => none
    | some name =>
      let rest := s.drop name.length
      if inAttribute && continuesName rest then none
      else (namedText? name).map fun value => ⟨value, rest, false⟩

/-- The reference that begins after an ampersand. -/
def reference? (inAttribute : Bool) : List Char → Option Referenced
  | '#' :: 'x' :: s | '#' :: 'X' :: s => numberedReference? 16 s
  | '#' :: s => numberedReference? 10 s
  | s => namedReference? inAttribute s

/-- What follows a numbered reference is no longer than the text it begins. -/
theorem length_rest_le_of_numbered {base : Nat} {s : List Char} {r : Referenced}
    (h : numberedReference? base s = some r) : r.rest.length ≤ s.length := by
  have hd := (List.dropWhile_suffix (l := s) fun c => (Entity.digit? base c).isSome).length_le
  unfold numberedReference? at h
  simp only at h
  split at h
  · cases h
  · split at h
    · rename_i rest hr
      cases h
      rw [hr, List.length_cons] at hd
      exact Nat.le_of_succ_le hd
    · cases h
      exact hd

/-- What follows a named reference is no longer than the text it begins. -/
theorem length_rest_le_of_named {inAttribute : Bool} {s : List Char} {r : Referenced}
    (h : namedReference? inAttribute s = some r) : r.rest.length ≤ s.length := by
  have hd := (List.dropWhile_suffix (l := s) Char.isAlphanum).length_le
  unfold namedReference? at h
  simp only at h
  split at h
  · rename_i rest value hr _
    cases h
    rw [hr, List.length_cons] at hd
    exact Nat.le_of_succ_le hd
  · split at h
    · cases h
    · split at h
      · cases h
      · obtain ⟨value, _, hv⟩ := Option.map_eq_some_iff.1 h
        subst hv
        simp

/-- What follows a reference is no longer than the text after its ampersand. -/
theorem length_rest_le {inAttribute : Bool} {s : List Char} {r : Referenced}
    (h : reference? inAttribute s = some r) : r.rest.length ≤ s.length := by
  unfold reference? at h
  split at h
  · exact Nat.le_succ_of_le (Nat.le_succ_of_le (length_rest_le_of_numbered h))
  · exact Nat.le_succ_of_le (Nat.le_succ_of_le (length_rest_le_of_numbered h))
  · exact Nat.le_succ_of_le (length_rest_le_of_numbered h)
  · exact length_rest_le_of_named h

/-- An attribute value as written, with its references replaced. -/
def attributeText : List Char → List Char
  | [] => []
  | c :: s =>
    if c = '&' then
      match _h : reference? true s with
      | some r => r.value ++ attributeText r.rest
      | none => '&' :: attributeText s
    else visible c :: attributeText s
termination_by s => s.length
decreasing_by
  · have := length_rest_le _h
    simp only [List.length_cons]
    omega
  all_goals simp

end HtmlToHaml.Html
