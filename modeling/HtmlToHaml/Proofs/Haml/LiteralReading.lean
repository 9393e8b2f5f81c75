import HtmlToHaml.Entity.Reference
import HtmlToHaml.Proofs.Haml.Sealed

/-!
# Reading a Ruby literal

Between double quotes a backslash begins an escape, and a `#` in front of a brace, a dollar sign or
an at sign would begin an interpolation, which no literal text holds. A text that is written as a
literal is read back, whatever follows the closing quote.
-/

namespace HtmlToHaml.Haml

open Text

/-- The character that an escape of one letter stands for. -/
def escapedChar? : Char → Option Char
  | '"' => some '"'
  | '\\' => some '\\'
  | '#' => some '#'
  | 'n' => some '\n'
  | 't' => some '\t'
  | 'r' => some '\r'
  | _ => none

/-- The inside of a literal up to its closing quote, and what follows the quote. -/
def readInside : List Char → Option (List Char × List Char)
  | '"' :: s => some ([], s)
  | '\\' :: 'x' :: a :: b :: s =>
    (Entity.digits? 16 0 [a, b]).bind fun code =>
      (readInside s).map (Prod.map (Char.ofNat code :: ·) id)
  | '\\' :: c :: s => (escapedChar? c).bind fun c => (readInside s).map (Prod.map (c :: ·) id)
  | ['\\'] => none
  | c :: s =>
    if c = '#' ∧ opensInterpolation s then none else (readInside s).map (Prod.map (c :: ·) id)
  | [] => none

/-- The text of the literal that begins a text, and what follows the literal. -/
def readLiteral : List Char → Option (List Char × List Char)
  | '"' :: s => readInside s
  | _ => none

variable {s t : List Char} {c d : Char}

/-- The digits of a byte are read as its number. -/
theorem digits?_hexPair {n : Nat} (h : n < 128) :
    Entity.digits? 16 0 (Encoding.hexPair n.toUInt8) = some n := by
  have hdigit : ∀ d < 16, Entity.digit? 16 (Encoding.hexDigit d) = some d := by decide
  have hn : n.toUInt8.toNat = n := by
    rw [Nat.toUInt8, UInt8.toNat_ofNat', Nat.mod_eq_of_lt (by omega)]
  simp only [Encoding.hexPair, hn, Entity.digits?, hdigit _ (show n / 16 < 16 by omega),
    hdigit _ (show n % 16 < 16 by omega)]
  congr 1
  omega

/-- An escape of one letter is read as its character. -/
theorem readInside_escapedChar (h : escapedChar? d = some c) (t : List Char) :
    readInside ('\\' :: d :: t) = (readInside t).map (Prod.map (c :: ·) id) := by
  rw [readInside.eq_3, h, Option.bind_some]
  rintro a b s rfl -
  cases h

/-- An escape of two digits is read as its character. -/
theorem readInside_hexPair (h : c.toNat < 128) (t : List Char) :
    readInside ('\\' :: 'x' :: Encoding.hexPair c.toNat.toUInt8 ++ t) =
      (readInside t).map (Prod.map (c :: ·) id) := by
  have hdigits := digits?_hexPair h
  rw [Encoding.hexPair] at hdigits ⊢
  simp only [List.cons_append, List.nil_append, readInside, hdigits, Option.bind_some,
    Char.ofNat_toNat]

/-- A character that is left alone is read as itself. -/
theorem readInside_plain (hquote : c ≠ '"') (hback : c ≠ '\\')
    (hopen : ¬ (c = '#' ∧ opensInterpolation t = true)) :
    readInside (c :: t) = (readInside t).map (Prod.map (c :: ·) id) := by
  rw [readInside.eq_5, if_neg hopen]
  · exact fun h => hquote h
  · exact fun _ _ _ h _ => hback h
  · exact fun _ _ h _ => hback h
  · exact fun h _ => hback h

/-- A character is escaped by one letter, by two digits if it is a control character, or
not at all. -/
theorem rubyEscapeChar_forms (c : Char) (rest : List Char) :
    (∃ d, rubyEscapeChar c rest = ['\\', d] ∧ escapedChar? d = some c) ∨
      (rubyEscapeChar c rest = '\\' :: 'x' :: Encoding.hexPair c.toNat.toUInt8 ∧
        (c.toNat < 0x20 ∨ c.toNat = 0x7F)) ∨
      (rubyEscapeChar c rest = [c] ∧ c ≠ '"' ∧ c ≠ '\\' ∧
        ¬ (c = '#' ∧ opensInterpolation rest = true) ∧ ¬ (c.toNat < 0x20 ∨ c.toNat = 0x7F)) := by
  rw [rubyEscapeChar]
  split_ifs with hquote hback hfeed htab hreturn hopen hcontrol
  · exact Or.inl ⟨_, rfl, by rw [hquote]; rfl⟩
  · exact Or.inl ⟨_, rfl, by rw [hback]; rfl⟩
  · exact Or.inl ⟨_, rfl, by rw [hfeed]; rfl⟩
  · exact Or.inl ⟨_, rfl, by rw [htab]; rfl⟩
  · exact Or.inl ⟨_, rfl, by rw [hreturn]; rfl⟩
  · exact Or.inl ⟨_, rfl, by rw [hopen.1]; rfl⟩
  · exact Or.inr (Or.inl ⟨rfl, hcontrol⟩)
  · exact Or.inr (Or.inr ⟨rfl, hquote, hback, hopen, hcontrol⟩)

/-- One escaped character is read back, if what follows it goes on an interpolation exactly where
the text did. -/
theorem readInside_rubyEscapeChar (ht : opensInterpolation t = opensInterpolation s) :
    readInside (rubyEscapeChar c s ++ t) = (readInside t).map (Prod.map (c :: ·) id) := by
  rcases rubyEscapeChar_forms c s with ⟨d, he, hd⟩ | ⟨he, hcontrol⟩ | ⟨he, hquote, hback, hopen, -⟩
  · rw [he]
    exact readInside_escapedChar hd t
  · rw [he]
    exact readInside_hexPair (by omega) t
  · rw [he]
    exact readInside_plain hquote hback (ht ▸ hopen)

/-- An escaped character goes on an interpolation exactly where the character does. -/
theorem opensInterpolation_rubyEscapeChar (c : Char) (s t : List Char) :
    opensInterpolation (rubyEscapeChar c s ++ t) = opensInterpolation [c] := by
  rcases rubyEscapeChar_forms c s with ⟨d, he, hd⟩ | ⟨he, hcontrol⟩ | ⟨he, -⟩
  · have hno : ∀ d, (escapedChar? d).all (fun c => !opensInterpolation [c]) = true := by
      intro d
      fun_cases escapedChar? d <;> rfl
    have hc := hno d
    rw [hd, Option.all_some, Bool.not_eq_true'] at hc
    rw [he, hc]
    rfl
  · have hno : ∀ n < 128, n < 0x20 ∨ n = 0x7F →
        opensInterpolation [Char.ofNat n] = false := by decide
    rw [he, ← Char.ofNat_toNat c, hno c.toNat (by omega) hcontrol]
    rfl
  · rw [he]
    rfl

/-- What an escaped text begins with goes on an interpolation exactly where the text does, if what
follows it does not. -/
theorem opensInterpolation_rubyEscape (s : List Char) (ht : opensInterpolation t = false) :
    opensInterpolation (rubyEscape s ++ t) = opensInterpolation s := by
  cases s with
  | nil => exact ht
  | cons c s =>
    rw [rubyEscape, List.append_assoc, opensInterpolation_rubyEscapeChar]
    rfl

/-- The inside of a literal is read back. -/
theorem readInside_rubyEscape (s rest : List Char) :
    readInside (rubyEscape s ++ '"' :: rest) = some (s, rest) := by
  induction s with
  | nil => rfl
  | cons c s ih =>
    rw [rubyEscape, List.append_assoc,
      readInside_rubyEscapeChar (opensInterpolation_rubyEscape s rfl), ih, Option.map_some]
    rfl

/-- **A literal is read back.** -/
theorem readLiteral_rubyString (s rest : List Char) :
    readLiteral (rubyString s ++ rest) = some (s, rest) := by
  rw [rubyString, List.append_assoc, List.cons_append, readLiteral]
  exact readInside_rubyEscape s rest

end HtmlToHaml.Haml
