import HtmlToHaml.Encoding.Decode

/-!
# Characters as bytes

Every charset writes a character as one to four bytes, and no two characters alike. The main
statements say that the first step of reading undoes this: it reads a character exactly where the
bytes of that character stand, and takes them all.
-/

namespace HtmlToHaml.Encoding

/-- The sixteen-bit units of a character: its number, or two halves of it. -/
def units16 (c : Char) : List Nat :=
  if c.toNat < 0x10000 then [c.toNat]
  else [0xD800 + (c.toNat - 0x10000) / 0x400, 0xDC00 + (c.toNat - 0x10000) % 0x400]

/-- The bytes of a sixteen-bit unit. -/
def unitBytes (bigEndian : Bool) (unit : Nat) : List UInt8 :=
  if bigEndian then [UInt8.ofNat (unit / 256), UInt8.ofNat (unit % 256)]
  else [UInt8.ofNat (unit % 256), UInt8.ofNat (unit / 256)]

/-- The bytes of a character. -/
def Charset.encodeChar : Charset → Char → List UInt8
  | .utf8, c => String.utf8EncodeChar c
  | .utf16le, c => (units16 c).flatMap (unitBytes false)
  | .utf16be, c => (units16 c).flatMap (unitBytes true)

/-- The bytes of a text. -/
def Charset.encode (charset : Charset) (text : List Char) : List UInt8 :=
  text.flatMap charset.encodeChar

variable {first byte : UInt8} {bytes rest : List UInt8} {c : Char}
  {more value low high need taken : Nat} {bigEndian : Bool}

/-- A character is read where its bytes stand. -/
def Reads (next : UInt8 → List UInt8 → Piece) (encode : Char → List UInt8) : Prop :=
  ∀ c rest, ∃ first more, encode c = first :: more ∧ next first (more ++ rest) = .char c more.length

/-- The number of a character is no half of one. -/
theorem toNat_cases (c : Char) : c.toNat < 0xD800 ∨ 0xE000 ≤ c.toNat ∧ c.toNat < 0x110000 := c.valid

/-- A number that is no half of a character is that of one. -/
theorem toNat_ofNat {n : Nat} (h : n < 0xD800 ∨ 0xE000 ≤ n ∧ n < 0x110000) :
    (Char.ofNat n).toNat = n := by
  have hvalid : n.isValidChar := h
  rw [Char.ofNat, dif_pos hvalid]
  rfl

section Utf8

/-- A byte in its range continues a character. -/
theorem continueUtf8_cons (hlow : low ≤ byte.toNat) (hhigh : byte.toNat ≤ high) :
    continueUtf8 value low high (need + 1) taken (byte :: bytes) =
      continueUtf8 (value * 64 + byte.toNat % 64) 0x80 0xBF need (taken + 1) bytes := by
  rw [continueUtf8, if_pos ⟨hlow, hhigh⟩]

/-- A number that is a character's reads as the character. -/
theorem char_congr {n : Nat} (h : n = c.toNat) (more : Nat) :
    Piece.char (Char.ofNat n) more = .char c more := by
  rw [h, Char.ofNat_toNat]

/-- A small number is a byte's. -/
theorem toNat_byte {n : Nat} (h : n < 256) : (UInt8.ofNat n).toNat = n := by
  rw [UInt8.toNat_ofNat', Nat.mod_eq_of_lt h]

/-- A byte is that of its number. -/
theorem byte_of_toNat {n : Nat} (h : n = byte.toNat) : UInt8.ofNat n = byte := by
  rw [h, UInt8.ofNat_toNat]

/-- The number of a byte that continues a character. -/
theorem toNat_continuation (n : Nat) : (UInt8.ofNat (n % 0x40 + 0x80)).toNat = n % 0x40 + 0x80 :=
  toNat_byte (by omega)

/-- One byte is read as its character. -/
theorem nextUtf8_one (h : c.toNat ≤ 0x7f) : nextUtf8 (UInt8.ofNat c.toNat) rest = .char c 0 := by
  have hfirst : (UInt8.ofNat c.toNat).toNat = c.toNat := toNat_byte (by omega)
  simp only [nextUtf8, hfirst]
  rw [if_pos (by omega)]
  exact char_congr rfl 0

/-- Two bytes are read as their character. -/
theorem nextUtf8_two (hlow : 0x7f < c.toNat) (hhigh : c.toNat ≤ 0x7ff) :
    nextUtf8 (UInt8.ofNat (c.toNat / 64 % 0x20 + 0xc0))
      (UInt8.ofNat (c.toNat % 0x40 + 0x80) :: rest) = .char c 1 := by
  have hfirst : (UInt8.ofNat (c.toNat / 64 % 0x20 + 0xc0)).toNat = c.toNat / 64 % 0x20 + 0xc0 :=
    toNat_byte (by omega)
  have hsecond := toNat_continuation c.toNat
  simp only [nextUtf8, hfirst]
  rw [if_neg (by omega), if_neg (by omega), if_pos (by omega),
    continueUtf8_cons (by omega) (by omega), continueUtf8, hsecond]
  exact char_congr (by omega) 1

/-- Three bytes are read as their character, since it is no half of one. -/
theorem nextUtf8_three (hlow : 0x7ff < c.toNat) (hhigh : c.toNat ≤ 0xffff) :
    nextUtf8 (UInt8.ofNat (c.toNat / 4096 % 0x10 + 0xe0))
      (UInt8.ofNat (c.toNat / 64 % 0x40 + 0x80) :: UInt8.ofNat (c.toNat % 0x40 + 0x80) :: rest) =
      .char c 2 := by
  have hvalid := toNat_cases c
  have hfirst : (UInt8.ofNat (c.toNat / 4096 % 0x10 + 0xe0)).toNat = c.toNat / 4096 % 0x10 + 0xe0 :=
    toNat_byte (by omega)
  have hsecond := toNat_continuation (c.toNat / 64)
  have hthird := toNat_continuation c.toNat
  simp only [nextUtf8, hfirst]
  rw [if_neg (by omega), if_neg (by omega), if_neg (by omega), if_pos (by omega),
    continueUtf8_cons (by split <;> omega) (by split <;> omega),
    continueUtf8_cons (by omega) (by omega), continueUtf8, hsecond, hthird]
  exact char_congr (by omega) 2

/-- Four bytes are read as their character. -/
theorem nextUtf8_four (hlow : 0xffff < c.toNat) :
    nextUtf8 (UInt8.ofNat (c.toNat / 262144 % 0x08 + 0xf0))
      (UInt8.ofNat (c.toNat / 4096 % 0x40 + 0x80) :: UInt8.ofNat (c.toNat / 64 % 0x40 + 0x80) ::
        UInt8.ofNat (c.toNat % 0x40 + 0x80) :: rest) = .char c 3 := by
  have hvalid := toNat_cases c
  have hfirst : (UInt8.ofNat (c.toNat / 262144 % 0x08 + 0xf0)).toNat =
      c.toNat / 262144 % 0x08 + 0xf0 := toNat_byte (by omega)
  have hsecond := toNat_continuation (c.toNat / 4096)
  have hthird := toNat_continuation (c.toNat / 64)
  have hfourth := toNat_continuation c.toNat
  simp only [nextUtf8, hfirst]
  rw [if_neg (by omega), if_neg (by omega), if_neg (by omega), if_neg (by omega), if_pos (by omega),
    continueUtf8_cons (by split <;> omega) (by split <;> omega),
    continueUtf8_cons (by omega) (by omega), continueUtf8_cons (by omega) (by omega), continueUtf8,
    hsecond, hthird, hfourth]
  exact char_congr (by omega) 3

/-- A character is read in UTF-8 where its bytes stand. -/
theorem reads_utf8 : Reads nextUtf8 String.utf8EncodeChar := by
  intro c rest
  have hval : c.val.toNat = c.toNat := rfl
  rw [String.utf8EncodeChar]
  simp only [hval]
  split
  · exact ⟨_, _, rfl, nextUtf8_one (by omega)⟩
  split
  · exact ⟨_, _, rfl, nextUtf8_two (by omega) (by omega)⟩
  split
  · exact ⟨_, _, rfl, nextUtf8_three (by omega) (by omega)⟩
  · exact ⟨_, _, rfl, nextUtf8_four (by omega)⟩

/-- What continues to a character begins with a byte in its range. -/
theorem exists_of_continueUtf8
    (h : continueUtf8 value low high (need + 1) taken bytes = .char c more) :
    ∃ byte rest, bytes = byte :: rest ∧ low ≤ byte.toNat ∧ byte.toNat ≤ high ∧
      continueUtf8 (value * 64 + byte.toNat % 64) 0x80 0xBF need (taken + 1) rest =
        .char c more := by
  cases bytes with
  | nil =>
    rw [continueUtf8] at h
    cases h
  | cons byte rest =>
    rw [continueUtf8] at h
    split at h
    · rename_i hrange
      exact ⟨byte, rest, rfl, hrange.1, hrange.2, h⟩
    · cases h

variable {second third fourth : UInt8} {n : Nat}

/-- The character of a small number is the byte of this number. -/
theorem utf8EncodeChar_one (h : first.toNat < 0x80) :
    String.utf8EncodeChar (Char.ofNat first.toNat) = [first] := by
  have hval : (Char.ofNat first.toNat).val.toNat = first.toNat := toNat_ofNat (by omega)
  simp only [String.utf8EncodeChar, hval]
  rw [if_pos (by omega), byte_of_toNat rfl]

/-- The character of two bytes is written as these bytes. -/
theorem utf8EncodeChar_two (hfirst : 0xC2 ≤ first.toNat ∧ first.toNat < 0xE0)
    (hsecond : 0x80 ≤ second.toNat ∧ second.toNat ≤ 0xBF)
    (hn : (first.toNat - 0xC0) * 64 + second.toNat % 64 = n) :
    String.utf8EncodeChar (Char.ofNat n) = [first, second] := by
  have hval : (Char.ofNat n).val.toNat = n := toNat_ofNat (by omega)
  have hfirst' : UInt8.ofNat (n / 64 % 0x20 + 0xc0) = first := byte_of_toNat (by omega)
  have hsecond' : UInt8.ofNat (n % 0x40 + 0x80) = second := byte_of_toNat (by omega)
  simp only [String.utf8EncodeChar, hval, hfirst', hsecond']
  rw [if_neg (by omega), if_pos (by omega)]

/-- The character of three bytes is written as these bytes, where no shorter form and no half of a
character is. -/
theorem utf8EncodeChar_three (hfirst : 0xE0 ≤ first.toNat ∧ first.toNat < 0xF0)
    (hsecond : 0x80 ≤ second.toNat ∧ second.toNat ≤ 0xBF)
    (hthird : 0x80 ≤ third.toNat ∧ third.toNat ≤ 0xBF) (hlong : 0x800 ≤ n)
    (hwhole : n < 0xD800 ∨ 0xE000 ≤ n)
    (hn : ((first.toNat - 0xE0) * 64 + second.toNat % 64) * 64 + third.toNat % 64 = n) :
    String.utf8EncodeChar (Char.ofNat n) = [first, second, third] := by
  have hval : (Char.ofNat n).val.toNat = n := toNat_ofNat (by omega)
  have hfirst' : UInt8.ofNat (n / 4096 % 0x10 + 0xe0) = first := byte_of_toNat (by omega)
  have hsecond' : UInt8.ofNat (n / 64 % 0x40 + 0x80) = second := byte_of_toNat (by omega)
  have hthird' : UInt8.ofNat (n % 0x40 + 0x80) = third := byte_of_toNat (by omega)
  simp only [String.utf8EncodeChar, hval, hfirst', hsecond', hthird']
  rw [if_neg (by omega), if_neg (by omega), if_pos (by omega)]

/-- The character of four bytes is written as these bytes, where no shorter form is and nothing
beyond the last character. -/
theorem utf8EncodeChar_four (hfirst : 0xF0 ≤ first.toNat ∧ first.toNat < 0xF5)
    (hsecond : 0x80 ≤ second.toNat ∧ second.toNat ≤ 0xBF)
    (hthird : 0x80 ≤ third.toNat ∧ third.toNat ≤ 0xBF)
    (hfourth : 0x80 ≤ fourth.toNat ∧ fourth.toNat ≤ 0xBF) (hlong : 0x10000 ≤ n)
    (hlast : n < 0x110000)
    (hn : (((first.toNat - 0xF0) * 64 + second.toNat % 64) * 64 + third.toNat % 64) * 64 +
      fourth.toNat % 64 = n) :
    String.utf8EncodeChar (Char.ofNat n) = [first, second, third, fourth] := by
  have hval : (Char.ofNat n).val.toNat = n := toNat_ofNat (by omega)
  have hfirst' : UInt8.ofNat (n / 262144 % 0x08 + 0xf0) = first := byte_of_toNat (by omega)
  have hsecond' : UInt8.ofNat (n / 4096 % 0x40 + 0x80) = second := byte_of_toNat (by omega)
  have hthird' : UInt8.ofNat (n / 64 % 0x40 + 0x80) = third := byte_of_toNat (by omega)
  have hfourth' : UInt8.ofNat (n % 0x40 + 0x80) = fourth := byte_of_toNat (by omega)
  simp only [String.utf8EncodeChar, hval, hfirst', hsecond', hthird', hfourth']
  rw [if_neg (by omega), if_neg (by omega), if_neg (by omega)]

/-- Where a character is read in UTF-8, its bytes stand. -/
theorem encode_of_nextUtf8 (h : nextUtf8 first bytes = .char c more) :
    ∃ tail rest, bytes = tail ++ rest ∧ tail.length = more ∧
      String.utf8EncodeChar c = first :: tail := by
  simp only [nextUtf8] at h
  split at h
  · obtain ⟨rfl, rfl⟩ := Piece.char.inj h
    exact ⟨[], bytes, rfl, rfl, utf8EncodeChar_one (by omega)⟩
  split at h
  · cases h
  -- the second byte's range is what leaves out the numbers that are no character of this length
  split at h
  · obtain ⟨second, rest, rfl, hlow, hhigh, h⟩ := exists_of_continueUtf8 h
    rw [continueUtf8] at h
    obtain ⟨rfl, rfl⟩ := Piece.char.inj h
    exact ⟨[second], rest, rfl, rfl, utf8EncodeChar_two (by omega) ⟨hlow, hhigh⟩ rfl⟩
  split at h
  · obtain ⟨second, rest, rfl, hlow, hhigh, h⟩ := exists_of_continueUtf8 h
    obtain ⟨third, rest, rfl, hlow', hhigh', h⟩ := exists_of_continueUtf8 h
    rw [continueUtf8] at h
    obtain ⟨rfl, rfl⟩ := Piece.char.inj h
    refine ⟨[second, third], rest, rfl, rfl,
      utf8EncodeChar_three (by omega) ?_ ⟨hlow', hhigh'⟩ ?_ ?_ rfl⟩ <;>
        split at hlow <;> split at hhigh <;> omega
  split at h
  · obtain ⟨second, rest, rfl, hlow, hhigh, h⟩ := exists_of_continueUtf8 h
    obtain ⟨third, rest, rfl, hlow', hhigh', h⟩ := exists_of_continueUtf8 h
    obtain ⟨fourth, rest, rfl, hlow'', hhigh'', h⟩ := exists_of_continueUtf8 h
    rw [continueUtf8] at h
    obtain ⟨rfl, rfl⟩ := Piece.char.inj h
    refine ⟨[second, third, fourth], rest, rfl, rfl,
      utf8EncodeChar_four (by omega) ?_ ⟨hlow', hhigh'⟩ ⟨hlow'', hhigh''⟩ ?_ ?_ rfl⟩ <;>
        split at hlow <;> split at hhigh <;> omega
  · cases h

/-- A character that is begun breaks off among the bytes. -/
theorem le_of_continueUtf8 (h : continueUtf8 value low high need taken bytes = .malformed more) :
    more ≤ taken + bytes.length := by
  fun_induction continueUtf8 value low high need taken bytes with
  | case1 => cases h
  | case2 =>
    cases h
    exact Nat.le_add_right ..
  | case3 _ _ _ _ _ _ _ _ ih =>
    have hmore := ih h
    rw [List.length_cons]
    omega
  | case4 =>
    cases h
    exact Nat.le_add_right ..

/-- Bytes that mean nothing in UTF-8 are among those that are read. -/
theorem le_of_nextUtf8 (h : nextUtf8 first bytes = .malformed more) : more ≤ bytes.length := by
  have hcontinued : ∀ {value low high need}, continueUtf8 value low high need 0 bytes =
      .malformed more → more ≤ bytes.length := fun h => by simpa using le_of_continueUtf8 h
  simp only [nextUtf8] at h
  split at h
  · cases h
  split at h
  · cases h
    exact Nat.zero_le _
  split at h
  · exact hcontinued h
  split at h
  · exact hcontinued h
  split at h
  · exact hcontinued h
  · cases h
    exact Nat.zero_le _

end Utf8

section Utf16

variable {a b : UInt8} {unit : Nat}

/-- The bytes of a unit make up the unit. -/
theorem exists_unitBytes (bigEndian : Bool) (h : unit < 0x10000) :
    ∃ a b, unitBytes bigEndian unit = [a, b] ∧ unit16 bigEndian a b = unit := by
  have hhigh : (UInt8.ofNat (unit / 256)).toNat = unit / 256 := toNat_byte (by omega)
  have hlow : (UInt8.ofNat (unit % 256)).toNat = unit % 256 := toNat_byte (by omega)
  cases bigEndian with
  | false =>
    exact ⟨_, _, rfl, by simp only [unit16, hhigh, hlow, Bool.false_eq_true, if_false]; omega⟩
  | true => exact ⟨_, _, rfl, by simp only [unit16, hhigh, hlow, if_true]; omega⟩

/-- The unit of two bytes is written as these bytes. -/
theorem unitBytes_unit16 : unitBytes bigEndian (unit16 bigEndian a b) = [a, b] := by
  have ha := a.toNat_lt
  have hb := b.toNat_lt
  cases bigEndian with
  | false =>
    simp only [unitBytes, unit16, Bool.false_eq_true, if_false]
    rw [byte_of_toNat (by omega : (b.toNat * 256 + a.toNat) % 256 = a.toNat),
      byte_of_toNat (by omega : (b.toNat * 256 + a.toNat) / 256 = b.toNat)]
  | true =>
    simp only [unitBytes, unit16, if_true]
    rw [byte_of_toNat (by omega : (a.toNat * 256 + b.toNat) % 256 = b.toNat),
      byte_of_toNat (by omega : (a.toNat * 256 + b.toNat) / 256 = a.toNat)]

/-- A unit of two bytes has sixteen bits. -/
theorem unit16_lt (bigEndian : Bool) (a b : UInt8) : unit16 bigEndian a b < 0x10000 := by
  have ha := a.toNat_lt
  have hb := b.toNat_lt
  rw [unit16]
  split <;> omega

/-- Second halves are the units of a range. -/
theorem isLowSurrogate_iff : isLowSurrogate unit = true ↔ 0xDC00 ≤ unit ∧ unit < 0xE000 := by
  simp [isLowSurrogate]

/-- First halves are the units of a range. -/
theorem isHighSurrogate_iff : isHighSurrogate unit = true ↔ 0xD800 ≤ unit ∧ unit < 0xDC00 := by
  simp [isHighSurrogate]

/-- Two halves are the units of the character that they make up. -/
theorem units16_joinSurrogates {high low : Nat} (hhigh : 0xD800 ≤ high ∧ high < 0xDC00)
    (hlow : 0xDC00 ≤ low ∧ low < 0xE000) : units16 (joinSurrogates high low) = [high, low] := by
  have hval : (joinSurrogates high low).toNat =
      0x10000 + (high - 0xD800) * 0x400 + (low - 0xDC00) := toNat_ofNat (by omega)
  have hfirst : 0xD800 + ((joinSurrogates high low).toNat - 0x10000) / 0x400 = high := by omega
  have hsecond : 0xDC00 + ((joinSurrogates high low).toNat - 0x10000) % 0x400 = low := by omega
  rw [units16, if_neg (by omega), hfirst, hsecond]

/-- A character is read in UTF-16 where its bytes stand. -/
theorem reads_utf16 (bigEndian : Bool) :
    Reads (nextUtf16 bigEndian) fun c => (units16 c).flatMap (unitBytes bigEndian) := by
  intro c rest
  have hvalid := toNat_cases c
  by_cases hc : c.toNat < 0x10000
  · obtain ⟨a, b, hbytes, hunit⟩ := exists_unitBytes bigEndian hc
    have hlow : ¬ isLowSurrogate c.toNat = true := by rw [isLowSurrogate_iff]; omega
    have hhigh : ¬ isHighSurrogate c.toNat = true := by rw [isHighSurrogate_iff]; omega
    refine ⟨a, [b], by simp [units16, hc, hbytes], ?_⟩
    simp only [List.singleton_append, nextUtf16, hunit]
    rw [if_neg hlow, if_neg hhigh]
    exact char_congr rfl 1
  · have hfirst : 0xD800 + (c.toNat - 0x10000) / 0x400 < 0x10000 := by omega
    have hsecond : 0xDC00 + (c.toNat - 0x10000) % 0x400 < 0x10000 := by omega
    obtain ⟨a, b, hbytes, hunit⟩ := exists_unitBytes bigEndian hfirst
    obtain ⟨a', b', hbytes', hunit'⟩ := exists_unitBytes bigEndian hsecond
    have hlow : ¬ isLowSurrogate (0xD800 + (c.toNat - 0x10000) / 0x400) = true := by
      rw [isLowSurrogate_iff]
      omega
    have hhigh : isHighSurrogate (0xD800 + (c.toNat - 0x10000) / 0x400) = true := by
      rw [isHighSurrogate_iff]
      omega
    have hlow' : isLowSurrogate (0xDC00 + (c.toNat - 0x10000) % 0x400) = true := by
      rw [isLowSurrogate_iff]
      omega
    refine ⟨a, [b, a', b'], by simp [units16, hc, hbytes, hbytes'], ?_⟩
    simp only [List.cons_append, List.nil_append, nextUtf16, hunit, hunit']
    rw [if_neg hlow, if_pos hhigh, if_pos hlow']
    exact char_congr (by omega) 3

/-- Where a character is read in UTF-16, its bytes stand. -/
theorem encode_of_nextUtf16 (h : nextUtf16 bigEndian first bytes = .char c more) :
    ∃ tail rest, bytes = tail ++ rest ∧ tail.length = more ∧
      (units16 c).flatMap (unitBytes bigEndian) = first :: tail := by
  cases bytes with
  | nil => cases h
  | cons second rest =>
    have hunit := unit16_lt bigEndian first second
    simp only [nextUtf16] at h
    split at h
    · cases h
    rename_i hlow
    rw [isLowSurrogate_iff] at hlow
    split at h
    · rename_i hhigh
      rw [isHighSurrogate_iff] at hhigh
      split at h
      · cases h
      · cases h
      rename_i third fourth rest
      split at h
      · rename_i hlow'
        rw [isLowSurrogate_iff] at hlow'
        obtain ⟨rfl, rfl⟩ := Piece.char.inj h
        refine ⟨[second, third, fourth], rest, rfl, rfl, ?_⟩
        simp [units16_joinSurrogates hhigh hlow', unitBytes_unit16]
      · cases h
    · rename_i hhigh
      rw [isHighSurrogate_iff] at hhigh
      obtain ⟨rfl, rfl⟩ := Piece.char.inj h
      have hval : (Char.ofNat (unit16 bigEndian first second)).toNat =
          unit16 bigEndian first second := toNat_ofNat (by omega)
      refine ⟨[second], rest, rfl, rfl, ?_⟩
      simp [units16, hval, hunit, unitBytes_unit16]

/-- Bytes that mean nothing in UTF-16 are among those that are read. -/
theorem le_of_nextUtf16 (h : nextUtf16 bigEndian first bytes = .malformed more) :
    more ≤ bytes.length := by
  cases bytes with
  | nil =>
    cases h
    exact Nat.le_refl 0
  | cons second rest =>
    simp only [nextUtf16] at h
    split at h
    · cases h
      simp
    split at h
    · split at h
      · cases h
        simp
      · cases h
        simp
      · split at h
        · cases h
        · cases h
          simp
    · cases h

end Utf16

/-- **A character is read where its bytes stand.** -/
theorem Charset.reads (charset : Charset) : Reads charset.next charset.encodeChar := by
  cases charset with
  | utf8 => exact reads_utf8
  | utf16le => exact reads_utf16 false
  | utf16be => exact reads_utf16 true

/-- **Where a character is read, its bytes stand.** -/
theorem Charset.encodeChar_of_next {charset : Charset}
    (h : charset.next first bytes = .char c more) :
    ∃ tail rest, bytes = tail ++ rest ∧ tail.length = more ∧
      charset.encodeChar c = first :: tail := by
  cases charset with
  | utf8 => exact encode_of_nextUtf8 h
  | utf16le => exact encode_of_nextUtf16 h
  | utf16be => exact encode_of_nextUtf16 h

/-- Bytes that mean nothing are among those that are read. -/
theorem Charset.le_of_next {charset : Charset} (h : charset.next first bytes = .malformed more) :
    more ≤ bytes.length := by
  cases charset with
  | utf8 => exact le_of_nextUtf8 h
  | utf16le => exact le_of_nextUtf16 h
  | utf16be => exact le_of_nextUtf16 h

end HtmlToHaml.Encoding
