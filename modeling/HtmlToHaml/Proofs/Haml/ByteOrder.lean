import HtmlToHaml.Haml.AttributeBlock
import HtmlToHaml.Proofs.Encoding.Characters
import Mathlib.Algebra.GroupWithZero.Nat
import Mathlib.Tactic.SplitIfs

/-!
# The order of bytes

In UTF-8 the bytes of texts are ordered as their characters are. A character is written as a first
byte, which grows with the number of bytes behind it, and as digits of six bits; so of two different
characters the smaller one has the smaller byte in the first place where their bytes differ.
Attributes that are sorted by the characters of their names are sorted by the bytes of their names.
-/

namespace HtmlToHaml.Haml

open Encoding

variable {c d : Char} {s t : List UInt8} {k m n : Nat}

/-- The order of texts by their bytes in UTF-8. -/
def byteLe (a b : List Char) : Bool :=
  decide (Charset.utf8.encode a ≤ Charset.utf8.encode b)

/-- The last bytes of a character, which hold six bits each. -/
def continuation : Nat → Nat → List UInt8
  | 0, _ => []
  | k + 1, n => UInt8.ofNat (n / 64 ^ k % 64 + 0x80) :: continuation k n

/-- The number of bytes behind the first one. -/
def continuationLength (n : Nat) : Nat :=
  if n ≤ 0x7f then 0 else if n ≤ 0x7ff then 1 else if n ≤ 0xffff then 2 else 3

/-- What the first byte says about the number of bytes behind it. -/
def leadMark : Nat → Nat
  | 0 => 0
  | 1 => 0xc0
  | 2 => 0xe0
  | _ => 0xf0

/-- A character is its first byte and the bytes behind it. -/
theorem utf8EncodeChar_eq (c : Char) :
    String.utf8EncodeChar c =
      UInt8.ofNat (c.toNat / 64 ^ continuationLength c.toNat +
          leadMark (continuationLength c.toNat)) ::
        continuation (continuationLength c.toNat) c.toNat := by
  have hvalid := toNat_cases c
  have hval : c.val.toNat = c.toNat := rfl
  rw [String.utf8EncodeChar, continuationLength]
  simp only [hval]
  split_ifs
  · simp [leadMark, continuation]
  · rw [Nat.mod_eq_of_lt (by omega)]
    simp [leadMark, continuation]
  · rw [Nat.mod_eq_of_lt (show c.toNat / 4096 < 16 by omega)]
    simp [leadMark, continuation]
  · rw [Nat.mod_eq_of_lt (show c.toNat / 262144 < 8 by omega)]
    simp [leadMark, continuation]

/-- Bytes are compared by their numbers, one after the other. -/
theorem byte_cons_lt_iff (hm : m < 256) (hn : n < 256) :
    UInt8.ofNat m :: s < UInt8.ofNat n :: t ↔ m < n ∨ m = n ∧ s < t := by
  rw [List.cons_lt_cons_iff, UInt8.lt_iff_toNat_lt, ← UInt8.toNat_inj, toNat_byte hm, toNat_byte hn]

/-- A smaller number has smaller digits. -/
theorem continuation_append_lt (h : m % 64 ^ k < n % 64 ^ k) (s t : List UInt8) :
    continuation k m ++ s < continuation k n ++ t := by
  induction k with
  | zero => simp [Nat.mod_one] at h
  | succ k ih =>
    rw [Nat.mod_pow_succ, Nat.mod_pow_succ] at h
    rw [continuation, continuation, List.cons_append, List.cons_append,
      byte_cons_lt_iff (by omega) (by omega)]
    have hm := Nat.mod_lt m (Nat.pow_pos (n := k) (show 0 < 64 by decide))
    rcases Nat.lt_trichotomy (m / 64 ^ k % 64) (n / 64 ^ k % 64) with hlt | heq | hgt
    · exact Or.inl (by omega)
    · rw [heq] at h ⊢
      exact Or.inr ⟨rfl, ih (by omega)⟩
    · have hstep := Nat.mul_le_mul_left (64 ^ k) hgt
      rw [Nat.succ_eq_add_one, Nat.mul_add, Nat.mul_one] at hstep
      have hn := Nat.mod_lt n (Nat.pow_pos (n := k) (show 0 < 64 by decide))
      omega

/-- A smaller character has no more bytes. -/
theorem continuationLength_mono (h : m ≤ n) : continuationLength m ≤ continuationLength n := by
  rw [continuationLength, continuationLength]
  split_ifs <;> omega

/-- The first byte of a longer character is greater. -/
theorem lead_lt (hm : m < 0x110000) (h : continuationLength m < continuationLength n) :
    m / 64 ^ continuationLength m + leadMark (continuationLength m) <
      n / 64 ^ continuationLength n + leadMark (continuationLength n) := by
  revert h
  rw [continuationLength, continuationLength]
  split_ifs <;> simp only [leadMark] <;> omega

/-- The first byte of a character is a byte. -/
theorem lead_lt_256 (hn : n < 0x110000) :
    n / 64 ^ continuationLength n + leadMark (continuationLength n) < 256 := by
  rw [continuationLength]
  split_ifs <;> simp only [leadMark] <;> omega

/-- A smaller character has smaller bytes, whatever follows. -/
theorem utf8EncodeChar_append_lt (h : c.toNat < d.toNat) (s t : List UInt8) :
    String.utf8EncodeChar c ++ s < String.utf8EncodeChar d ++ t := by
  have hc : c.toNat < 0x110000 := by have := toNat_cases c; omega
  have hd : d.toNat < 0x110000 := by have := toNat_cases d; omega
  rw [utf8EncodeChar_eq, utf8EncodeChar_eq, List.cons_append, List.cons_append,
    byte_cons_lt_iff (lead_lt_256 hc) (lead_lt_256 hd)]
  rcases Nat.lt_or_eq_of_le (continuationLength_mono (Nat.le_of_lt h)) with hlt | heq
  · exact Or.inl (lead_lt hc hlt)
  · rw [heq]
    generalize continuationLength d.toNat = k
    rcases Nat.lt_or_eq_of_le (Nat.div_le_div_right (c := 64 ^ k) (Nat.le_of_lt h)) with hlt | hdiv
    · exact Or.inl (Nat.add_lt_add_right hlt _)
    · refine Or.inr ⟨by rw [hdiv], continuation_append_lt ?_ s t⟩
      have hm := Nat.div_add_mod c.toNat (64 ^ k)
      have hn := Nat.div_add_mod d.toNat (64 ^ k)
      rw [hdiv] at hm
      omega

/-- What follows the same bytes decides. -/
theorem append_le_append_iff (u s t : List UInt8) : u ++ s ≤ u ++ t ↔ s ≤ t := by
  induction u with
  | nil => rfl
  | cons byte u ih => simp [List.cons_le_cons_iff, ih]

/-- **A text comes before another one by its characters exactly if it does by its bytes.** -/
theorem textLe_eq_byteLe (a b : List Char) : textLe a b = byteLe a b := by
  have hcons : ∀ (c : Char) s, Charset.utf8.encode (c :: s) =
      String.utf8EncodeChar c ++ Charset.utf8.encode s := fun _ _ => rfl
  rw [byteLe, Bool.eq_iff_iff, decide_eq_true_iff]
  induction a generalizing b with
  | nil => exact iff_of_true rfl (List.nil_le _)
  | cons c a ih =>
    cases b with
    | nil =>
      refine iff_of_false (by simp [textLe]) ?_
      rw [hcons, utf8EncodeChar_eq, List.cons_append]
      exact List.not_le.2 (List.nil_lt_cons _ _)
    | cons d b =>
      rw [textLe, hcons, hcons]
      rcases Nat.lt_trichotomy c.toNat d.toNat with hlt | heq | hgt
      · exact iff_of_true (by simp [hlt]) (List.le_of_lt (utf8EncodeChar_append_lt hlt _ _))
      · obtain rfl := Char.toNat_inj.1 heq
        rw [append_le_append_iff, ← ih]
        simp
      · refine iff_of_false ?_ (List.not_le.2 (utf8EncodeChar_append_lt hgt _ _))
        have hne : c ≠ d := by
          rintro rfl
          exact Nat.lt_irrefl _ hgt
        simp [hne, Nat.not_lt_of_gt hgt]

end HtmlToHaml.Haml
