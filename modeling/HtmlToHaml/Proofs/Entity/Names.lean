import HtmlToHaml.Proofs.Entity.SinglePass
import HtmlToHaml.Proofs.Text.Case

/-!
# What stands in the name of a reference

Names are made of letters and digits, and numbers have a number sign and perhaps a plus sign
besides. No other ASCII character stands in the name of a reference, so no reference reaches over
one, and a text is the same whether its references are replaced at once or in pieces that are cut in
front of such a character.
-/

namespace HtmlToHaml.Entity

open Text

variable {s t name value : List Char} {c : Char} {base n : Nat}

/-- An ASCII character that no name and no number of a reference is written with. -/
def isStray (c : Char) : Bool :=
  c.toNat < 128 && (c.toNat < 48 || 122 < c.toNat) && c != '#' && c != '+'

section Tables

/-- All names have bytes, and these are in the range of the letters and digits. -/
theorem nameTables_bytes : nameTables.all (fun table => table.all fun entry =>
    !entry.1.toByteArray.data.toList.isEmpty &&
      entry.1.toByteArray.data.toList.all fun byte => 48 ≤ byte.toNat && byte.toNat ≤ 122) =
        true := by
  decide +kernel

/-- The bytes of a name that is in a table. -/
theorem bytes_of_named? {value : String} (h : named? (String.ofList name) = some value) :
    name.flatMap String.utf8EncodeChar ≠ [] ∧
      ∀ byte ∈ name.flatMap String.utf8EncodeChar, 48 ≤ byte.toNat ∧ byte.toNat ≤ 122 := by
  obtain ⟨table, ht, hlookup⟩ := List.exists_of_findSome?_eq_some h
  obtain ⟨before, after, rfl, -⟩ := List.lookup_eq_some_iff.1 hlookup
  have hbytes := List.all_eq_true.1 (List.all_eq_true.1 nameTables_bytes _ ht)
    (String.ofList name, value) (by simp)
  rw [String.toByteArray_ofList, List.utf8Encode, List.toList_data_toByteArray] at hbytes
  simp only [Bool.and_eq_true, List.all_eq_true, decide_eq_true_eq] at hbytes
  exact ⟨by simpa using hbytes.1, hbytes.2⟩

/-- A stray character has a byte that no name has. -/
theorem exists_byte_of_isStray (hc : isStray c = true) :
    ∃ byte ∈ String.utf8EncodeChar c, ¬ (48 ≤ byte.toNat ∧ byte.toNat ≤ 122) := by
  have hascii : c.toNat < 128 := by simp_all [isStray]
  revert hc
  exact forall_ascii (P := fun c => isStray c = true →
    ∃ byte ∈ String.utf8EncodeChar c, ¬ (48 ≤ byte.toNat ∧ byte.toNat ≤ 122))
      (by decide +kernel) hascii

/-- A name with a stray character is in no table. -/
theorem named?_of_isStray (hc : isStray c = true) (h : c ∈ name) :
    named? (String.ofList name) = none := by
  rw [Option.eq_none_iff_forall_not_mem]
  intro value hvalue
  obtain ⟨byte, hbyte, hout⟩ := exists_byte_of_isStray hc
  exact hout ((bytes_of_named? hvalue).2 byte (List.mem_flatMap.2 ⟨c, h, hbyte⟩))

end Tables

section Numbers

/-- A stray character is no digit. -/
theorem digit?_of_isStray (hc : isStray c = true) : digit? base c = none := by
  have hrange : ¬ (48 ≤ c.toNat ∧ c.toNat ≤ 57) ∧ ¬ (65 ≤ c.toNat ∧ c.toNat ≤ 70) ∧
      ¬ (97 ≤ c.toNat ∧ c.toNat ≤ 102) := by
    simp only [isStray, Bool.and_eq_true, Bool.or_eq_true, decide_eq_true_eq] at hc
    omega
  simp [digit?, hrange]

/-- A row with a stray character is not read. -/
theorem digits?_of_isStray (hc : isStray c = true) (h : c ∈ s) : digits? base n s = none := by
  induction s generalizing n with
  | nil => cases h
  | cons d s ih =>
    rw [digits?]
    rcases List.mem_cons.1 h with rfl | h
    · rw [digit?_of_isStray hc]
    · split
      · exact ih h
      · rfl

/-- A number with a stray character is not read. -/
theorem number?_of_isStray (hc : isStray c = true) (h : c ∈ s) : number? base s = none := by
  have hdigits : c ∈ (stripPrefix? ['+'] s).getD s := by
    cases hs : stripPrefix? ['+'] s with
    | none => exact h
    | some t =>
      rw [stripPrefix?_eq_some_iff.1 hs, List.singleton_append, List.mem_cons] at h
      refine h.resolve_left ?_
      rintro rfl
      exact absurd hc (by decide)
  rw [number?]
  simp only [digits?_of_isStray hc hdigits, Option.filter_none, ite_self]

/-- A number of either base with a stray character is not read. -/
theorem numbered?_of_isStray (hc : isStray c = true) (h : c ∈ s) : numbered? s = none := by
  have hrest : ∀ {d digits}, c ∈ d :: digits → isStray d = false → c ∈ digits := by
    intro d digits hm hd
    refine (List.mem_cons.1 hm).resolve_left ?_
    rintro rfl
    exact absurd (hc.symm.trans hd) (by decide)
  fun_cases numbered? s with
  | case1 digits => rw [number?_of_isStray hc (hrest h (by decide)), Option.bind_none]
  | case2 digits => rw [number?_of_isStray hc (hrest h (by decide)), Option.bind_none]
  | case3 => rw [number?_of_isStray hc h, Option.bind_none]

end Numbers

section Names

/-- **A reference with a stray character in its name is not known.** -/
theorem resolve?_of_isStray (hc : isStray c = true) (h : c ∈ name) : resolve? name = none := by
  fun_cases resolve? name with
  | case1 number =>
    have hnumber : c ∈ number := by
      refine (List.mem_cons.1 h).resolve_left ?_
      rintro rfl
      exact absurd hc (by decide)
    rw [numbered?_of_isStray hc hnumber]
    rfl
  | case2 =>
    rw [named?_of_isStray hc h]
    rfl

/-- No stray character stands in the name of a reference. -/
theorem Refers.not_mem (h : Refers name value) (hc : isStray c = true) : c ∉ name := by
  intro hm
  cases (resolve?_of_isStray hc hm).symm.trans h.resolve?_eq

/-- A reference stands for one character. -/
theorem length_of_resolve? (h : resolve? name = some value) : value.length = 1 := by
  unfold resolve? at h
  split at h
  · obtain ⟨c, -, rfl⟩ := Option.map_eq_some_iff.1 h
    rfl
  · simpa using (Option.filter_eq_some_iff.1 h).2

/-- A reference stands for a character. -/
theorem Refers.exists_eq (h : Refers name value) : ∃ c, value = [c] :=
  List.length_eq_one_iff.1 (length_of_resolve? h.resolve?_eq)

end Names

section Pieces

/-- A reference that a text begins with is replaced whatever follows the text. -/
theorem unescape_refers (h : Refers name value) (rest : List Char) :
    unescape ('&' :: (name ++ ';' :: rest)) = value ++ unescape rest :=
  unescape_of_reference? (reference?_eq_some_iff.2 ⟨name, rfl, h⟩)

/-- A text that begins with no reference still begins with none if a stray character is
put behind it. -/
theorem reference?_append_cons (hc : isStray c = true) (h : reference? s = none) (t : List Char) :
    reference? (s ++ c :: t) = none := by
  refine reference?_eq_none_iff.2 fun name rest value he hname => ?_
  obtain ⟨more, rfl, hrest⟩ := exists_append_of_not_mem (hname.not_mem hc) he.symm
  -- The semicolon is the stray character, which it cannot be, or it stood in the text before.
  cases more with
  | nil =>
    obtain ⟨rfl, -⟩ := List.cons.inj hrest
    exact absurd hc (by decide)
  | cons d more =>
    obtain ⟨rfl, -⟩ := List.cons.inj hrest
    exact reference?_eq_none_iff.1 h name more value rfl hname

/-- **A text is cut in front of a stray character before its references are replaced or behind
that.** -/
theorem unescape_append_cons (hc : isStray c = true) (s t : List Char) :
    unescape (s ++ c :: t) = unescape s ++ unescape (c :: t) := by
  induction s using unescape.induct with
  | case1 => rw [unescape, List.nil_append, List.nil_append]
  | case2 s value rest h ih =>
    obtain ⟨name, rfl, hname⟩ := reference?_eq_some_iff.1 h
    rw [List.cons_append, List.append_assoc, List.cons_append, unescape_refers hname, ih,
      unescape_refers hname, List.append_assoc]
  | case3 s h ih =>
    rw [List.cons_append, unescape_of_reference?_eq_none (reference?_append_cons hc h t), ih,
      unescape_of_reference?_eq_none h, List.cons_append]
  | case4 d s hd ih =>
    rw [List.cons_append, unescape_cons_of_ne hd, ih, unescape_cons_of_ne hd, List.cons_append]

/-- Some reference in a text stands for a value. -/
def HoldsReference (s value : List Char) : Prop :=
  ∃ front name rest, s = front ++ '&' :: (name ++ ';' :: rest) ∧ Refers name value

/-- The references of a part are references of the whole text. -/
theorem HoldsReference.mono (h : HoldsReference s value) (hs : s <:+: t) :
    HoldsReference t value := by
  obtain ⟨front, name, rest, rfl, hname⟩ := h
  obtain ⟨before, after, rfl⟩ := hs
  exact ⟨before ++ front, name, rest ++ after, by simp, hname⟩

/-- A text without an ampersand holds no reference. -/
theorem not_holdsReference (h : '&' ∉ s) : ¬ HoldsReference s value := by
  rintro ⟨front, name, rest, rfl, -⟩
  exact h (by simp)

/-- A text that shows something when its references are replaced does before. -/
theorem isBlank_of_unescape (h : isBlank (unescape s) = false) : isBlank s = false := by
  refine Bool.eq_false_iff.2 fun hs => ?_
  have hamp : '&' ∉ s := fun hm => absurd (List.all_eq_true.1 hs '&' hm) (by decide)
  rw [unescape_of_not_mem hamp, hs] at h
  cases h

/-- **A text that shows something still does when its references are replaced, unless one of them
stands for white space.** -/
theorem isBlank_unescape (hs : isBlank s = false)
    (hno : ∀ c, isSpace c = true → ¬ HoldsReference s [c]) :
    isBlank (unescape s) = false := by
  have hshows : ∀ {c t}, isSpace c = false → isBlank (c :: t) = false := fun hc => by
    rw [isBlank, List.all_cons, hc, Bool.false_and]
  induction s using unescape.induct with
  | case1 => cases hs
  | case2 s value rest h =>
    obtain ⟨name, rfl, hname⟩ := reference?_eq_some_iff.1 h
    obtain ⟨c, rfl⟩ := hname.exists_eq
    have hc : isSpace c = false := Bool.eq_false_iff.2 fun hc =>
      hno c hc ⟨[], name, rest, rfl, hname⟩
    rw [unescape_refers hname]
    exact hshows hc
  | case3 s h =>
    rw [unescape_of_reference?_eq_none h]
    exact hshows (by decide)
  | case4 d s hd ih =>
    rw [unescape_cons_of_ne hd]
    cases hc : isSpace d with
    | false => exact hshows hc
    | true =>
      rw [isBlank, List.all_cons, hc, Bool.true_and] at hs
      have hrest := ih hs fun c hspace h => hno c hspace (h.mono (List.suffix_cons d s).isInfix)
      rw [isBlank, List.all_cons, hc, Bool.true_and]
      exact hrest

end Pieces

end HtmlToHaml.Entity
