import HtmlToHaml.Proofs.Text.Case
import HtmlToHaml.Proofs.Text.Search
import HtmlToHaml.Text.Slices
import HtmlToHaml.Text.Space

/-!
# Where a text can be cut

A text is cut at a byte exactly if that many bytes are a beginning of it in whole characters. So it
can be cut where something was found in it, and behind that. The bytes of a text do not depend on
the case of its ASCII letters.
-/

namespace HtmlToHaml.Text

variable {s t front rest before after needle : List Char} {c : Char} {n : Nat}

@[simp] theorem byteLength_nil : byteLength [] = 0 :=
  rfl

@[simp] theorem byteLength_cons (c : Char) (s : List Char) :
    byteLength (c :: s) = c.utf8Size + byteLength s := by
  simp [byteLength]

@[simp] theorem byteLength_append (s t : List Char) :
    byteLength (s ++ t) = byteLength s + byteLength t := by
  simp [byteLength]

/-- A text can be cut behind the bytes of a beginning. -/
theorem cutAt?_append (front rest : List Char) :
    cutAt? (byteLength front) (front ++ rest) = some (front, rest) := by
  induction front with
  | nil => rw [byteLength_nil, List.nil_append, cutAt?]
  | cons c front ih =>
    have hsize := c.utf8Size_pos
    obtain ⟨n, hn⟩ : ∃ n, c.utf8Size + byteLength front = n + 1 :=
      Nat.exists_eq_add_one.2 (by omega)
    have hrest : n + 1 - c.utf8Size = byteLength front := by omega
    rw [byteLength_cons, hn, List.cons_append, cutAt?, if_pos (by omega), hrest, ih]
    rfl

/-- What a text is cut into is the text, and its first part has as many bytes as were asked for. -/
theorem of_cutAt?_eq_some (h : cutAt? n s = some (front, rest)) :
    s = front ++ rest ∧ byteLength front = n := by
  fun_induction cutAt? n s generalizing front with
  | case1 s =>
    cases h
    exact ⟨rfl, rfl⟩
  | case2 n => cases h
  | case3 n c s hfits ih =>
    obtain ⟨⟨found, behind⟩, hfound, he⟩ := Option.map_eq_some_iff.1 h
    cases he
    obtain ⟨rfl, hlength⟩ := ih hfound
    exact ⟨rfl, by rw [byteLength_cons, hlength]; omega⟩
  | case4 n c s hfits => cases h

/-- **A text is cut at a byte exactly if that many bytes are characters in front of the cut.** -/
theorem cutAt?_eq_some_iff :
    cutAt? n s = some (front, rest) ↔ s = front ++ rest ∧ byteLength front = n := by
  refine ⟨of_cutAt?_eq_some, ?_⟩
  rintro ⟨rfl, rfl⟩
  exact cutAt?_append front rest

/-- A needle begins where it is found, and a text can be cut behind it. -/
theorem cutAt?_of_breakOn (h : breakOn needle s = some (before, after)) :
    positionOf? needle s = some (byteLength before) ∧
      cutAt? (byteLength before + byteLength needle) s = some (before ++ needle, after) := by
  refine ⟨by rw [positionOf?, h]; rfl, ?_⟩
  rw [cutAt?_eq_some_iff, byteLength_append]
  exact ⟨eq_append_of_breakOn h, rfl⟩

/-- Only ASCII letters are put into lower case. -/
theorem toLower_of_not_ascii (hc : ¬ c.toNat < 128) : c.toLower = c := by
  have hupper : ¬(c.val ≥ 'A'.val ∧ c.val ≤ 'Z'.val) := by
    rintro ⟨-, hz⟩
    exact hc (Nat.lt_of_le_of_lt (UInt32.le_iff_toNat_le.1 hz) (by decide))
  exact dif_neg hupper

/-- The case of an ASCII letter does not change its bytes. -/
theorem utf8Size_toLower (c : Char) : c.toLower.utf8Size = c.utf8Size := by
  by_cases hc : c.toNat < 128
  · exact forall_ascii (P := fun c => c.toLower.utf8Size = c.utf8Size) (by decide +kernel) hc
  · rw [toLower_of_not_ascii hc]

/-- The case of a letter does not make it white space. -/
theorem isSpace_toLower (c : Char) : isSpace c.toLower = isSpace c := by
  by_cases hc : c.toNat < 128
  · exact forall_ascii (P := fun c => isSpace c.toLower = isSpace c) (by decide +kernel) hc
  · rw [toLower_of_not_ascii hc]

/-- Letters of either case take as many bytes. -/
theorem byteLength_map_toLower (s : List Char) :
    byteLength (s.map Char.toLower) = byteLength s := by
  induction s with
  | nil => rfl
  | cons c s ih => rw [List.map_cons, byteLength_cons, byteLength_cons, utf8Size_toLower, ih]

/-- A beginning in either case is one that becomes the given one in lower case. -/
theorem stripPrefixIgnoreCase?_eq_some_iff :
    stripPrefixIgnoreCase? needle s = some rest ↔
      ∃ front, s = front ++ rest ∧ front.map Char.toLower = needle := by
  induction needle generalizing s with
  | nil => simp [stripPrefixIgnoreCase?, eq_comm]
  | cons a needle ih =>
    cases s with
    | nil => simp [stripPrefixIgnoreCase?]
    | cons c s =>
      rw [stripPrefixIgnoreCase?]
      constructor
      · intro h
        split at h
        · rename_i ha
          obtain ⟨front, rfl, rfl⟩ := ih.1 h
          exact ⟨c :: front, rfl, by rw [ha]; rfl⟩
        · cases h
      · rintro ⟨_ | ⟨d, front⟩, hs, hfront⟩
        · cases hfront
        · obtain ⟨rfl, rfl⟩ := List.cons.inj hs
          obtain ⟨rfl, rfl⟩ := List.cons.inj hfront
          rw [if_pos rfl]
          exact ih.2 ⟨front, rfl, rfl⟩

/-- A text is cut behind a beginning in either case as it is cut behind as many bytes. -/
theorem cutAt?_iff_stripPrefixIgnoreCase? (hneedle : needle.map Char.toLower = needle) :
    stripPrefixIgnoreCase? needle s = some rest ↔
      ∃ front, cutAt? (byteLength needle) s = some (front, rest) ∧
        front.map Char.toLower = needle.map Char.toLower := by
  rw [stripPrefixIgnoreCase?_eq_some_iff, hneedle]
  refine exists_congr fun front => ?_
  rw [cutAt?_eq_some_iff]
  constructor
  · rintro ⟨hs, rfl⟩
    exact ⟨⟨hs, (byteLength_map_toLower front).symm⟩, rfl⟩
  · rintro ⟨⟨hs, -⟩, hfront⟩
    exact ⟨hs, hfront⟩

end HtmlToHaml.Text
