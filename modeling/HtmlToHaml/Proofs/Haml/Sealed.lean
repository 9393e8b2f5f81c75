import HtmlToHaml.Proofs.Haml.Escape
import HtmlToHaml.Proofs.Haml.OneLine

/-!
# Sealed text

Text is sealed if every interpolation in it is taken back by a backslash. Escaped text is sealed,
and so are literals, headers and lines that are made of sealed text. Putting sealed texts together
is safe as long as no `#` of one meets a brace of the other.
-/

namespace HtmlToHaml.Haml

open Text

variable {s t line : List Char} {c : Char} {level : Nat} {style : AttributeStyle}

/-- Every interpolation is taken back. -/
def Sealed (s : List Char) : Prop :=
  ∀ before after, s = before ++ '#' :: '{' :: after → before.getLast? = some '\\'

namespace Sealed

/-- Text without a `#` is sealed. -/
theorem of_hash_not_mem (h : '#' ∉ s) : Sealed s := by
  rintro before after rfl
  exact absurd (by simp) h

/-- Text without an opening brace is sealed. -/
theorem of_brace_not_mem (h : '{' ∉ s) : Sealed s := by
  rintro before after rfl
  exact absurd (by simp) h

/-- A front part of sealed text is sealed. -/
theorem left (h : Sealed (s ++ t)) : Sealed s := by
  rintro before after rfl
  exact h before (after ++ t) (by simp)

/-- The rest of sealed text is sealed, unless the backslash that takes it back is missing. -/
theorem right (h : Sealed (s ++ t)) (hs : s.getLast? ≠ some '\\') : Sealed t := by
  rintro before after rfl
  have hlast := h (s ++ before) after (by simp)
  rw [List.getLast?_append] at hlast
  cases hb : before.getLast? with
  | none =>
    rw [hb, Option.none_or] at hlast
    exact absurd hlast hs
  | some d =>
    rw [hb, Option.some_or] at hlast
    exact hlast

/-- Sealed texts are sealed together if a `#` that meets a brace is taken back. -/
theorem append (hs : Sealed s) (ht : Sealed t)
    (hseam : s.getLast? = some '#' → t.head? = some '{' → s.dropLast.getLast? = some '\\') :
    Sealed (s ++ t) := by
  intro before after he
  rcases List.append_eq_append_iff.1 he with ⟨mid, rfl, hm⟩ | ⟨mid, rfl, hm⟩
  · have hlast := ht mid after hm
    rw [List.getLast?_append, hlast, Option.some_or]
  · rcases mid with _ | ⟨c, _ | ⟨d, mid⟩⟩
    · exact absurd (ht [] after hm.symm) (by simp)
    · rw [List.singleton_append, List.cons.injEq] at hm
      obtain ⟨rfl, hm⟩ := hm
      have hlast := hseam List.getLast?_concat (by rw [← hm]; rfl)
      rwa [List.dropLast_concat] at hlast
    · rw [List.cons_append, List.cons_append, List.cons.injEq, List.cons.injEq] at hm
      obtain ⟨rfl, rfl, -⟩ := hm
      exact hs before mid rfl

/-- Sealed texts are sealed together if the first one does not end in a `#`. -/
theorem append_of_getLast? (hs : Sealed s) (ht : Sealed t) (hl : s.getLast? ≠ some '#') :
    Sealed (s ++ t) :=
  hs.append ht fun h => absurd h hl

/-- Sealed texts are sealed together if the second one does not begin with a brace. -/
theorem append_of_head? (hs : Sealed s) (ht : Sealed t) (hh : t.head? ≠ some '{') :
    Sealed (s ++ t) :=
  hs.append ht fun _ h => absurd h hh

/-- Sealed text stays sealed behind text without a `#`. -/
theorem append_of_hash_not_mem (hs : '#' ∉ s) (ht : Sealed t) : Sealed (s ++ t) :=
  (of_hash_not_mem hs).append_of_getLast? ht fun h => hs (List.mem_of_getLast? h)

/-- A character alone is sealed. -/
theorem singleton (c : Char) : Sealed [c] := by
  intro before after he
  have hlen := congrArg List.length he
  simp only [List.length_append, List.length_cons, List.length_nil] at hlen
  omega

/-- Sealed text stays sealed behind a character that does not make up an interpolation with it. -/
theorem cons (hc : c = '#' → s.head? ≠ some '{') (hs : Sealed s) : Sealed (c :: s) := by
  refine (singleton c).append hs fun hl hh => ?_
  exact absurd hh (hc (by simpa using hl))

/-- Lines of sealed text are sealed. -/
theorem of_mem_splitLines (h : Sealed s) (hl : line ∈ splitLines s) : Sealed line := by
  obtain ⟨front, back, rfl, hfront⟩ := exists_of_mem_splitLines hl
  refine h.left.right fun he => ?_
  rcases hfront with rfl | hfront
  · cases he
  · cases he.symm.trans hfront

/-- Sealed text is sealed when it is trimmed. -/
theorem trim (h : Sealed s) : Sealed (trim s) := by
  obtain ⟨space, hspace, he⟩ := exists_isBlank_append_trimStart s
  have hstart : Sealed (trimStart s) := by
    refine (he ▸ h : Sealed (space ++ trimStart s)).right fun hl => ?_
    exact absurd (List.all_eq_true.1 hspace _ (List.mem_of_getLast? hl)) (by decide)
  obtain ⟨tail, htail⟩ := trimEndBy_isPrefix isSpace (trimStart s)
  have hall : Sealed (trimEndBy isSpace (trimStart s) ++ tail) := by rwa [htail]
  exact hall.left

/-- Pieces that end in a line feed are sealed together. -/
theorem flatMap {α : Type} {f : α → List Char} {parts : List α}
    (h : ∀ part ∈ parts, Sealed (f part ++ ['\n'])) :
    Sealed (parts.flatMap fun part => f part ++ ['\n']) := by
  induction parts with
  | nil => exact of_hash_not_mem List.not_mem_nil
  | cons part rest ih =>
    rw [List.flatMap_cons]
    refine (h part (by simp)).append_of_getLast?
      (ih fun part hm => h part (List.mem_cons_of_mem _ hm)) ?_
    rw [List.getLast?_concat]
    decide

end Sealed

section Texts

/-- Escaped text is sealed. -/
theorem sealed_escapeInterpolation (s : List Char) : Sealed (escapeInterpolation s) := by
  fun_induction escapeInterpolation s with
  | case1 s ih =>
    have hmark : Sealed ['\\', '#'] := .of_brace_not_mem (by decide)
    exact hmark.append (ih.cons (by simp)) fun _ _ => rfl
  | case2 c s hopen ih =>
    refine ih.cons fun hc hh => ?_
    obtain ⟨more, he⟩ := List.head?_eq_some_iff.1 (head?_escapeInterpolation hh)
    exact hopen more hc he
  | case3 => exact .of_hash_not_mem List.not_mem_nil

/-- Lines of sealed text are sealed together. -/
theorem Sealed.textLines (h : Sealed s) (level : Nat) (escapeSpecial : Bool) :
    Sealed (textLines s level escapeSpecial) := by
  rw [Haml.textLines]
  split
  · exact .of_hash_not_mem List.not_mem_nil
  · refine .flatMap (f := fun line => indentation level ++
      (if escapeSpecial && needsEscape (Text.trim line) then ['\\'] else []) ++ Text.trim line)
      fun line hl => ?_
    have hfront : '#' ∉ indentation level ++
        (if escapeSpecial && needsEscape (Text.trim line) then ['\\'] else []) := by
      split <;> simp [indentation]
    exact (Sealed.append_of_hash_not_mem hfront (h.trim.of_mem_splitLines hl).trim).append_of_head?
      (.singleton _) (by simp)

end Texts

section Literals

/-- Text that can stand between other sealed texts: it neither ends in a `#` nor begins with a
brace. -/
structure Shut (s : List Char) : Prop where
  /-- Every interpolation is taken back. -/
  isSealed : Sealed s
  /-- No `#` stands at the end. -/
  last : s.getLast? ≠ some '#'
  /-- No brace stands at the start. -/
  first : s.head? ≠ some '{'

/-- Texts of this kind may stand one after the other. -/
theorem Shut.append (hs : Shut s) (ht : Shut t) : Shut (s ++ t) := by
  refine ⟨hs.isSealed.append_of_getLast? ht.isSealed hs.last, ?_, ?_⟩
  · rw [List.getLast?_append]
    intro h
    rcases Option.or_eq_some_iff.1 h with h | ⟨-, h⟩
    · exact ht.last h
    · exact hs.last h
  · rw [List.head?_append]
    intro h
    rcases Option.or_eq_some_iff.1 h with h | ⟨-, h⟩
    · exact hs.first h
    · exact ht.first h

/-- Text without a `#` and without an opening brace. -/
theorem Shut.of_not_mem (hs : '#' ∉ s ∧ '{' ∉ s) : Shut s :=
  ⟨.of_hash_not_mem hs.1, fun h => hs.1 (List.mem_of_getLast? h),
    fun h => hs.2 (List.mem_of_mem_head? h)⟩

/-- A `#` is only left alone where no brace follows, and no other character becomes one. -/
theorem rubyEscapeChar_cases (c : Char) (rest : List Char) :
    '#' ∉ rubyEscapeChar c rest ∨ rubyEscapeChar c rest = ['\\', '#'] ∨
      (rubyEscapeChar c rest = ['#'] ∧ rest.head? ≠ some '{') := by
  rw [rubyEscapeChar]
  split
  · exact Or.inl (by decide)
  split
  · exact Or.inl (by decide)
  split
  · exact Or.inl (by decide)
  split
  · exact Or.inl (by decide)
  split
  · exact Or.inl (by decide)
  split
  · exact Or.inr (Or.inl rfl)
  split
  · refine Or.inl ?_
    simp only [List.mem_cons, not_or]
    exact ⟨by decide, by decide, fun hn => absurd (hexPair_range hn).1 (by decide)⟩
  · rename_i hopen _
    by_cases hc : c = '#'
    · subst hc
      refine Or.inr (Or.inr ⟨rfl, fun hh => hopen ⟨rfl, ?_⟩⟩)
      obtain ⟨more, rfl⟩ := List.head?_eq_some_iff.1 hh
      rfl
    · exact Or.inl (by simpa using Ne.symm hc)

/-- A character is left alone or escaped by a backslash. -/
theorem head?_rubyEscapeChar (c : Char) (rest : List Char) :
    (rubyEscapeChar c rest).head? = some c ∨ (rubyEscapeChar c rest).head? = some '\\' := by
  rw [rubyEscapeChar]
  split_ifs <;> simp

/-- An escape takes no brace to the front of a literal. -/
theorem head?_rubyEscape (h : (rubyEscape s).head? = some '{') : s.head? = some '{' := by
  cases s with
  | nil => exact h
  | cons c rest =>
    rw [rubyEscape, List.head?_append] at h
    rcases head?_rubyEscapeChar c rest with hc | hc
    · rw [hc, Option.some_or] at h
      exact h
    · rw [hc, Option.some_or] at h
      exact absurd h (by decide)

/-- An escaped literal is sealed. -/
theorem sealed_rubyEscape (s : List Char) : Sealed (rubyEscape s) := by
  induction s with
  | nil => exact .of_hash_not_mem List.not_mem_nil
  | cons c rest ih =>
    rw [rubyEscape]
    rcases rubyEscapeChar_cases c rest with hn | he | ⟨he, hrest⟩
    · exact .append_of_hash_not_mem hn ih
    · rw [he]
      have hmark : Sealed ['\\', '#'] := .of_brace_not_mem (by decide)
      exact hmark.append ih fun _ _ => rfl
    · rw [he]
      exact ih.cons fun _ hh => hrest (head?_rubyEscape hh)

/-- A literal may stand between other texts. -/
theorem shut_rubyString (s : List Char) : Shut (rubyString s) := by
  refine ⟨?_, ?_, ?_⟩
  · exact .cons (by simp) ((sealed_rubyEscape s).append_of_head? (.singleton _) (by simp))
  · rw [rubyString, List.getLast?_concat]
    decide
  · simp [rubyString]

end Literals

section Headers

variable {name value : List Char}

/-- No text may stand between others as well. -/
theorem shut_nil : Shut [] :=
  .of_not_mem ⟨List.not_mem_nil, List.not_mem_nil⟩

/-- An identifier may stand between other texts. -/
theorem shut_of_isCssIdentifier (h : isCssIdentifier name = true) : Shut name := by
  rw [isCssIdentifier, Bool.and_eq_true, List.all_eq_true] at h
  exact .of_not_mem ⟨fun hn => absurd (h.2 _ hn) (by decide),
    fun hn => absurd (h.2 _ hn) (by decide)⟩

/-- A word may stand between other texts. -/
theorem shut_of_isWord (h : isWord name = true) : Shut name := by
  rw [isWord, Bool.and_eq_true, List.all_eq_true] at h
  exact .of_not_mem ⟨fun hn => absurd (h.2 _ hn) (by decide),
    fun hn => absurd (h.2 _ hn) (by decide)⟩

/-- A pair may stand between other texts if its value may. -/
theorem shut_formatPair (hv : Shut value) : Shut (formatPair style name value) := by
  have hliteral := shut_rubyString name
  have hsign : Shut ['='] := .of_not_mem (by decide)
  have hcolon : Shut [':'] := .of_not_mem (by decide)
  have harrow : Shut [' ', '=', '>', ' '] := .of_not_mem (by decide)
  have hspace : Shut [':', ' '] := .of_not_mem (by decide)
  cases style with
  | html =>
    rw [formatPair]
    split
    · rename_i hn
      exact (shut_of_isCssIdentifier hn).append (hsign.append hv)
    · exact hliteral.append (hsign.append hv)
  | symbol =>
    rw [formatPair]
    split
    · rename_i hn
      exact ((hcolon.append (shut_of_isWord hn)).append harrow).append hv
    · exact (hliteral.append harrow).append hv
  | ruby19 =>
    rw [formatPair]
    split
    · rename_i hn
      exact ((shut_of_isWord hn).append hspace).append hv
    · exact (hliteral.append harrow).append hv

/-- Joined texts may stand between others if the texts and the separator may. -/
theorem shut_joinWith {separator : List Char} {parts : List (List Char)} (hs : Shut separator)
    (hp : ∀ part ∈ parts, Shut part) : Shut (joinWith separator parts) := by
  rw [joinWith]
  induction parts with
  | nil => exact shut_nil
  | cons part rest ih =>
    cases rest with
    | nil => simpa using hp part (by simp)
    | cons next rest =>
      rw [List.intercalate_cons_cons]
      exact ((hp part (by simp)).append hs).append
        (ih fun part hm => hp part (List.mem_cons_of_mem _ hm))

/-- A block of attributes is sealed if its values are. -/
theorem sealed_formatAttributes {entries : List Entry}
    (h : ∀ entry ∈ entries, Shut entry.value.toRuby) : Sealed (formatAttributes style entries) := by
  have hpairs : ∀ pair ∈ (entries.mergeSort fun a b => textLe a.name b.name).map
      fun entry => formatPair style entry.name entry.value.toRuby, Shut pair := by
    intro pair hp
    obtain ⟨entry, he, rfl⟩ := List.mem_map.1 hp
    exact shut_formatPair (h entry (List.mem_mergeSort.1 he))
  have hspace : Shut [' '] := .of_not_mem (by decide)
  have hcomma : Shut [',', ' '] := .of_not_mem (by decide)
  cases style with
  | html =>
    exact .cons (by simp) ((shut_joinWith hspace hpairs).isSealed.append_of_head? (.singleton _)
      (by simp))
  | symbol =>
    exact .cons (by simp) ((shut_joinWith hcomma hpairs).isSealed.append_of_head? (.singleton _)
      (by simp))
  | ruby19 =>
    exact .cons (by simp) ((shut_joinWith hcomma hpairs).isSealed.append_of_head? (.singleton _)
      (by simp))

/-- A short `id` may stand between other texts, for it does not end with its sign. -/
theorem shut_hash_cons (h : isCssIdentifier name = true) : Shut ('#' :: name) := by
  have hname := shut_of_isCssIdentifier h
  refine ⟨hname.isSealed.cons fun _ => hname.first, ?_, by simp⟩
  rw [isCssIdentifier, Bool.and_eq_true] at h
  cases name with
  | nil => exact absurd h.1 (by decide)
  | cons c rest => exact hname.last

/-- Pieces that may stand between others make up such a text. -/
theorem shut_flatMap {α : Type} {f : α → List Char} {parts : List α}
    (h : ∀ part ∈ parts, Shut (f part)) : Shut (parts.flatMap f) :=
  flatMap_of_append shut_nil Shut.append h

/-- A header without scripts is sealed. -/
theorem sealed_header {attributes : List DocTree.Attribute} {nuked selfClosing : Bool}
    (hn : Shut name) :
    Sealed (header style name (Shorthand.of (entries attributes false)) nuked selfClosing) := by
  obtain ⟨hid, hclasses⟩ := @isCssIdentifier_shorthand (entries attributes false)
  have hblock : ∀ entry ∈ (Shorthand.of (entries attributes false)).block,
      Shut entry.value.toRuby := by
    intro entry he
    obtain ⟨text, ht⟩ := exists_static_of_mem_block he
    rw [ht]
    exact shut_rubyString text
  have hmark : ∀ (mark : Bool) (c : Char), c ≠ '#' ∧ c ≠ '{' → Shut (if mark then [c] else []) := by
    intro mark c hc
    split
    · exact .of_not_mem ⟨by simpa using hc.1.symm, by simpa using hc.2.symm⟩
    · exact shut_nil
  have hname : Shut (if elidesName name (Shorthand.of (entries attributes false)) then []
      else '%' :: name) := by
    split
    · exact shut_nil
    · exact (Shut.of_not_mem (by decide) : Shut ['%']).append hn
  have hshort :
      Shut (((Shorthand.of (entries attributes false)).id.map fun id => '#' :: id).getD []) := by
    cases hs : (Shorthand.of (entries attributes false)).id with
    | none => exact shut_nil
    | some id => exact shut_hash_cons (hid id hs)
  have hclass : Shut ((Shorthand.of (entries attributes false)).classes.flatMap fun token =>
      '.' :: token) := by
    refine shut_flatMap fun token ht => ?_
    exact (Shut.of_not_mem (by decide) : Shut ['.']).append
      (shut_of_isCssIdentifier (hclasses token ht))
  have hattributes : Sealed (if (Shorthand.of (entries attributes false)).block.isEmpty then []
      else formatAttributes style (Shorthand.of (entries attributes false)).block) := by
    split
    · exact shut_nil.isSealed
    · exact sealed_formatAttributes hblock
  have hfront := (hname.append hshort).append hclass
  have hmarks := (hmark nuked '>' (by decide)).append (hmark selfClosing '/' (by decide))
  have hall := (hfront.isSealed.append_of_getLast? hattributes hfront.last).append_of_head?
    hmarks.isSealed hmarks.first
  rw [header]
  simpa only [List.append_assoc] using hall

end Headers

end HtmlToHaml.Haml
