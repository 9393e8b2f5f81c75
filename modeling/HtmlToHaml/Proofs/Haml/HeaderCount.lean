import HtmlToHaml.Haml.Header
import HtmlToHaml.Proofs.Haml.Count
import Mathlib.Algebra.GroupWithZero.Nat

/-!
# What a header says

The header of an element says its name and its attributes. Short forms are ASCII, so it does not
matter that an `id` that has one is left out of the block; of the classes only those without a short
form stay there, and they are the others that hold characters outside ASCII. The block is sorted,
which changes no count.
-/

namespace HtmlToHaml.Haml

open Text

variable {c : Char} {s name value : List Char} {style : AttributeStyle} {entries : List Entry}
  {entry : Entry}

section Blocks

/-- Letters and digits are ASCII. -/
theorem toNat_lt_of_isAlphanum (h : c.isAlphanum = true) : c.toNat < 128 := by
  have hbound : ∀ last : Char, c.val ≤ last.val → last.toNat < 128 → c.toNat < 128 :=
    fun _ hle hlast => Nat.lt_of_le_of_lt (UInt32.le_iff_toNat_le.1 hle) hlast
  obtain hletter | hdigit := (Bool.or_eq_true ..).mp h
  · obtain hupper | hlower := (Bool.or_eq_true ..).mp hletter
    · exact hbound 'Z' (of_decide_eq_true hupper).2 (by decide)
    · exact hbound 'z' (of_decide_eq_true ((Bool.and_eq_true ..).mp hlower).2) (by decide)
  · exact hbound '9' (of_decide_eq_true ((Bool.and_eq_true ..).mp hdigit).2) (by decide)

/-- An identifier is ASCII. -/
theorem count_of_isCssIdentifier (h : Inert c) (hs : isCssIdentifier s = true) :
    s.count c = 0 := by
  rw [List.count_eq_zero]
  intro hm
  rw [isCssIdentifier, Bool.and_eq_true, List.all_eq_true] at hs
  have hc := hs.2 c hm
  simp only [Bool.or_eq_true, beq_iff_eq] at hc
  rcases hc with ((hc | rfl) | rfl) | rfl
  · exact absurd (toNat_lt_of_isAlphanum hc) (Nat.not_lt.2 h.high)
  · exact absurd h.high (by decide)
  · exact absurd h.high (by decide)
  · exact absurd h.high (by decide)

/-- A pair says its name and its value. -/
theorem count_formatPair (h : Inert c) :
    (formatPair style name value).count c = name.count c + value.count c := by
  have harrow : [' ', '=', '>', ' '].count c = 0 := h.count_eq_zero rfl
  have hcolon : [':', ' '].count c = 0 := h.count_eq_zero rfl
  cases style with
  | html =>
    rw [formatPair, List.count_append, h.count_cons (by decide)]
    split
    · rfl
    · rw [count_rubyString h]
  | symbol =>
    rw [formatPair]
    split
    · rw [List.count_append, List.count_append, h.count_cons (by decide), harrow, Nat.add_zero]
    · rw [List.count_append, List.count_append, count_rubyString h, harrow, Nat.add_zero]
  | ruby19 =>
    rw [formatPair]
    split
    · rw [List.count_append, List.count_append, hcolon, Nat.add_zero]
    · rw [List.count_append, List.count_append, count_rubyString h, harrow, Nat.add_zero]

/-- Joined texts say what the texts say. -/
theorem count_joinWith {separator : List Char} {parts : List (List Char)} (hc : c ∉ separator) :
    (joinWith separator parts).count c = parts.flatten.count c := by
  rw [joinWith]
  induction parts with
  | nil => rfl
  | cons part rest ih =>
    cases rest with
    | nil => simp
    | cons next rest =>
      rw [List.intercalate_cons_cons, List.count_append, List.count_append, ih,
        List.count_eq_zero.2 hc, Nat.add_zero, ← List.count_append, ← List.flatten_cons]

/-- How often a character occurs in the name and the value of an attribute. -/
def Entry.count (c : Char) (entry : Entry) : Nat :=
  entry.name.count c + entry.value.toRuby.count c

/-- How often a character occurs in attributes. -/
def entriesCount (c : Char) (entries : List Entry) : Nat :=
  (entries.map (Entry.count c)).sum

/-- A block says its attributes. -/
theorem count_formatAttributes (h : Inert c) :
    (formatAttributes style entries).count c = entriesCount c entries := by
  have hpairs : ((entries.mergeSort fun a b => textLe a.name b.name).map
      fun entry => formatPair style entry.name entry.value.toRuby).flatten.count c =
        entriesCount c entries := by
    rw [List.count_flatten, List.map_map, entriesCount]
    have hperm := (List.mergeSort_perm entries fun a b => textLe a.name b.name).map (Entry.count c)
    rw [← hperm.sum_nat]
    refine congrArg List.sum (List.map_congr_left fun entry _ => ?_)
    exact count_formatPair h
  have hround : ∀ t : List Char, ('(' :: t ++ [')']).count c = t.count c := by
    intro t
    rw [List.count_append, h.count_cons (by decide), h.count_eq_zero (s := [')']) rfl, Nat.add_zero]
  have hcurly : ∀ t : List Char, ('{' :: t ++ ['}']).count c = t.count c := by
    intro t
    rw [List.count_append, h.count_cons (by decide), h.count_eq_zero (s := ['}']) rfl, Nat.add_zero]
  cases style with
  | html =>
    rw [formatAttributes]
    simp only [hround]
    rw [count_joinWith (h.not_mem rfl), hpairs]
  | symbol =>
    rw [formatAttributes]
    simp only [hcurly]
    rw [count_joinWith (h.not_mem rfl), hpairs]
  | ruby19 =>
    rw [formatAttributes]
    simp only [hcurly]
    rw [count_joinWith (h.not_mem rfl), hpairs]

end Blocks

section Shorthands

/-- The first attribute of a name is the only one, if the names are distinct. -/
theorem filter_name_eq (hn : (entries.map Entry.name).Nodup)
    (hf : entries.find? (·.name == name) = some entry) :
    entries.filter (·.name == name) = [entry] := by
  induction entries with
  | nil => cases hf
  | cons first rest ih =>
    rw [List.map_cons, List.nodup_cons] at hn
    cases hfirst : first.name == name with
    | true =>
      simp only [List.find?_cons, hfirst] at hf
      cases hf
      rw [List.filter_cons, hfirst, if_pos rfl]
      refine congrArg _ (List.filter_eq_nil_iff.2 fun other ho hother => hn.1 ?_)
      rw [eq_of_beq hfirst, ← eq_of_beq hother]
      exact List.mem_map_of_mem ho
    | false =>
      simp only [List.find?_cons, hfirst] at hf
      rw [List.filter_cons, hfirst, if_neg Bool.false_ne_true]
      exact ih hn.2 hf

/-- Attributes are those of a class and the others. -/
theorem entriesCount_filter (p : Entry → Bool) :
    entriesCount c (entries.filter p) + entriesCount c (entries.filter fun e => !p e) =
      entriesCount c entries := by
  induction entries with
  | nil => rfl
  | cons first rest ih =>
    simp only [entriesCount, List.filter_cons, List.map_cons, List.sum_cons] at ih ⊢
    cases hp : p first with
    | true => simp [← ih, Nat.add_assoc]
    | false => simp [← ih, Nat.add_left_comm]

/-- A static value comes from the first attribute of the name. -/
theorem find?_of_staticValue? (hv : staticValue? entries name = some value) :
    ∃ entry, entries.find? (·.name == name) = some entry ∧ entry.name = name ∧
      entry.value = .static value := by
  rw [staticValue?] at hv
  cases hf : entries.find? (·.name == name) with
  | none => simp [hf] at hv
  | some entry =>
    have hname : (entry.name == name) = true := by simpa using List.find?_some hf
    refine ⟨entry, rfl, eq_of_beq hname, ?_⟩
    rw [hf, Option.map_some] at hv
    split at hv
    · rename_i text he
      cases hv
      exact Option.some.inj he
    · cases hv

/-- The classes of a value without a short form are all that is not ASCII in it. -/
theorem count_splitClasses (h : Inert c) :
    (splitClasses value).2.flatten.count c = value.count c := by
  have hcss : ∀ word ∈ words value, (!isCssIdentifier word) = false → word.count c = 0 :=
    fun word _ hw => count_of_isCssIdentifier h (by simpa using hw)
  rw [splitClasses, List.partition_eq_filter_filter]
  calc ((words value).filter (!isCssIdentifier ·)).flatten.count c
      = (words value).flatten.count c := count_flatten_filter hcss
    _ = value.count c := count_words h.solid

/-- An attribute with a short `id` says nothing but ASCII. -/
theorem entriesCount_withoutId (h : Inert c) (hn : (entries.map Entry.name).Nodup) :
    entriesCount c (withoutId ((staticValue? entries idName).filter isCssIdentifier) entries) =
      entriesCount c entries := by
  rw [withoutId]
  split
  · rename_i hs
    obtain ⟨id, hid⟩ := Option.isSome_iff_exists.1 hs
    obtain ⟨hvalue, hcss⟩ := Option.filter_eq_some_iff.1 hid
    obtain ⟨entry, hf, hname, hstatic⟩ := find?_of_staticValue? hvalue
    have hzero : entriesCount c (entries.filter (·.name == idName)) = 0 := by
      have hid : idName.count c = 0 := h.count_eq_zero rfl
      rw [filter_name_eq hn hf]
      simp [entriesCount, Entry.count, hname, hstatic, AttributeValue.toRuby, count_rubyString h,
        count_of_isCssIdentifier h hcss, hid]
    have hsplit := @entriesCount_filter c entries (·.name == idName)
    rw [hzero, Nat.zero_add] at hsplit
    exact hsplit
  · rfl

/-- The block says what the attributes say. -/
theorem entriesCount_block (h : Inert c) (hn : (entries.map Entry.name).Nodup) :
    entriesCount c (Shorthand.of entries).block = entriesCount c entries := by
  rw [← entriesCount_withoutId h hn, Shorthand.of]
  dsimp only
  generalize hl : withoutId ((staticValue? entries idName).filter isCssIdentifier) entries = left
  cases hc : staticValue? entries className with
  | none => rfl
  | some value =>
    obtain ⟨entry, hf, hname, hstatic⟩ := find?_of_staticValue? hc
    have hclass : left.filter (·.name == className) = [entry] := by
      rw [← filter_name_eq hn hf, ← hl, withoutId]
      split
      · rw [List.filter_filter]
        apply List.filter_congr
        intro other _
        by_cases ho : other.name = className
        · simp [ho, className, idName]
        · simp [ho]
      · rfl
    have hothers : entriesCount c (if (splitClasses value).2.isEmpty then []
        else [⟨className, .static (joinWith [' '] (splitClasses value).2)⟩]) =
          entriesCount c [entry] := by
      have hnone : className.count c = 0 := h.count_eq_zero rfl
      have hentry : entriesCount c [entry] = (splitClasses value).2.flatten.count c := by
        simp [entriesCount, Entry.count, hname, hstatic, AttributeValue.toRuby, count_rubyString h,
          hnone, count_splitClasses h]
      rw [hentry]
      split
      · rename_i he
        rw [List.isEmpty_iff.1 he]
        rfl
      · simp [entriesCount, Entry.count, AttributeValue.toRuby, count_rubyString h, hnone,
          count_joinWith (h.not_mem (s := [' ']) rfl)]
    have hsplit := @entriesCount_filter c left (·.name == className)
    rw [hclass, ← hothers, Nat.add_comm] at hsplit
    rw [← hsplit]
    simp only [Option.map_some, withClasses, bne, entriesCount, List.map_append,
      List.sum_append_nat]

/-- What the attributes of an element say, if no value holds an ampersand. -/
theorem entriesCount_entries {attributes : List DocTree.Attribute} (h : Inert c) (erb : Bool)
    (hs : ∀ a ∈ attributes, '&' ∉ a.value.toList) :
    entriesCount c (Haml.entries attributes erb) =
      (attributes.map fun a => a.name.toList.count c + a.value.toList.count c).sum := by
  rw [entriesCount, Haml.entries, List.map_map]
  refine congrArg List.sum (List.map_congr_left fun a ha => ?_)
  exact congrArg (a.name.toList.count c + ·) (count_classify h erb (hs a ha))

/-- **A header says the name and the attributes of its element.** -/
theorem count_header {nuked selfClosing : Bool} (h : Inert c)
    (hn : (entries.map Entry.name).Nodup) :
    (header style name (Shorthand.of entries) nuked selfClosing).count c =
      name.count c + entriesCount c entries := by
  obtain ⟨hid, hclasses⟩ := @isCssIdentifier_shorthand entries
  have hname : (if elidesName name (Shorthand.of entries) then [] else '%' :: name).count c =
      name.count c := by
    split
    · rename_i he
      rw [elidesName, Bool.and_eq_true, beq_iff_eq] at he
      rw [he.1]
      exact (h.count_eq_zero rfl).symm
    · exact h.count_cons (by decide)
  have hshort : (((Shorthand.of entries).id.map fun id => '#' :: id).getD []).count c = 0 := by
    cases hs : (Shorthand.of entries).id with
    | none => rfl
    | some id =>
      rw [Option.map_some, Option.getD_some, h.count_cons (by decide)]
      exact count_of_isCssIdentifier h (hid id hs)
  have htokens : ((Shorthand.of entries).classes.flatMap fun token => '.' :: token).count c =
      0 := by
    rw [List.count_eq_zero]
    intro hm
    obtain ⟨token, ht, hm⟩ := List.mem_flatMap.1 hm
    have hzero := count_of_isCssIdentifier h (hclasses token ht)
    rcases List.mem_cons.1 hm with he | hm
    · exact h.ne (by decide) he
    · exact List.count_eq_zero.1 hzero hm
  have hblock : (if (Shorthand.of entries).block.isEmpty then []
      else formatAttributes style (Shorthand.of entries).block).count c =
        entriesCount c entries := by
    rw [← entriesCount_block h hn]
    split
    · rename_i he
      rw [List.isEmpty_iff.1 he]
      rfl
    · exact count_formatAttributes h
  have hmark : ∀ {flag : Bool} {t : List Char}, (t.all fun d => d.toNat < 128) = true →
      (if flag then t else []).count c = 0 := by
    intro flag t ht
    split
    · exact h.count_eq_zero ht
    · rfl
  rw [header]
  simp only [List.count_append, hname, hshort, htokens, hblock]
  rw [hmark rfl, hmark rfl]
  simp

end Shorthands

end HtmlToHaml.Haml
