import HtmlToHaml.Haml.Header
import Mathlib.Data.List.Nodup

/-!
# The order of attributes

Attributes with distinct names can be looked up and sorted in one way only. So the short forms of an
element are the same in whatever order its attributes were written, the attributes left for the
block are the same up to their order, and the block itself, which is sorted by name, is the same.
-/

namespace HtmlToHaml.Haml

open Text

variable {s t u name : List Char} {entry : Entry} {entries entries' : List Entry}

section Names

/-- Texts that come before one another are equal. -/
theorem eq_of_textLe (h : textLe s t = true) (h' : textLe t s = true) : s = t := by
  induction s generalizing t with
  | nil =>
    cases t with
    | nil => rfl
    | cons d t => simp [textLe] at h'
  | cons c s ih =>
    cases t with
    | nil => simp [textLe] at h
    | cons d t =>
      simp only [textLe, Bool.or_eq_true, Bool.and_eq_true, decide_eq_true_eq, beq_iff_eq] at h h'
      rcases h with hlt | ⟨rfl, h⟩
      · rcases h' with hgt | ⟨rfl, -⟩
        · exact absurd hlt (Nat.lt_asymm hgt)
        · exact absurd hlt (Nat.lt_irrefl _)
      · rcases h' with hgt | ⟨-, h'⟩
        · exact absurd hgt (Nat.lt_irrefl _)
        · rw [ih h h']

/-- The order of texts can be followed along. -/
theorem textLe_trans (h : textLe s t = true) (h' : textLe t u = true) : textLe s u = true := by
  induction s generalizing t u with
  | nil => rfl
  | cons c s ih =>
    cases t with
    | nil => simp [textLe] at h
    | cons d t =>
      cases u with
      | nil => simp [textLe] at h'
      | cons e u =>
        simp only [textLe, Bool.or_eq_true, Bool.and_eq_true, decide_eq_true_eq,
          beq_iff_eq] at h h' ⊢
        rcases h with hlt | ⟨rfl, h⟩
        · rcases h' with hlt' | ⟨rfl, -⟩
          · exact Or.inl (Nat.lt_trans hlt hlt')
          · exact Or.inl hlt
        · exact h'.imp_right fun ⟨he, h'⟩ => ⟨he, ih h h'⟩

/-- Of two texts one comes before the other. -/
theorem textLe_total (s t : List Char) : (textLe s t || textLe t s) = true := by
  induction s generalizing t with
  | nil => rfl
  | cons c s ih =>
    cases t with
    | nil => rfl
    | cons d t =>
      rcases Nat.lt_trichotomy c.toNat d.toNat with hlt | heq | hgt
      · simp [textLe, hlt]
      · obtain rfl := Char.toNat_inj.1 heq
        simpa [textLe] using ih t
      · simp [textLe, hgt]

end Names

section Permutations

variable (hp : entries.Perm entries') (hn : (entries.map Entry.name).Nodup)

/-- Among attributes with distinct names, the one of a name is found wherever it stands. -/
theorem find?_name_eq_some_iff (hn : (entries.map Entry.name).Nodup) :
    entries.find? (·.name == name) = some entry ↔ entry ∈ entries ∧ entry.name = name := by
  constructor
  · intro hf
    exact ⟨List.mem_of_find?_eq_some hf, by simpa using List.find?_some hf⟩
  · rintro ⟨hm, rfl⟩
    cases hf : entries.find? (·.name == entry.name) with
    | none => simpa using List.find?_eq_none.1 hf entry hm
    | some found =>
      have hname : found.name = entry.name := by simpa using List.find?_some hf
      rw [List.inj_on_of_nodup_map hn (List.mem_of_find?_eq_some hf) hm hname]

include hp hn

/-- The literal value of a name does not depend on the order. -/
theorem staticValue?_eq_of_perm (name : List Char) :
    staticValue? entries name = staticValue? entries' name := by
  have hn' : (entries'.map Entry.name).Nodup := (hp.map Entry.name).nodup_iff.1 hn
  have hfind : entries.find? (·.name == name) = entries'.find? (·.name == name) := by
    refine Option.ext fun entry => ?_
    rw [find?_name_eq_some_iff hn, find?_name_eq_some_iff hn', hp.mem_iff]
  rw [staticValue?, staticValue?, hfind]

/-- Attributes with distinct names are sorted in one way only. -/
theorem mergeSort_eq_of_perm :
    entries.mergeSort (fun a b => textLe a.name b.name) =
      entries'.mergeSort fun a b => textLe a.name b.name := by
  have hsorted : ∀ entries : List Entry,
      (entries.mergeSort fun a b => textLe a.name b.name).Pairwise
        fun a b => textLe a.name b.name = true :=
    List.pairwise_mergeSort (fun _ _ _ => textLe_trans) fun a b => textLe_total a.name b.name
  have hperm := ((List.mergeSort_perm entries fun a b => textLe a.name b.name).trans hp).trans
    (List.mergeSort_perm entries' fun a b => textLe a.name b.name).symm
  refine hperm.eq_of_pairwise (fun a b ha hb hab hba => ?_) (hsorted entries) (hsorted entries')
  have ha := List.mem_mergeSort.1 ha
  have hb := hp.mem_iff.2 (List.mem_mergeSort.1 hb)
  exact List.inj_on_of_nodup_map hn ha hb (eq_of_textLe hab hba)

/-- The block does not depend on the order. -/
theorem formatAttributes_eq_of_perm (style : AttributeStyle) :
    formatAttributes style entries = formatAttributes style entries' := by
  simp only [formatAttributes, mergeSort_eq_of_perm hp hn]

end Permutations

section Headers

/-- The attributes left for the block have distinct names if the attributes have. -/
theorem nodup_withClasses {classes : Option (List (List Char) × List (List Char))}
    (hn : (entries.map Entry.name).Nodup) :
    ((withClasses classes entries).map Entry.name).Nodup := by
  cases classes with
  | none => exact hn
  | some pair =>
    have hfilter : ((entries.filter (·.name != className)).map Entry.name).Nodup :=
      hn.sublist (List.filter_sublist.map Entry.name)
    rw [withClasses, List.map_append]
    refine hfilter.append ?_ fun name hname hclass => ?_
    · split <;> simp
    · obtain ⟨entry, he, rfl⟩ := List.mem_map.1 hname
      have hother : entry.name ≠ className := by simpa using (List.mem_filter.1 he).2
      split at hclass
      · cases hclass
      · exact hother (List.mem_singleton.1 hclass)

/-- The attributes left for the block are the same up to their order. -/
theorem withClasses_perm (hp : entries.Perm entries')
    (classes : Option (List (List Char) × List (List Char))) :
    (withClasses classes entries).Perm (withClasses classes entries') := by
  cases classes with
  | none => exact hp
  | some pair => exact (hp.filter _).append_right _

/-- The attributes left when the `id` has a short form are the same up to their order. -/
theorem withoutId_perm (hp : entries.Perm entries') (id : Option (List Char)) :
    (withoutId id entries).Perm (withoutId id entries') := by
  rw [withoutId, withoutId]
  split
  · exact hp.filter _
  · exact hp

/-- The attributes left when the `id` has a short form have distinct names if the attributes
have. -/
theorem nodup_withoutId {id : Option (List Char)} (hn : (entries.map Entry.name).Nodup) :
    ((withoutId id entries).map Entry.name).Nodup := by
  rw [withoutId]
  split
  · exact hn.sublist (List.filter_sublist.map Entry.name)
  · exact hn

/-- **The header of an element does not depend on the order of its attributes.** -/
theorem header_eq_of_perm (hp : entries.Perm entries') (hn : (entries.map Entry.name).Nodup)
    (style : AttributeStyle) (name : List Char) (nuked selfClosing : Bool) :
    header style name (Shorthand.of entries) nuked selfClosing =
      header style name (Shorthand.of entries') nuked selfClosing := by
  have hid := staticValue?_eq_of_perm hp hn idName
  have hclass := staticValue?_eq_of_perm hp hn className
  have hperm : (Shorthand.of entries).block.Perm (Shorthand.of entries').block := by
    rw [Shorthand.of, Shorthand.of, hid, hclass]
    exact withClasses_perm (withoutId_perm hp _) _
  have hnodup : ((Shorthand.of entries).block.map Entry.name).Nodup :=
    nodup_withClasses (nodup_withoutId hn)
  have hempty : (Shorthand.of entries).block.isEmpty = (Shorthand.of entries').block.isEmpty := by
    rw [Bool.eq_iff_iff, List.isEmpty_iff, List.isEmpty_iff, ← List.perm_nil, ← List.perm_nil]
    exact ⟨hperm.symm.trans, hperm.trans⟩
  have hshort : (Shorthand.of entries).id = (Shorthand.of entries').id ∧
      (Shorthand.of entries).classes = (Shorthand.of entries').classes := by
    simp only [Shorthand.of, hid, hclass, and_self]
  rw [header, header, elidesName, elidesName, hshort.1, hshort.2, hempty,
    formatAttributes_eq_of_perm hperm hnodup style]

end Headers

end HtmlToHaml.Haml
