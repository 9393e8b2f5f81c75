import HtmlToHaml.Proofs.Haml.HeaderCount
import HtmlToHaml.Proofs.Haml.HeaderReading
import HtmlToHaml.Proofs.Text.Words

/-!
# What a header shows

The parts of a header are given here straight from the attributes of an element without scripts. The
short `id` and the short classes stand in front; the block holds every other attribute, an `id` that
has no short form, and the classes that have none as one attribute. The main statements are that the
header of an element shows these parts, and that its name, its `id`, its classes and all of its
other attributes are got back from them.
-/

namespace HtmlToHaml.Haml

open Text

/-- The value of the attribute of a name. -/
def attributeValue? (attributes : List DocTree.Attribute) (name : String) : Option (List Char) :=
  (attributes.find? (·.name == name)).map (·.value.toList)

/-- The class names of an element. -/
def classNames (attributes : List DocTree.Attribute) : List (List Char) :=
  ((attributeValue? attributes "class").map words).getD []

/-- The attributes of an element that neither identify nor classify it. -/
def otherEntries (attributes : List DocTree.Attribute) : List Entry :=
  (attributes.filter fun a => a.name != "id" && a.name != "class").map fun a =>
    ⟨a.name.toList, .static a.value.toList⟩

/-- The parts of the header of an element without scripts. -/
def HeaderParts.of (name : List Char) (attributes : List DocTree.Attribute)
    (nuked selfClosing : Bool) : HeaderParts :=
  let id := attributeValue? attributes "id"
  let short := id.filter isCssIdentifier
  let tokens := (classNames attributes).filter isCssIdentifier
  let others := (classNames attributes).filter (!isCssIdentifier ·)
  { name := if name = "div".toList ∧ (short ≠ none ∨ tokens ≠ []) then none else some name
    id := short
    classes := tokens
    block := otherEntries attributes ++
      ((id.filter (!isCssIdentifier ·)).toList.map fun value => ⟨idName, .static value⟩) ++
      if others = [] then [] else [⟨className, .static (joinWith [' '] others)⟩]
    nuked
    selfClosing }

variable {name : List Char} {attributes : List DocTree.Attribute} {nuked selfClosing : Bool}
  {entry : Entry}

section Shows

/-- Without scripts every value is literal. -/
theorem entries_false (attributes : List DocTree.Attribute) :
    entries attributes false = attributes.map fun a => ⟨a.name.toList, .static a.value.toList⟩ :=
  rfl

/-- The attributes of the block have the names of the attributes. -/
theorem nodup_entries (hn : (attributes.map (·.name)).Nodup) (erb : Bool) :
    ((entries attributes erb).map Entry.name).Nodup := by
  have hnames : (entries attributes erb).map Entry.name =
      (attributes.map (·.name)).map String.toList := by
    simp only [entries, List.map_map, Function.comp_def]
  rw [hnames]
  exact hn.map fun _ _ h => String.toList_inj.1 h

/-- The literal value of a name is the value of the attribute. -/
theorem staticValue?_entries (attributes : List DocTree.Attribute) (name : String) :
    staticValue? (entries attributes false) name.toList = attributeValue? attributes name := by
  have hname : ((fun entry : Entry => entry.name == name.toList) ∘
      fun a : DocTree.Attribute => (⟨a.name.toList, .static a.value.toList⟩ : Entry)) =
        fun a => a.name == name := by
    funext a
    rw [Function.comp_apply, Bool.eq_iff_iff, beq_iff_eq, beq_iff_eq, String.toList_inj]
  rw [staticValue?, entries_false, List.find?_map, hname, attributeValue?]
  cases attributes.find? (·.name == name) <;> rfl

/-- The attributes of a name are its value. -/
theorem filter_entries (hn : (attributes.map (·.name)).Nodup) (name : String) :
    (entries attributes false).filter (·.name == name.toList) =
      (attributeValue? attributes name).toList.map fun value => ⟨name.toList, .static value⟩ := by
  rw [← staticValue?_entries]
  cases hv : staticValue? (entries attributes false) name.toList with
  | none =>
    rw [Option.toList_none, List.map_nil, List.filter_eq_nil_iff]
    intro entry he hname
    have hsome : ((entries attributes false).find? (·.name == name.toList)).isSome :=
      List.find?_isSome.2 ⟨entry, he, hname⟩
    obtain ⟨found, hfound⟩ := Option.isSome_iff_exists.1 hsome
    obtain ⟨a, -, rfl⟩ := List.mem_map.1 (List.mem_of_find?_eq_some hfound)
    rw [staticValue?, hfound] at hv
    cases hv
  | some value =>
    obtain ⟨⟨_, _⟩, hfound, hname, hvalue⟩ := find?_of_staticValue? hv
    rw [filter_name_eq (nodup_entries hn false) hfound]
    cases hname
    cases hvalue
    rfl

/-- Besides the other attributes, the `id` is left if it has no short form. -/
theorem withoutId_perm_append (hn : (attributes.map (·.name)).Nodup) :
    (withoutId ((attributeValue? attributes "id").filter isCssIdentifier)
        (entries attributes false)).Perm
      ((entries attributes false).filter (·.name != idName) ++
        ((attributeValue? attributes "id").filter (!isCssIdentifier ·)).toList.map
          fun value => ⟨idName, .static value⟩) := by
  have hid : (entries attributes false).filter (·.name == idName) =
      (attributeValue? attributes "id").toList.map fun value => ⟨idName, .static value⟩ :=
    filter_entries hn "id"
  have hsplit : (entries attributes false).Perm
      ((entries attributes false).filter (·.name != idName) ++
        (entries attributes false).filter (·.name == idName)) :=
    ((List.filter_append_perm (·.name == idName) (entries attributes false)).symm.trans
      List.perm_append_comm)
  rw [hid] at hsplit
  cases hv : attributeValue? attributes "id" with
  | none =>
    rw [hv] at hsplit
    exact hsplit
  | some value =>
    rw [hv] at hsplit
    by_cases hcss : isCssIdentifier value = true
    · simp [withoutId, Option.filter, hcss]
    · simpa [withoutId, Option.filter, hcss] using hsplit

/-- Besides what is left of the other attributes, the classes without a short form are left. -/
theorem withClasses_eq_append (hn : (attributes.map (·.name)).Nodup) {left : List Entry}
    (hsub : left.Sublist (entries attributes false)) :
    withClasses ((attributeValue? attributes "class").map splitClasses) left =
      left.filter (·.name != className) ++
        (if (classNames attributes).filter (!isCssIdentifier ·) = [] then []
          else [⟨className, .static (joinWith [' '] ((classNames attributes).filter
            (!isCssIdentifier ·)))⟩]) := by
  cases hv : attributeValue? attributes "class" with
  | none =>
    have hnone : (entries attributes false).filter (·.name == className) = [] := by
      have hclass := filter_entries hn "class"
      rw [hv] at hclass
      exact hclass
    have hleft : left.filter (·.name != className) = left := by
      refine List.filter_eq_self.2 fun entry he => ?_
      have hname := List.filter_eq_nil_iff.1 hnone entry (hsub.subset he)
      simpa using hname
    simp [withClasses, classNames, hv, hleft]
  | some value =>
    simp [withClasses, classNames, hv, splitClasses, List.partition_eq_filter_filter,
      Function.comp_def]

/-- The block holds the same attributes. -/
theorem block_perm (hn : (attributes.map (·.name)).Nodup) :
    (Shorthand.of (entries attributes false)).block.Perm
      (HeaderParts.of name attributes nuked selfClosing).block := by
  have hid : staticValue? (entries attributes false) idName = attributeValue? attributes "id" :=
    staticValue?_entries attributes "id"
  have hclass : staticValue? (entries attributes false) className =
      attributeValue? attributes "class" :=
    staticValue?_entries attributes "class"
  -- Both short forms are left out by name, so the other attributes are what two filters keep.
  have hothers : ((entries attributes false).filter (·.name != idName)).filter
      (·.name != className) = otherEntries attributes := by
    have hname : ∀ a : DocTree.Attribute, ∀ name : String,
        (a.name.toList != name.toList) = (a.name != name) := fun a name => by
      rw [Bool.eq_iff_iff, bne_iff_ne, bne_iff_ne, ne_eq, ne_eq, String.toList_inj]
    rw [List.filter_filter, entries_false, List.filter_map, otherEntries]
    congr 2
    funext a
    have hid := hname a "id"
    have hclass := hname a "class"
    rw [Bool.and_comm, Function.comp_apply, ← hid, ← hclass]
    rfl
  have hids : (((attributeValue? attributes "id").filter (!isCssIdentifier ·)).toList.map
      fun value => (⟨idName, .static value⟩ : Entry)).filter (·.name != className) =
        ((attributeValue? attributes "id").filter (!isCssIdentifier ·)).toList.map
          fun value => ⟨idName, .static value⟩ := by
    refine List.filter_eq_self.2 fun entry he => ?_
    obtain ⟨value, -, rfl⟩ := List.mem_map.1 he
    rfl
  have hperm := (withoutId_perm_append hn).filter (·.name != className)
  rw [List.filter_append, hothers, hids] at hperm
  have hsub : (withoutId ((attributeValue? attributes "id").filter isCssIdentifier)
      (entries attributes false)).Sublist (entries attributes false) := by
    rw [withoutId]
    split
    · exact List.filter_sublist
    · exact List.Sublist.refl _
  rw [Shorthand.of, hid, hclass]
  dsimp only
  rw [withClasses_eq_append hn hsub]
  exact hperm.append_right _

/-- The short `id` is the same. -/
theorem id_shorthand : (Shorthand.of (entries attributes false)).id =
    (HeaderParts.of name attributes nuked selfClosing).id :=
  congrArg (Option.filter isCssIdentifier) (staticValue?_entries attributes "id")

/-- The short classes are the same. -/
theorem classes_shorthand : (Shorthand.of (entries attributes false)).classes =
    (HeaderParts.of name attributes nuked selfClosing).classes := by
  have hclass : staticValue? (entries attributes false) className =
      attributeValue? attributes "class" :=
    staticValue?_entries attributes "class"
  rw [Shorthand.of, hclass, HeaderParts.of, classNames]
  cases attributeValue? attributes "class" with
  | none => rfl
  | some value => simp [splitClasses, List.partition_eq_filter_filter]

/-- The name is left out for a division with a short form. -/
theorem name_of : (HeaderParts.of name attributes nuked selfClosing).name =
    if name = "div".toList ∧ ((HeaderParts.of name attributes nuked selfClosing).id ≠ none ∨
      (HeaderParts.of name attributes nuked selfClosing).classes ≠ []) then none else some name :=
  rfl

/-- The name is left out in the same elements. -/
theorem elidesName_iff (name : List Char) (attributes : List DocTree.Attribute)
    (nuked selfClosing : Bool) :
    elidesName name (Shorthand.of (entries attributes false)) = true ↔
      name = "div".toList ∧ ((HeaderParts.of name attributes nuked selfClosing).id ≠ none ∨
        (HeaderParts.of name attributes nuked selfClosing).classes ≠ []) := by
  rw [elidesName, id_shorthand, classes_shorthand, Bool.and_eq_true, Bool.or_eq_true, beq_iff_eq,
    Option.isSome_iff_ne_none, Bool.not_eq_true', List.isEmpty_eq_false_iff]
  rfl

/-- **The header of an element shows its parts.** -/
theorem header_eq_text (hn : (attributes.map (·.name)).Nodup) (style : AttributeStyle) :
    header style name (Shorthand.of (entries attributes false)) nuked selfClosing =
      (HeaderParts.of name attributes nuked selfClosing).text style := by
  have hname : (if elidesName name (Shorthand.of (entries attributes false)) = true then none
      else some name) = (HeaderParts.of name attributes nuked selfClosing).name := by
    rw [if_congr (elidesName_iff name attributes nuked selfClosing) rfl rfl, name_of]
  have hperm : (Shorthand.of (entries attributes false)).block.Perm
      (HeaderParts.of name attributes nuked selfClosing).block := block_perm hn
  have hempty : (Shorthand.of (entries attributes false)).block = [] ↔
      (HeaderParts.of name attributes nuked selfClosing).block = [] := by
    rw [← List.perm_nil, ← List.perm_nil]
    exact ⟨hperm.symm.trans, hperm.trans⟩
  have hblock := formatAttributes_eq_of_perm hperm
    (nodup_withClasses (nodup_withoutId (nodup_entries hn false))) style
  rw [header_eq_text_ofShorthand, HeaderParts.text, HeaderParts.text, HeaderParts.ofShorthand]
  dsimp only
  rw [hname, id_shorthand, classes_shorthand, hblock, if_congr hempty rfl rfl]
  rfl

end Shows

/-- A header can show the parts of an element whose name is an identifier. -/
theorem shown_of (hname : isCssIdentifier name = true) (attributes : List DocTree.Attribute)
    (nuked selfClosing : Bool) : (HeaderParts.of name attributes nuked selfClosing).Shown where
  name := by
    rw [name_of]
    split
    · exact fun _ h => nomatch h
    · rintro _ ⟨⟩
      exact hname
  id := fun _ h => (Option.mem_filter_iff.1 h).2
  classes := fun _ h => (List.mem_filter.1 h).2
  block := by
    intro entry he
    rcases List.mem_append.1 he with he | he
    · rcases List.mem_append.1 he with he | he
      · obtain ⟨a, -, rfl⟩ := List.mem_map.1 he
        exact ⟨_, rfl⟩
      · obtain ⟨value, -, rfl⟩ := List.mem_map.1 he
        exact ⟨_, rfl⟩
    · split at he
      · cases he
      · rw [List.mem_singleton.1 he]
        exact ⟨_, rfl⟩
  named := by
    rw [name_of]
    split
    · rename_i h
      exact fun _ => h.2
    · exact fun h => nomatch h

section Recovery

namespace HeaderParts

/-- The name of the element. -/
def elementName (parts : HeaderParts) : List Char :=
  parts.name.getD "div".toList

/-- The `id` of the element, short or in the block. -/
def elementId (parts : HeaderParts) : Option (List Char) :=
  parts.id.or (staticValue? parts.block idName)

/-- The class names of the element: the short ones and those in the block. -/
def elementClasses (parts : HeaderParts) : List (List Char) :=
  parts.classes ++ ((staticValue? parts.block className).map words).getD []

/-- The attributes of the element that neither identify nor classify it. -/
def elementOthers (parts : HeaderParts) : List Entry :=
  parts.block.filter fun entry => entry.name != idName && entry.name != className

/-- What an element is and has is got back from parts: its name, its `id`, its class names and all
of its other attributes. -/
structure Describes (parts : HeaderParts) (name : List Char) (attributes : List DocTree.Attribute) :
    Prop where
  /-- The name is the name of the element. -/
  name : parts.elementName = name
  /-- The `id` is the value of the attribute, if there is one. -/
  id : parts.elementId = attributeValue? attributes "id"
  /-- Every class name is there as often as the element has it. -/
  classes : parts.elementClasses.Perm (classNames attributes)
  /-- Every other attribute is there once. -/
  others : parts.elementOthers.Perm (otherEntries attributes)

end HeaderParts

/-- Among attributes with distinct names, a literal value is that of an attribute of the name. -/
theorem staticValue?_eq_some_iff {block : List Entry} {value : List Char}
    (hn : (block.map Entry.name).Nodup) :
    staticValue? block name = some value ↔ ⟨name, .static value⟩ ∈ block := by
  constructor
  · intro hv
    obtain ⟨⟨_, _⟩, hfound, hname, hvalue⟩ := find?_of_staticValue? hv
    cases hname
    cases hvalue
    exact List.mem_of_find?_eq_some hfound
  · intro hm
    rw [staticValue?, (find?_name_eq_some_iff hn).2 ⟨hm, rfl⟩]
    rfl

/-- The other attributes have other names. -/
theorem name_ne_of_mem_otherEntries (h : entry ∈ otherEntries attributes) :
    entry.name ≠ idName ∧ entry.name ≠ className := by
  obtain ⟨a, ha, rfl⟩ := List.mem_map.1 h
  obtain ⟨hid, hclass⟩ : a.name ≠ "id" ∧ a.name ≠ "class" := by simpa using (List.mem_filter.1 ha).2
  exact ⟨fun h => hid (String.toList_inj.1 h), fun h => hclass (String.toList_inj.1 h)⟩

/-- The block holds an `id` that has no short form. -/
theorem id_mem_block {value : List Char} :
    ⟨idName, .static value⟩ ∈ (HeaderParts.of name attributes nuked selfClosing).block ↔
      (attributeValue? attributes "id").filter (!isCssIdentifier ·) = some value := by
  have hname : idName ≠ className := by decide
  constructor
  · intro h
    rcases List.mem_append.1 h with h | h
    · rcases List.mem_append.1 h with h | h
      · exact absurd rfl (name_ne_of_mem_otherEntries h).1
      · obtain ⟨value, hvalue, he⟩ := List.mem_map.1 h
        cases he
        exact Option.mem_toList.1 hvalue
    · split at h
      · cases h
      · exact absurd (congrArg Entry.name (List.mem_singleton.1 h)) hname
  · intro h
    refine List.mem_append_left _ (List.mem_append_right _ (List.mem_map.2 ⟨value, ?_, rfl⟩))
    exact Option.mem_toList.2 h

/-- The block holds the classes without a short form, if there are any. -/
theorem class_mem_block {value : List Char} :
    ⟨className, .static value⟩ ∈ (HeaderParts.of name attributes nuked selfClosing).block ↔
      (classNames attributes).filter (!isCssIdentifier ·) ≠ [] ∧
        joinWith [' '] ((classNames attributes).filter (!isCssIdentifier ·)) = value := by
  have hname : className ≠ idName := by decide
  constructor
  · intro h
    rcases List.mem_append.1 h with h | h
    · rcases List.mem_append.1 h with h | h
      · exact absurd rfl (name_ne_of_mem_otherEntries h).2
      · obtain ⟨value, -, he⟩ := List.mem_map.1 h
        exact absurd (congrArg Entry.name he.symm) hname
    · split at h
      · cases h
      · rename_i hne
        cases List.mem_singleton.1 h
        exact ⟨hne, rfl⟩
  · rintro ⟨hne, rfl⟩
    refine List.mem_append_right _ ?_
    rw [if_neg hne]
    exact List.mem_singleton_self _

/-- The attributes of the block that neither identify nor classify are the other ones. -/
theorem filter_block : (HeaderParts.of name attributes nuked selfClosing).block.filter
    (fun entry => entry.name != idName && entry.name != className) = otherEntries attributes := by
  have hothers : (otherEntries attributes).filter
      (fun entry => entry.name != idName && entry.name != className) = otherEntries attributes :=
    List.filter_eq_self.2 fun entry he => by simpa using name_ne_of_mem_otherEntries he
  have hids : (((attributeValue? attributes "id").filter (!isCssIdentifier ·)).toList.map
      fun value => (⟨idName, .static value⟩ : Entry)).filter
        (fun entry => entry.name != idName && entry.name != className) = [] := by
    refine List.filter_eq_nil_iff.2 fun entry he => ?_
    obtain ⟨value, -, rfl⟩ := List.mem_map.1 he
    exact Bool.false_ne_true
  rw [HeaderParts.of]
  dsimp only
  rw [List.filter_append, List.filter_append, hothers, hids, List.append_nil]
  split
  · rw [List.filter_nil, List.append_nil]
  · rw [List.filter_cons_of_neg Bool.false_ne_true, List.filter_nil, List.append_nil]

/-- Class names are words. -/
theorem exists_of_mem_classNames {token : List Char} (h : token ∈ classNames attributes) :
    ∃ value, token ∈ words value := by
  rw [classNames] at h
  cases hv : attributeValue? attributes "class" with
  | none =>
    rw [hv] at h
    cases h
  | some value =>
    rw [hv] at h
    exact ⟨value, h⟩

/-- Some of the class names, with single spaces between them, are read back. -/
theorem words_filter_classNames (attributes : List DocTree.Attribute) (p : List Char → Bool) :
    words (joinWith [' '] ((classNames attributes).filter p)) =
      (classNames attributes).filter p := by
  have hword : ∀ token ∈ (classNames attributes).filter p, ∃ value, token ∈ words value :=
    fun token h => exists_of_mem_classNames (List.mem_filter.1 h).1
  refine words_intercalate (fun token h => ?_) fun token h => ?_
  · obtain ⟨value, hvalue⟩ := hword token h
    exact ne_nil_of_mem_words hvalue
  · obtain ⟨value, hvalue⟩ := hword token h
    exact not_isSpace_of_mem_words hvalue

/-- **What an element says is got back from the parts of its header**, in whatever order the
attributes of the block come. -/
theorem describes_of_perm (hn : (attributes.map (·.name)).Nodup) {block : List Entry}
    (hperm : block.Perm (HeaderParts.of name attributes nuked selfClosing).block) :
    HeaderParts.Describes { HeaderParts.of name attributes nuked selfClosing with block } name
      attributes := by
  have hnodup : (block.map Entry.name).Nodup := by
    have hshort : ((Shorthand.of (entries attributes false)).block.map Entry.name).Nodup :=
      nodup_withClasses (nodup_withoutId (nodup_entries hn false))
    exact ((block_perm hn).trans hperm.symm).map Entry.name |>.nodup_iff.1 hshort
  have hid : staticValue? block idName =
      (attributeValue? attributes "id").filter (!isCssIdentifier ·) := by
    refine Option.ext fun value => ?_
    rw [staticValue?_eq_some_iff hnodup, hperm.mem_iff, id_mem_block]
  have hclass : ((staticValue? block className).map words).getD [] =
      (classNames attributes).filter (!isCssIdentifier ·) := by
    have hvalue : ∀ value, staticValue? block className = some value ↔ _ := fun value => by
      rw [staticValue?_eq_some_iff hnodup, hperm.mem_iff, class_mem_block]
    by_cases hempty : (classNames attributes).filter (!isCssIdentifier ·) = []
    · have hnone : staticValue? block className = none :=
        Option.eq_none_iff_forall_ne_some.2 fun value hv => ((hvalue value).1 hv).1 hempty
      rw [hnone, hempty]
      rfl
    · rw [(hvalue _).2 ⟨hempty, rfl⟩]
      exact words_filter_classNames attributes _
  constructor
  · change (HeaderParts.of name attributes nuked selfClosing).name.getD "div".toList = name
    rw [name_of]
    split
    · rename_i h
      exact h.1.symm
    · rfl
  · change ((attributeValue? attributes "id").filter isCssIdentifier).or
      (staticValue? block idName) = _
    rw [hid]
    cases attributeValue? attributes "id" with
    | none => rfl
    | some value => by_cases hcss : isCssIdentifier value = true <;> simp [Option.filter, hcss]
  · change ((classNames attributes).filter isCssIdentifier ++
      ((staticValue? block className).map words).getD []).Perm _
    rw [hclass]
    exact List.filter_append_perm _ _
  · have hothers := hperm.filter fun entry => entry.name != idName && entry.name != className
    rw [filter_block] at hothers
    exact hothers

end Recovery

end HtmlToHaml.Haml
