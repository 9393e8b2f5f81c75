import HtmlToHaml.Proofs.Haml.AttributeOrder
import HtmlToHaml.Proofs.Haml.ByteOrder
import HtmlToHaml.Proofs.Haml.LiteralReading

/-!
# Reading a block of attributes

A block is read pair by pair. A key is a bare word, or a literal where the style has no bare form
for it; a value is a literal. What stands between key and value, between pairs and around all of
them is given by the style. The main statement is that a block of literal values is read back as its
attributes in the order of the bytes of their names.
-/

namespace HtmlToHaml.Haml

open Text

/-- Whether a character may stand in a bare key. -/
def isKeyChar : AttributeStyle → Char → Bool
  | .html, c => c.isAlphanum || c == '_' || c == '-' || c == ':'
  | .symbol, c | .ruby19, c => c.isAlphanum || c == '_'

/-- What stands in front of a bare key. -/
def keyMark : AttributeStyle → List Char
  | .symbol => [':']
  | .html | .ruby19 => []

/-- What stands between a bare key and its value. -/
def bareArrow : AttributeStyle → List Char
  | .html => ['=']
  | .symbol => [' ', '=', '>', ' ']
  | .ruby19 => [':', ' ']

/-- What stands between a quoted key and its value. -/
def quotedArrow : AttributeStyle → List Char
  | .html => ['=']
  | .symbol | .ruby19 => [' ', '=', '>', ' ']

/-- What stands between two pairs. -/
def pairSeparator : AttributeStyle → List Char
  | .html => [' ']
  | .symbol | .ruby19 => [',', ' ']

/-- What stands in front of a block. -/
def blockOpen : AttributeStyle → Char
  | .html => '('
  | .symbol | .ruby19 => '{'

/-- What stands behind a block. -/
def blockClose : AttributeStyle → Char
  | .html => ')'
  | .symbol | .ruby19 => '}'

/-- The word of a class of characters that begins a text, and what follows it. -/
def readWord (p : Char → Bool) (s : List Char) : Option (List Char × List Char) :=
  if (s.takeWhile p).isEmpty then none else some (s.takeWhile p, s.dropWhile p)

/-- The key that begins a text, and what follows the mark between it and its value. -/
def readKey (style : AttributeStyle) (s : List Char) : Option (List Char × List Char) :=
  match readLiteral s with
  | some (name, rest) => (stripPrefix? (quotedArrow style) rest).map (name, ·)
  | none =>
    (stripPrefix? (keyMark style) s).bind fun bare =>
      (readWord (isKeyChar style) bare).bind fun (name, rest) =>
        (stripPrefix? (bareArrow style) rest).map (name, ·)

/-- The attribute that begins a text, and what follows it. -/
def readPair (style : AttributeStyle) (s : List Char) : Option (Entry × List Char) :=
  (readKey style s).bind fun (name, rest) =>
    (readLiteral rest).map (Prod.map (fun value => ⟨name, .static value⟩) id)

variable {style : AttributeStyle} {s rest : List Char} {entry : Entry}

section Lengths

variable {text name : List Char}

/-- What follows the inside of a literal is shorter. -/
theorem length_lt_of_readInside (h : readInside s = some (text, rest)) :
    rest.length < s.length := by
  fun_induction readInside s generalizing text with
  | case1 s =>
    cases h
    exact Nat.lt_succ_self _
  | case2 a b s ih =>
    obtain ⟨code, -, hmap⟩ := Option.bind_eq_some_iff.1 h
    obtain ⟨read, hread, he⟩ := Option.map_eq_some_iff.1 hmap
    cases he
    exact Nat.lt_add_right 4 (ih hread)
  | case3 c s _ ih =>
    obtain ⟨_, -, hmap⟩ := Option.bind_eq_some_iff.1 h
    obtain ⟨read, hread, he⟩ := Option.map_eq_some_iff.1 hmap
    cases he
    exact Nat.lt_add_right 2 (ih hread)
  | case4 => cases h
  | case5 => cases h
  | case6 c s _ _ _ _ _ ih =>
    obtain ⟨read, hread, he⟩ := Option.map_eq_some_iff.1 h
    cases he
    exact Nat.lt_add_right 1 (ih hread)
  | case7 => cases h

/-- What follows a literal is shorter. -/
theorem length_lt_of_readLiteral (h : readLiteral s = some (text, rest)) :
    rest.length < s.length := by
  rw [readLiteral.eq_def] at h
  split at h
  · exact Nat.lt_add_right 1 (length_lt_of_readInside h)
  · cases h

/-- What follows a mark is not longer. -/
theorem length_le_of_stripPrefix? {p : List Char} (h : stripPrefix? p s = some rest) :
    rest.length ≤ s.length := by
  rw [stripPrefix?_eq_some_iff.1 h, List.length_append]
  exact Nat.le_add_left _ _

/-- What follows a word is not longer. -/
theorem length_le_of_readWord {p : Char → Bool} {word : List Char}
    (h : readWord p s = some (word, rest)) : rest.length ≤ s.length := by
  rw [readWord] at h
  split at h
  · cases h
  · cases h
    exact (List.dropWhile_suffix _).length_le

/-- What follows a key is not longer. -/
theorem length_le_of_readKey (h : readKey style s = some (name, rest)) :
    rest.length ≤ s.length := by
  rw [readKey] at h
  split at h
  · rename_i after hl
    obtain ⟨_, hs, he⟩ := Option.map_eq_some_iff.1 h
    cases he
    exact (length_le_of_stripPrefix? hs).trans (Nat.le_of_lt (length_lt_of_readLiteral hl))
  · obtain ⟨bare, hb, h⟩ := Option.bind_eq_some_iff.1 h
    obtain ⟨⟨word, after⟩, hw, h⟩ := Option.bind_eq_some_iff.1 h
    obtain ⟨_, hs, he⟩ := Option.map_eq_some_iff.1 h
    cases he
    exact (length_le_of_stripPrefix? hs).trans
      ((length_le_of_readWord hw).trans (length_le_of_stripPrefix? hb))

/-- What follows a pair is shorter. -/
theorem length_lt_of_readPair (h : readPair style s = some (entry, rest)) :
    rest.length < s.length := by
  obtain ⟨⟨name, after⟩, hk, h⟩ := Option.bind_eq_some_iff.1 h
  obtain ⟨read, hl, he⟩ := Option.map_eq_some_iff.1 h
  cases he
  exact (length_lt_of_readLiteral hl).trans_le (length_le_of_readKey hk)

end Lengths

/-- The attributes that begin a text, at least one, and what follows them. -/
def readPairs (style : AttributeStyle) (s : List Char) : Option (List Entry × List Char) :=
  match _h : readPair style s with
  | none => none
  | some (entry, rest) =>
    match _h' : stripPrefix? (pairSeparator style) rest with
    | none => some ([entry], rest)
    | some more => (readPairs style more).map (Prod.map (entry :: ·) id)
termination_by s.length
decreasing_by
  have hrest := length_lt_of_readPair _h
  have hmore := congrArg List.length (stripPrefix?_eq_some_iff.1 _h')
  rw [List.length_append] at hmore
  omega

/-- The attributes of the block that begins a text, which may have none, and what
follows the block. -/
def readBlock (style : AttributeStyle) (s : List Char) : Option (List Entry × List Char) :=
  (stripPrefix? [blockOpen style] s).bind fun inner =>
    let (entries, rest) := (readPairs style inner).getD ([], inner)
    (stripPrefix? [blockClose style] rest).map (entries, ·)

section Keys

variable {name t : List Char}

/-- Whether a name has a bare form. -/
def isBareKey (style : AttributeStyle) (name : List Char) : Bool :=
  !name.isEmpty && name.all (isKeyChar style)

/-- A pair is a bare or a quoted key and its value. -/
theorem formatPair_eq (style : AttributeStyle) (name value : List Char) :
    formatPair style name value =
      (if isBareKey style name then keyMark style ++ (name ++ bareArrow style)
        else rubyString name ++ quotedArrow style) ++ value := by
  cases style with
  | html =>
    have hbare : isBareKey .html name = isCssIdentifier name := rfl
    rw [formatPair, hbare]
    split <;> simp [keyMark, bareArrow, quotedArrow]
  | symbol =>
    have hbare : isBareKey .symbol name = isWord name := rfl
    rw [formatPair, hbare]
    split <;> simp [keyMark, bareArrow, quotedArrow]
  | ruby19 =>
    have hbare : isBareKey .ruby19 name = isWord name := rfl
    rw [formatPair, hbare]
    split <;> simp [keyMark, bareArrow, quotedArrow]

/-- A word is read up to the first character that is not of its class. -/
theorem readWord_append {p : Char → Bool} (hname : name ≠ []) (hp : ∀ c ∈ name, p c = true)
    (ht : ∀ c ∈ t.head?, p c = false) : readWord p (name ++ t) = some (name, t) := by
  have htake : t.takeWhile p = [] ∧ t.dropWhile p = t := by
    cases t with
    | nil => exact ⟨rfl, rfl⟩
    | cons c t => simp [ht c rfl]
  rw [readWord, List.takeWhile_append_of_pos hp, List.dropWhile_append_of_pos hp, htake.1, htake.2,
    List.append_nil, if_neg (by simpa using hname)]

/-- A literal begins with a quote. -/
theorem readLiteral_eq_none (h : s.head? ≠ some '"') : readLiteral s = none := by
  rw [readLiteral.eq_2]
  rintro rest rfl
  exact h rfl

/-- A quote stands in no bare key. -/
theorem ne_quote_of_isKeyChar {c : Char} (h : isKeyChar style c = true) : c ≠ '"' := by
  rintro rfl
  cases style <;> exact absurd h (by decide)

/-- A bare key is read back. -/
theorem readKey_bare (h : isBareKey style name = true) (t : List Char) :
    readKey style (keyMark style ++ (name ++ (bareArrow style ++ t))) = some (name, t) := by
  rw [isBareKey, Bool.and_eq_true, List.all_eq_true] at h
  have hname : name ≠ [] := by simpa using h.1
  have hliteral : readLiteral (keyMark style ++ (name ++ (bareArrow style ++ t))) = none := by
    obtain ⟨c, more, rfl⟩ := List.exists_cons_of_ne_nil hname
    have hc := ne_quote_of_isKeyChar (h.2 c List.mem_cons_self)
    refine readLiteral_eq_none ?_
    cases style <;> simp [keyMark, hc]
  have harrow : ∀ c ∈ (bareArrow style ++ t).head?, isKeyChar style c = false := by
    cases style <;> simp [bareArrow, isKeyChar]
  rw [readKey, hliteral]
  simp only [stripPrefix?_append, Option.bind_some, readWord_append hname h.2 harrow,
    Option.map_some]

/-- A quoted key is read back. -/
theorem readKey_quoted (name t : List Char) :
    readKey style (rubyString name ++ (quotedArrow style ++ t)) = some (name, t) := by
  rw [readKey, readLiteral_rubyString]
  simp only [stripPrefix?_append, Option.map_some]

/-- A pair is read back. -/
theorem readPair_formatPair (name value t : List Char) :
    readPair style (formatPair style name (rubyString value) ++ t) =
      some (⟨name, .static value⟩, t) := by
  have hkey : readKey style (formatPair style name (rubyString value) ++ t) =
      some (name, rubyString value ++ t) := by
    rw [formatPair_eq]
    split
    · rename_i h
      simp only [List.append_assoc, readKey_bare h]
    · simp only [List.append_assoc, readKey_quoted]
  rw [readPair, hkey, Option.bind_some]
  simp only [readLiteral_rubyString, Option.map_some, Prod.map, id]

end Keys

section Blocks

variable {more t : List Char} {entries : List Entry}

/-- The last pair stands where no separator follows. -/
theorem readPairs_last (h : readPair style s = some (entry, rest))
    (hs : stripPrefix? (pairSeparator style) rest = none) :
    readPairs style s = some ([entry], rest) := by
  rw [readPairs]
  split
  · rename_i hnone
    cases hnone.symm.trans h
  · rename_i hsome
    cases hsome.symm.trans h
    split
    · rfl
    · rename_i more hmore
      cases hmore.symm.trans hs

/-- A pair goes on behind a separator. -/
theorem readPairs_more (h : readPair style s = some (entry, rest))
    (hs : stripPrefix? (pairSeparator style) rest = some more) :
    readPairs style s = (readPairs style more).map (Prod.map (entry :: ·) id) := by
  rw [readPairs]
  split
  · rename_i hnone
    cases hnone.symm.trans h
  · rename_i hsome
    cases hsome.symm.trans h
    split
    · rename_i hnone
      cases hnone.symm.trans hs
    · rename_i hmore
      cases hmore.symm.trans hs
      rfl

/-- Pairs are read back, up to the end of the block. -/
theorem readPairs_joinWith (h : ∀ entry ∈ entries, ∃ value, entry.value = .static value)
    (hne : entries ≠ []) (t : List Char) :
    readPairs style (joinWith (pairSeparator style)
        (entries.map fun entry => formatPair style entry.name entry.value.toRuby) ++
          blockClose style :: t) = some (entries, blockClose style :: t) := by
  have hpair : ∀ entry ∈ entries, ∀ t,
      readPair style (formatPair style entry.name entry.value.toRuby ++ t) = some (entry, t) := by
    intro entry he t
    obtain ⟨value, hv⟩ := h entry he
    obtain ⟨name, _⟩ := entry
    cases hv
    exact readPair_formatPair name value t
  induction entries with
  | nil => exact absurd rfl hne
  | cons entry entries ih =>
    have hfirst := hpair entry List.mem_cons_self
    cases entries with
    | nil =>
      have hclose : stripPrefix? (pairSeparator style) (blockClose style :: t) = none := by
        cases style <;> rfl
      simp only [joinWith, List.map_cons, List.map_nil, List.intercalate_singleton]
      exact readPairs_last (hfirst _) hclose
    | cons next entries =>
      have hrest := ih (fun entry he => h entry (List.mem_cons_of_mem _ he)) (by simp)
        fun entry he => hpair entry (List.mem_cons_of_mem _ he)
      rw [joinWith, List.map_cons] at hrest
      rw [joinWith, List.map_cons, List.map_cons, List.intercalate_cons_cons, List.append_assoc,
        List.append_assoc, readPairs_more (hfirst _) (stripPrefix?_append _ _), hrest,
        Option.map_some]
      rfl

/-- No pair begins with the end of a block. -/
theorem readPairs_close (style : AttributeStyle) (t : List Char) :
    readPairs style (blockClose style :: t) = none := by
  have hpair : readPair style (blockClose style :: t) = none := by
    cases style <;> rfl
  rw [readPairs]
  split
  · rfl
  · rename_i hsome
    cases hpair.symm.trans hsome

/-- A block is its pairs between its brackets. -/
theorem formatAttributes_eq (style : AttributeStyle) (entries : List Entry) :
    formatAttributes style entries =
      blockOpen style :: joinWith (pairSeparator style)
        ((entries.mergeSort fun a b => byteLe a.name b.name).map fun entry =>
          formatPair style entry.name entry.value.toRuby) ++ [blockClose style] := by
  simp only [formatAttributes, textLe_eq_byteLe]
  cases style <;> rfl

/-- A block of literal values is read back as its attributes by the bytes of their names, whatever
follows it. -/
theorem readBlock_formatAttributes (h : ∀ entry ∈ entries, ∃ value, entry.value = .static value)
    (t : List Char) :
    readBlock style (formatAttributes style entries ++ t) =
      some (entries.mergeSort (fun a b => byteLe a.name b.name), t) := by
  have hstatic : ∀ entry ∈ entries.mergeSort (fun a b => byteLe a.name b.name),
      ∃ value, entry.value = .static value := fun entry he => h entry (List.mem_mergeSort.1 he)
  rw [formatAttributes_eq, List.append_assoc, List.cons_append, readBlock,
    stripPrefix?_singleton_cons, Option.bind_some]
  generalize entries.mergeSort (fun a b => byteLe a.name b.name) = sorted at hstatic ⊢
  by_cases hne : sorted = []
  · subst hne
    simp only [List.map_nil, joinWith, List.intercalate_nil, List.nil_append, List.cons_append,
      readPairs_close, Option.getD_none, stripPrefix?_singleton_cons, Option.map_some]
  · simp only [List.cons_append, List.nil_append, readPairs_joinWith hstatic hne, Option.getD_some,
      stripPrefix?_singleton_cons, Option.map_some]

/-- Sorted attributes stand in the order of the bytes of their names. -/
theorem pairwise_mergeSort_byteLe (entries : List Entry) :
    (entries.mergeSort fun a b => byteLe a.name b.name).Pairwise
      fun a b => byteLe a.name b.name = true := by
  simp only [← textLe_eq_byteLe]
  refine List.pairwise_mergeSort (fun _ _ _ => ?_) (fun a b => ?_) entries
  · exact textLe_trans
  · exact textLe_total a.name b.name

/-- Sorting keeps attributes of one name in their order. -/
theorem filter_mergeSort_byteLe (entries : List Entry) (name : List Char) :
    (entries.mergeSort fun a b => byteLe a.name b.name).filter (·.name == name) =
      entries.filter (·.name == name) := by
  have hname : ∀ entry ∈ entries.filter (·.name == name), entry.name = name := fun entry he => by
    simpa using (List.mem_filter.1 he).2
  have hequal : (entries.filter (·.name == name)).Pairwise
      fun a b => textLe a.name b.name = true := by
    refine List.pairwise_of_forall_mem_list fun a ha b hb => ?_
    rw [hname a ha, hname b hb]
    simpa using textLe_total name name
  have hsub : (entries.filter (·.name == name)).Sublist
      (entries.mergeSort fun a b => byteLe a.name b.name) := by
    simp only [← textLe_eq_byteLe]
    refine List.sublist_mergeSort (fun _ _ _ => ?_) (fun a b => ?_) hequal List.filter_sublist
    · exact textLe_trans
    · exact textLe_total a.name b.name
  have hfilter := hsub.filter (·.name == name)
  rw [List.filter_filter] at hfilter
  simp only [Bool.and_self] at hfilter
  refine (hfilter.eq_of_length ?_).symm
  exact ((List.mergeSort_perm entries _).filter _).length_eq.symm

/-- **A block of literal values is read back as its attributes in the order of the bytes of their
names.** Nothing of the block is left over, and attributes of one name stay in their order. -/
theorem read_formatAttributes (h : ∀ entry ∈ entries, entry.value.isDynamic = false) :
    readBlock style (formatAttributes style entries) =
        some (entries.mergeSort (fun a b => byteLe a.name b.name), []) ∧
      (entries.mergeSort fun a b => byteLe a.name b.name).Pairwise
        (fun a b => byteLe a.name b.name = true) ∧
      ∀ name, (entries.mergeSort fun a b => byteLe a.name b.name).filter (·.name == name) =
        entries.filter (·.name == name) := by
  have hstatic : ∀ entry ∈ entries, ∃ value, entry.value = .static value := by
    intro entry he
    cases hv : entry.value with
    | static value => exact ⟨value, rfl⟩
    | dynamic expression =>
      have hfalse := h entry he
      rw [hv] at hfalse
      cases hfalse
  refine ⟨?_, pairwise_mergeSort_byteLe entries, filter_mergeSort_byteLe entries⟩
  rw [← List.append_nil (formatAttributes style entries)]
  exact readBlock_formatAttributes hstatic []

/-- Attributes with an empty name, quotes and separators in names, and interpolations, escapes and
control characters in values. -/
def awkwardEntries : List Entry :=
  [⟨"ü".toList, .static "#$a ##@b # \x7b".toList⟩,
    ⟨"b\" => \"".toList, .static "\\\"\x7d, :a => ".toList⟩,
    ⟨"".toList, .static "\t\n\x7f0".toList⟩, ⟨"b:".toList, .static "1".toList⟩,
    ⟨"ü".toList, .static "\\#\x7b".toList⟩]

/-- They are read back. -/
theorem read_formatAttributes_awkward :
    (∀ entry ∈ awkwardEntries, entry.value.isDynamic = false) ∧
      readBlock .html (formatAttributes .html awkwardEntries) =
        some (awkwardEntries.mergeSort (fun a b => byteLe a.name b.name), []) :=
  ⟨by decide, (read_formatAttributes (by decide)).1⟩

end Blocks

end HtmlToHaml.Haml
