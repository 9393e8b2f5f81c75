import HtmlToHaml.Haml.Outline
import HtmlToHaml.Proofs.Haml.LongestRun

/-!
# What stays on one line

A Ruby literal, the header of an element, the line in front of a word and the line for a document
type hold no line feed, whatever text goes into them. Literals escape it; short forms are
identifiers; the words of a document type are made of characters that are no white space, and no
change of case leads to a line feed.
-/

namespace HtmlToHaml.Haml

open Text

section Literals

/-- A hexadecimal digit lies between the digit zero and the letter F. -/
theorem hexDigit_range : ∀ n < 16,
    48 ≤ (Encoding.hexDigit n).toNat ∧ (Encoding.hexDigit n).toNat ≤ 70 := by
  decide

/-- A byte is two characters between the digit zero and the letter F. -/
theorem hexPair_range {byte : UInt8} {d : Char} (hd : d ∈ Encoding.hexPair byte) :
    48 ≤ d.toNat ∧ d.toNat ≤ 70 := by
  have hbyte : byte.toNat < 256 := byte.toNat_lt
  simp only [Encoding.hexPair, List.mem_cons, List.not_mem_nil, or_false] at hd
  rcases hd with rfl | rfl
  · exact hexDigit_range _ (by omega)
  · exact hexDigit_range _ (by omega)

/-- An escaped character holds no control character. -/
theorem shown_rubyEscapeChar {c d : Char} {rest : List Char} (hd : d ∈ rubyEscapeChar c rest) :
    ¬ (d.toNat < 0x20 ∨ d.toNat = 0x7F) := by
  have hpair : ∀ e : Char, ¬ (e.toNat < 0x20 ∨ e.toNat = 0x7F) → d ∈ ['\\', e] →
      ¬ (d.toNat < 0x20 ∨ d.toNat = 0x7F) := by
    intro e he hm
    rw [List.mem_cons, List.mem_singleton] at hm
    rcases hm with rfl | rfl
    · decide
    · exact he
  rw [rubyEscapeChar] at hd
  split at hd
  · exact hpair _ (by decide) hd
  split at hd
  · exact hpair _ (by decide) hd
  split at hd
  · exact hpair _ (by decide) hd
  split at hd
  · exact hpair _ (by decide) hd
  split at hd
  · exact hpair _ (by decide) hd
  split at hd
  · exact hpair _ (by decide) hd
  split at hd
  · rw [List.mem_cons, List.mem_cons] at hd
    rcases hd with rfl | rfl | hd
    · decide
    · decide
    · have hrange := hexPair_range hd
      omega
  · rename_i hcontrol
    rw [List.mem_singleton] at hd
    rwa [hd]

/-- An escaped text holds no control character. -/
theorem shown_rubyEscape {d : Char} {s : List Char} (hd : d ∈ rubyEscape s) :
    ¬ (d.toNat < 0x20 ∨ d.toNat = 0x7F) := by
  induction s with
  | nil => cases hd
  | cons c s ih =>
    rw [rubyEscape, List.mem_append] at hd
    rcases hd with hd | hd
    · exact shown_rubyEscapeChar hd
    · exact ih hd

/-- A literal stands on one line. -/
theorem newline_not_mem_rubyString (s : List Char) : '\n' ∉ rubyString s := by
  have hinside : '\n' ∉ rubyEscape s := fun hn => shown_rubyEscape hn (by decide)
  simp [rubyString, hinside]

/-- The line in front of a word ends in a line feed. -/
theorem succeedLine_eq (word : List Char) :
    succeedLine word = "= succeed ".toList ++ rubyString word ++ " do".toList ++ ['\n'] := by
  have hdo : " do\n".toList = " do".toList ++ ['\n'] := by decide
  unfold succeedLine
  simp only [hdo, List.append_assoc]

/-- The line in front of a word is one line. -/
theorem exists_succeedLine (word : List Char) :
    ∃ line, succeedLine word = line ++ ['\n'] ∧ '\n' ∉ line := by
  refine ⟨_, succeedLine_eq word, ?_⟩
  simp only [List.mem_append, not_or]
  exact ⟨⟨by decide, newline_not_mem_rubyString word⟩, by decide⟩

end Literals

section Headers

variable {name value : List Char} {style : AttributeStyle}

/-- An identifier holds no line feed. -/
theorem newline_not_mem_of_isCssIdentifier (h : isCssIdentifier name = true) : '\n' ∉ name := by
  intro hn
  rw [isCssIdentifier, Bool.and_eq_true, List.all_eq_true] at h
  exact absurd (h.2 _ hn) (by decide)

/-- A word holds no line feed. -/
theorem newline_not_mem_of_isWord (h : isWord name = true) : '\n' ∉ name := by
  intro hn
  rw [isWord, Bool.and_eq_true, List.all_eq_true] at h
  exact absurd (h.2 _ hn) (by decide)

/-- A pair stands on one line if its value does. -/
theorem newline_not_mem_formatPair (hv : '\n' ∉ value) : '\n' ∉ formatPair style name value := by
  have hquoted := newline_not_mem_rubyString name
  cases style with
  | html =>
    rw [formatPair]
    split
    · rename_i hn
      simp [newline_not_mem_of_isCssIdentifier hn, hv]
    · simp [hquoted, hv]
  | symbol =>
    rw [formatPair]
    split
    · rename_i hn
      simp [newline_not_mem_of_isWord hn, hv]
    · simp [hquoted, hv]
  | ruby19 =>
    rw [formatPair]
    split
    · rename_i hn
      simp [newline_not_mem_of_isWord hn, hv]
    · simp [hquoted, hv]

/-- Joined texts stand on one line if the texts and the separator do. -/
theorem newline_not_mem_joinWith {separator : List Char} {parts : List (List Char)}
    (hs : '\n' ∉ separator) (hp : ∀ part ∈ parts, '\n' ∉ part) :
    '\n' ∉ joinWith separator parts := by
  rw [joinWith]
  induction parts with
  | nil => simp
  | cons part rest ih =>
    cases rest with
    | nil => simpa using hp part (by simp)
    | cons next rest =>
      rw [List.intercalate_cons_cons]
      simp only [List.mem_append, not_or]
      exact ⟨⟨hp part (by simp), hs⟩, ih fun part hm => hp part (List.mem_cons_of_mem _ hm)⟩

/-- A block stands on one line if its values do. -/
theorem newline_not_mem_formatAttributes {entries : List Entry}
    (h : ∀ entry ∈ entries, '\n' ∉ entry.value.toRuby) : '\n' ∉ formatAttributes style entries := by
  have hpairs : ∀ pair ∈ (entries.mergeSort fun a b => textLe a.name b.name).map
      fun entry => formatPair style entry.name entry.value.toRuby, '\n' ∉ pair := by
    intro pair hp
    obtain ⟨entry, he, rfl⟩ := List.mem_map.1 hp
    exact newline_not_mem_formatPair (h entry (List.mem_mergeSort.1 he))
  cases style with
  | html => simpa [formatAttributes] using newline_not_mem_joinWith (by decide) hpairs
  | symbol => simpa [formatAttributes] using newline_not_mem_joinWith (by decide) hpairs
  | ruby19 => simpa [formatAttributes] using newline_not_mem_joinWith (by decide) hpairs

/-- The short forms are identifiers. -/
theorem isCssIdentifier_shorthand {entries : List Entry} :
    (∀ id ∈ (Shorthand.of entries).id, isCssIdentifier id = true) ∧
      ∀ token ∈ (Shorthand.of entries).classes, isCssIdentifier token = true := by
  constructor
  · intro id hid
    exact (Option.filter_eq_some_iff.1 hid).2
  · intro token ht
    rw [Shorthand.of] at ht
    cases hc : staticValue? entries className with
    | none => simp [hc] at ht
    | some value =>
      simp only [hc, Option.map_some, Option.getD_some, splitClasses,
        List.partition_eq_filter_filter] at ht
      exact (List.mem_filter.1 ht).2

/-- The block holds attributes of the element, and static ones. -/
theorem mem_block_shorthand {entries : List Entry} {entry : Entry}
    (h : entry ∈ (Shorthand.of entries).block) :
    entry ∈ entries ∨ ∃ text, entry.value = .static text := by
  have hid : ∀ {id}, entry ∈ withoutId id entries → entry ∈ entries := by
    intro id he
    rw [withoutId] at he
    split at he
    · exact (List.mem_filter.1 he).1
    · exact he
  rw [Shorthand.of] at h
  cases hc : staticValue? entries className with
  | none =>
    simp only [hc, Option.map_none, withClasses] at h
    exact Or.inl (hid h)
  | some value =>
    simp only [hc, Option.map_some, withClasses, List.mem_append] at h
    rcases h with h | h
    · exact Or.inl (hid (List.mem_filter.1 h).1)
    · split at h
      · exact absurd h List.not_mem_nil
      · rw [List.mem_singleton.1 h]
        exact Or.inr ⟨_, rfl⟩

/-- Without scripts, the block holds static attributes only. -/
theorem exists_static_of_mem_block {attributes : List DocTree.Attribute} {entry : Entry}
    (h : entry ∈ (Shorthand.of (entries attributes false)).block) :
    ∃ text, entry.value = .static text := by
  rcases mem_block_shorthand h with hm | hs
  · obtain ⟨a, -, rfl⟩ := List.mem_map.1 hm
    exact ⟨_, rfl⟩
  · exact hs

/-- A header without scripts stands on one line if the name of the element does. -/
theorem newline_not_mem_header {attributes : List DocTree.Attribute} {nuked selfClosing : Bool}
    (hn : '\n' ∉ name) :
    '\n' ∉ header style name (Shorthand.of (entries attributes false)) nuked selfClosing := by
  obtain ⟨hid, hclasses⟩ := @isCssIdentifier_shorthand (entries attributes false)
  have hblock : ∀ entry ∈ (Shorthand.of (entries attributes false)).block,
      '\n' ∉ entry.value.toRuby := by
    intro entry he
    obtain ⟨text, ht⟩ := exists_static_of_mem_block he
    rw [ht]
    exact newline_not_mem_rubyString text
  rw [header]
  simp only [List.mem_append, not_or]
  refine ⟨⟨⟨⟨⟨?_, ?_⟩, ?_⟩, ?_⟩, ?_⟩, ?_⟩
  · split <;> simp [hn]
  · cases hs : (Shorthand.of (entries attributes false)).id with
    | none => simp
    | some id => simpa using newline_not_mem_of_isCssIdentifier (hid id hs)
  · simp only [List.mem_flatMap, List.mem_cons, not_exists, not_and, not_or]
    exact fun token ht => ⟨by decide, newline_not_mem_of_isCssIdentifier (hclasses token ht)⟩
  · split
    · simp
    · exact newline_not_mem_formatAttributes hblock
  · split <;> simp
  · split <;> simp

end Headers

section DocumentTypes

/-- A token holds no line feed. -/
theorem newline_not_mem_token {run : List Char} (h : ∀ c ∈ run, isTokenChar c = true) :
    '\n' ∉ run :=
  fun hn => absurd (h _ hn) (by decide)

/-- The words of a document type hold no line feed. -/
theorem newline_not_mem_documentType {s : List Char} {found : DocumentType}
    (h : documentType? s = some found) : '\n' ∉ found.version ∧ '\n' ∉ found.strictness := by
  induction s with
  | nil => cases h
  | cons c s ih =>
    rw [documentType?] at h
    split at h
    · rename_i words hw
      cases h
      obtain ⟨after, -, hwords⟩ := Option.bind_eq_some_iff.1 hw
      rw [documentTypeWords?] at hwords
      split at hwords
      · obtain ⟨_, _, -, hspace⟩ := longestRunOne_eq_some_iff.1 hwords
        obtain ⟨_, _, -, hkind⟩ := longestRunOne_eq_some_iff.1 hspace.accepted
        obtain ⟨_, _, hspace⟩ := exists_longest hkind.accepted
        obtain ⟨version, _, hversion⟩ := exists_longest hspace.accepted
        obtain ⟨_, _, hspace⟩ := exists_longest hversion.accepted
        obtain ⟨strictness, _, hstrictness⟩ := exists_longest hspace.accepted
        obtain ⟨_, _, hspace⟩ := exists_longest hstrictness.accepted
        obtain ⟨_, -, rfl⟩ := Option.map_eq_some_iff.1 hspace.accepted
        exact ⟨newline_not_mem_token hversion.all, newline_not_mem_token hstrictness.all⟩
      · cases hwords
    · exact ih h

/-- Only its own number stands for a line feed. -/
theorem eq_ten_of_ofNat_eq {n : Nat} (h : Char.ofNat n = '\n') : n = 10 := by
  by_cases hn : n.isValidChar
  · rw [Char.ofNat, dif_pos hn] at h
    exact congrArg Char.toNat h
  · rw [Char.ofNat, dif_neg hn] at h
    exact absurd h (by decide)

/-- A run leads to numbers above the line feed. -/
def aboveNewline (run : CaseRun) : Bool :=
  10 < (run.first : Int) + run.offset

/-- A change of case leads to no line feed, if its tables lead to none. -/
theorem newline_not_mem_mapCase {runs : List CaseRun} {long : List (Nat × List Nat)} {c : Char}
    (hr : runs.all aboveNewline = true)
    (hl : (long.all fun entry => entry.2.all fun code => Char.ofNat code != '\n') = true)
    (hc : c ≠ '\n') : '\n' ∉ mapCase runs long c := by
  rw [mapCase]
  split
  · rename_i codes hcodes
    intro hn
    obtain ⟨code, hcode, he⟩ := List.mem_map.1 hn
    obtain ⟨before, after, rfl, -⟩ := List.lookup_eq_some_iff.1 hcodes
    have hentry := List.all_eq_true.1 hl (c.toNat, codes) (by simp)
    have hne := List.all_eq_true.1 hentry code hcode
    simp [he] at hne
  · intro hn
    rw [List.mem_singleton] at hn
    cases hm : mapRun? runs c.toNat with
    | none => exact hc (by simpa [hm] using hn.symm)
    | some code =>
      rw [hm, Option.map_some, Option.getD_some] at hn
      have hten := eq_ten_of_ofNat_eq hn.symm
      obtain ⟨run, hrun, rfl⟩ := Option.map_eq_some_iff.1 hm
      have habove := List.all_eq_true.1 hr run (List.mem_of_find?_eq_some hrun)
      have hin := List.find?_some hrun
      simp only [aboveNewline, Bool.and_eq_true, decide_eq_true_eq] at habove hin
      omega

/-- The upper case of a character is no line feed. -/
theorem newline_not_mem_upperChar {c : Char} (hc : c ≠ '\n') : '\n' ∉ upperChar c :=
  newline_not_mem_mapCase (by decide +kernel) (by decide +kernel) hc

/-- The lower case of a character is no line feed. -/
theorem newline_not_mem_lowerChar {c : Char} (hc : c ≠ '\n') : '\n' ∉ lowerChar c :=
  newline_not_mem_mapCase (by decide +kernel) (by decide +kernel) hc

/-- A text in lower case has no line feed of its own. -/
theorem newline_not_mem_toLower {s : List Char} (h : '\n' ∉ s) : '\n' ∉ toLower s := by
  rw [toLower]
  generalize [] = before
  induction s generalizing before with
  | nil => simp [lowerAfter]
  | cons c rest ih =>
    rw [List.mem_cons, not_or] at h
    rw [lowerAfter, List.mem_append, not_or]
    refine ⟨?_, ih h.2 _⟩
    split
    · decide
    · exact newline_not_mem_lowerChar (Ne.symm h.1)

/-- A capitalized text has no line feed of its own. -/
theorem newline_not_mem_capitalize {s : List Char} (h : '\n' ∉ s) : '\n' ∉ capitalize s := by
  cases s with
  | nil => simp [capitalize]
  | cons c rest =>
    rw [List.mem_cons, not_or] at h
    rw [capitalize, List.mem_append, not_or]
    exact ⟨newline_not_mem_upperChar (Ne.symm h.1), h.2⟩

/-- A word of the document type line has no line feed of its own. -/
theorem newline_not_mem_shownWord {default word : List Char} (h : '\n' ∉ word) :
    '\n' ∉ shownWord default word := by
  rw [shownWord]
  split
  · simp
  · simp [newline_not_mem_capitalize h]

/-- The line for a document type is one line. -/
theorem newline_not_mem_doctype {externalId : Option (List Char)} {line : List Char}
    (h : doctype externalId = .ok line) : '\n' ∉ line := by
  cases externalId with
  | none =>
    cases h
    decide
  | some id =>
    rw [doctype] at h
    split at h
    · rename_i found hfound
      obtain ⟨hversion, hstrictness⟩ := newline_not_mem_documentType hfound
      cases h
      rw [documentTypeLine]
      simp only [List.mem_cons, List.mem_append, not_or]
      refine ⟨⟨by decide, by decide, by decide, newline_not_mem_shownWord ?_⟩,
        newline_not_mem_shownWord ?_⟩
      · split
        · simp
        · exact newline_not_mem_toLower hversion
      · split
        · decide
        · exact newline_not_mem_toLower hstrictness
    · cases h

/-- The line for a document type begins with three exclamation marks. -/
theorem exists_doctype_eq {externalId : Option (List Char)} {line : List Char}
    (h : doctype externalId = .ok line) : ∃ rest, line = '!' :: '!' :: '!' :: rest := by
  cases externalId with
  | none =>
    cases h
    exact ⟨[], rfl⟩
  | some id =>
    rw [doctype] at h
    split at h
    · cases h
      exact ⟨_, rfl⟩
    · cases h

end DocumentTypes

end HtmlToHaml.Haml
