import HtmlToHaml.Proofs.Haml.LongestRun
import HtmlToHaml.Proofs.Text.Case
import HtmlToHaml.Proofs.Text.Search
import HtmlToHaml.Proofs.Text.Words

/-!
# The words of an external identifier

The words between `DTD` and a double slash are found by giving every run as much as it can take, and
a run of characters between spaces may be cut into two words if that helps. The main statements are
that words are found exactly if a text with no more than three runs stands between `DTD` with a
space behind it and a double slash, and that words with spaces between them are found as they are.
-/

namespace HtmlToHaml.Haml

open Text

variable {n : Nat} {found : DocumentType} {accept : List Char → List Char → Option DocumentType}
  {c : Char} {space word rest s : List Char}

section Found

/-- White space in front of a double slash. -/
def ended (found : DocumentType) (s : List Char) : Option DocumentType :=
  longestRun isAsciiSpace (fun _ s => (stripPrefix? slashes s).map fun _ => found) s

/-- White space in front of a word, where both may be empty. -/
def nextWord (accept : List Char → List Char → Option DocumentType) (s : List Char) :
    Option DocumentType :=
  longestRun isAsciiSpace (fun _ s => longestRun isTokenChar accept s) s

/-- Two words that may be empty come after the first one. -/
theorem spacedWords?_eq (s : List Char) :
    spacedWords? s = longestRunOne isAsciiSpace (fun _ s => longestRunOne isTokenChar (fun kind s =>
      nextWord (fun version s => nextWord (fun strictness s =>
        ended ⟨kind, version, strictness⟩ s) s) s) s) s :=
  rfl

/-- A word is made of characters that are no white space. -/
theorem forall_isTokenChar_iff :
    (∀ c ∈ word, isTokenChar c = true) ↔ ∀ c ∈ word, isAsciiSpace c = false := by
  simp only [isTokenChar, Bool.not_eq_true']

/-- A text begins with white space, with so many words that may be empty, each with white space
behind it, and with a double slash. -/
def LeadsToSlashes (n : Nat) (s : List Char) : Prop :=
  ∃ space words after, s = space ++ (words ++ (slashes ++ after)) ∧
    (∀ c ∈ space, isAsciiSpace c = true) ∧ Spaced isAsciiSpace n words

/-- Such a text holds a double slash. -/
theorem LeadsToSlashes.isInfix (h : LeadsToSlashes n s) : slashes <:+: s := by
  obtain ⟨space, words, after, rfl, -, -⟩ := h
  exact ⟨space ++ words, after, by simp⟩

/-- A double slash is found behind white space. -/
theorem isSome_ended : (ended found s).isSome ↔ LeadsToSlashes 0 s := by
  rw [ended, isSome_longestRun]
  simp only [Option.isSome_map, Option.isSome_iff_exists, stripPrefix?_eq_some_iff]
  constructor
  · rintro ⟨space, _, rfl, hspace, after, rfl⟩
    exact ⟨space, [], after, rfl, hspace, .nil⟩
  · rintro ⟨space, _, after, rfl, hspace, ⟨⟩⟩
    exact ⟨space, slashes ++ after, rfl, hspace, after, rfl⟩

/-- One word more is found in front of those that are found without it. -/
theorem isSome_nextWord (h : ∀ word s, (accept word s).isSome ↔ LeadsToSlashes n s) :
    (nextWord accept s).isSome ↔ LeadsToSlashes (n + 1) s := by
  simp only [nextWord, isSome_longestRun, h, forall_isTokenChar_iff]
  constructor
  · rintro ⟨space, _, rfl, hspace, word, _, rfl, hword, gap, words, after, rfl, hgap, hwords⟩
    exact ⟨space, word ++ (gap ++ words), after, by simp, hspace, .cons hword hgap hwords⟩
  · rintro ⟨space, _, after, rfl, hspace, hwords⟩
    cases hwords with
    | @cons _ word gap words hword hgap hwords =>
      exact ⟨space, _, rfl, hspace, word, gap ++ (words ++ (slashes ++ after)), by simp, hword, gap,
        words, after, rfl, hgap, hwords⟩

/-- The last word is found in front of a double slash. -/
theorem isSome_lastWord (kind version s : List Char) :
    (nextWord (fun strictness s => ended ⟨kind, version, strictness⟩ s) s).isSome ↔
      LeadsToSlashes 1 s :=
  isSome_nextWord fun _ _ => isSome_ended

/-- The words behind the first one are found in front of a double slash. -/
theorem isSome_moreWords (kind s : List Char) :
    (nextWord (fun version s => nextWord (fun strictness s =>
      ended ⟨kind, version, strictness⟩ s) s) s).isSome ↔ LeadsToSlashes 2 s :=
  isSome_nextWord (isSome_lastWord kind)

/-- The words are found exactly if no more than three runs stand between white space and a double
slash. -/
theorem isSome_spacedWords? :
    (spacedWords? s).isSome ↔ ∃ space words after, s = space ++ (words ++ (slashes ++ after)) ∧
      space ≠ [] ∧ (∀ c ∈ space, isAsciiSpace c = true) ∧
      (∃ c ∈ words.head?, isAsciiSpace c = false) ∧ (runsBy isAsciiSpace words).length ≤ 3 := by
  simp only [spacedWords?_eq, isSome_longestRunOne, isSome_moreWords, forall_isTokenChar_iff]
  constructor
  · rintro ⟨space, _, hne, rfl, hspace, kind, _, hkind, rfl, hword, gap, words, after, rfl,
      hgap, hwords⟩
    obtain ⟨c, kind, rfl⟩ := List.exists_cons_of_ne_nil hkind
    have hc : isAsciiSpace c = false := hword c List.mem_cons_self
    refine ⟨space, c :: kind ++ (gap ++ words), after, by simp, hne, hspace, ⟨c, rfl, hc⟩, ?_⟩
    exact (spaced_iff (by rintro d ⟨⟩; exact hc)).1 (.cons hword hgap hwords)
  · rintro ⟨space, words, after, rfl, hne, hspace, ⟨c, hhead, hc⟩, hruns⟩
    obtain ⟨words, rfl⟩ := List.head?_eq_some_iff.1 hhead
    obtain ⟨kind, gap, words, he, hkind, hword, hgap, hrest, hall⟩ := exists_first_run hc words
    rw [hall, List.length_cons] at hruns
    refine ⟨space, _, hne, rfl, hspace, kind, gap ++ (words ++ (slashes ++ after)),
      hkind, ?_, hword, gap, words, after, rfl, hgap, (spaced_iff hrest).2 (by omega)⟩
    rw [he, List.append_assoc, List.append_assoc]

/-- Nothing is lost by looking for a double slash first. -/
theorem documentTypeWords?_eq (s : List Char) : documentTypeWords? s = spacedWords? s := by
  rw [documentTypeWords?]
  split
  · rfl
  · rename_i hno
    cases hs : spacedWords? s with
    | none => rfl
    | some found =>
      obtain ⟨space, words, after, rfl, -⟩ := isSome_spacedWords?.1 (Option.isSome_of_eq_some hs)
      rw [contains, Option.not_isSome_iff_eq_none, breakOn_eq_none_iff] at hno
      exact absurd ⟨space ++ words, after, by simp⟩ hno

/-- The words of a document type are found behind any `DTD` with words behind it. -/
theorem isSome_documentType? :
    (documentType? s).isSome ↔
      ∃ before rest, s = before ++ (['D', 'T', 'D'] ++ rest) ∧ (spacedWords? rest).isSome := by
  induction s with
  | nil => simp [documentType?]
  | cons c s ih =>
    rw [documentType?]
    cases hfirst : (stripPrefix? ['D', 'T', 'D'] (c :: s)).bind documentTypeWords? with
    | some found =>
      obtain ⟨rest, hstrip, hwords⟩ := Option.bind_eq_some_iff.1 hfirst
      rw [documentTypeWords?_eq] at hwords
      have he : c :: s = ['D', 'T', 'D'] ++ rest := stripPrefix?_eq_some_iff.1 hstrip
      exact iff_of_true rfl ⟨[], rest, he, Option.isSome_of_eq_some hwords⟩
    | none =>
      rw [ih]
      constructor
      · rintro ⟨before, rest, rfl, hrest⟩
        exact ⟨c :: before, rest, rfl, hrest⟩
      · rintro ⟨before, rest, he, hrest⟩
        cases before with
        | nil =>
          rw [he, List.nil_append, stripPrefix?_append, Option.bind_some,
            documentTypeWords?_eq] at hfirst
          rw [hfirst] at hrest
          cases hrest
        | cons d before =>
          obtain ⟨rfl, rfl⟩ := List.cons.inj he
          exact ⟨before, rest, rfl, hrest⟩

/-- No words are found where there is no white space. -/
theorem spacedWords?_cons (hc : isAsciiSpace c = false) (s : List Char) :
    spacedWords? (c :: s) = none := by
  rw [← Option.not_isSome_iff_eq_none, isSome_spacedWords?]
  rintro ⟨space, words, after, he, hne, hspace, -⟩
  obtain ⟨d, space, rfl⟩ := List.exists_cons_of_ne_nil hne
  obtain ⟨rfl, -⟩ := List.cons.inj he
  rw [hspace c List.mem_cons_self] at hc
  cases hc

/-- The words are read behind the first `DTD`. -/
theorem documentType?_append {before : List Char} (hbefore : ¬ ['D', 'T', 'D'] <:+: before)
    (h : spacedWords? rest = some found) :
    documentType? (before ++ (['D', 'T', 'D'] ++ rest)) = some found := by
  induction before with
  | nil =>
    have hfirst : (stripPrefix? ['D', 'T', 'D'] (['D', 'T', 'D'] ++ rest)).bind documentTypeWords? =
        some found := by rw [stripPrefix?_append, Option.bind_some, documentTypeWords?_eq, h]
    rw [List.nil_append, List.cons_append, documentType?]
    rw [List.cons_append] at hfirst
    rw [hfirst]
  | cons c before ih =>
    have hfirst : (stripPrefix? ['D', 'T', 'D'] (c :: (before ++ (['D', 'T', 'D'] ++ rest)))).bind
        documentTypeWords? = none := by
      rw [Option.bind_eq_none_iff]
      intro after hafter
      have he := stripPrefix?_eq_some_iff.1 hafter
      -- Only the last two characters before could be shared, and then no white space follows.
      match before with
      | [] => simp at he
      | [d] =>
        obtain rfl : 'T' :: 'D' :: rest = after := by simpa using (List.cons.inj (List.cons.inj
          (List.cons.inj he).2).2).2
        exact (documentTypeWords?_eq _).trans (spacedWords?_cons (by decide) _)
      | d :: e :: before =>
        obtain ⟨rfl, rfl, rfl, -⟩ : c = 'D' ∧ d = 'T' ∧ e = 'D' ∧ _ := by simpa using he
        exact absurd ⟨[], before, rfl⟩ hbefore
    rw [List.cons_append, documentType?, hfirst]
    exact ih fun hinfix => hbefore (List.infix_cons hinfix)

/-- An external identifier has a text of no more than three runs between `DTD` with white space
behind it and a double slash. -/
def NamesDocumentType (id : List Char) : Prop :=
  ∃ before space words after,
    id = before ++ ['D', 'T', 'D'] ++ space ++ words ++ ['/', '/'] ++ after ∧
      space ≠ [] ∧ (∀ c ∈ space, isAsciiSpace c = true) ∧
      (∃ c ∈ words.head?, isAsciiSpace c = false) ∧ (runsBy isAsciiSpace words).length ≤ 3

/-- Words are found in the external identifiers that have them. -/
theorem isSome_documentType?_iff (id : List Char) :
    (documentType? id).isSome ↔ NamesDocumentType id := by
  rw [isSome_documentType?]
  simp only [isSome_spacedWords?]
  constructor
  · rintro ⟨before, _, rfl, space, words, after, rfl, h⟩
    exact ⟨before, space, words, after, by simp [slashes], h⟩
  · rintro ⟨before, space, words, after, rfl, h⟩
    refine ⟨before, space ++ (words ++ (slashes ++ after)), ?_, space, words, after, rfl, h⟩
    simp [slashes]

/-- The line of a document type fails exactly if there are no words, and with the identifier. -/
theorem doctype_eq_error_iff (id : List Char) :
    doctype (some id) = .error (.invalidDoctype (String.ofList id)) ↔ ¬ NamesDocumentType id := by
  rw [← isSome_documentType?_iff, Option.not_isSome_iff_eq_none, doctype]
  cases documentType? id <;> simp

end Found

section Read

/-- No run of a word goes on into a text and leaves a double slash behind it. -/
def StopsWord (rest : List Char) : Prop :=
  ∀ more rest', rest = more ++ rest' → more ≠ [] → (∀ c ∈ more, isTokenChar c = true) →
    ¬ slashes <:+: rest'

/-- A character of white space stops a word. -/
theorem stopsWord_cons (hc : isAsciiSpace c = true) (rest : List Char) : StopsWord (c :: rest) := by
  intro more rest' he hne hmore
  obtain ⟨d, more, rfl⟩ := List.exists_cons_of_ne_nil hne
  obtain ⟨rfl, -⟩ := List.cons.inj he
  have hd := hmore c List.mem_cons_self
  rw [isTokenChar, hc] at hd
  cases hd

/-- The last double slash stops a word. -/
theorem stopsWord_slashes (hrest : ¬ slashes <:+: '/' :: rest) : StopsWord (slashes ++ rest) := by
  intro more rest' he hne _ hinfix
  obtain ⟨c, more, rfl⟩ := List.exists_cons_of_ne_nil hne
  obtain ⟨-, he⟩ := List.cons.inj he
  have hback : '/' :: rest = more ++ rest' := he
  exact hrest (hback ▸ hinfix.trans (List.suffix_append more rest').isInfix)

/-- A word is read up to where it is stopped, if a double slash has to follow. -/
theorem longestRun_word (haccept : ∀ word s, (accept word s).isSome → slashes <:+: s)
    (hword : ∀ c ∈ word, isTokenChar c = true) (hrest : StopsWord rest)
    (h : accept word rest = some found) :
    longestRun isTokenChar accept (word ++ rest) = some found := by
  refine longestRun_eq_some_iff.2 ⟨word, rest, rfl, hword, h, fun more rest' he hne hmore => ?_⟩
  rw [← Option.not_isSome_iff_eq_none]
  exact fun hsome => hrest more rest' he hne hmore (haccept _ _ hsome)

/-- White space and a word are read up to where the word is stopped. -/
theorem nextWord_append (haccept : ∀ word s, (accept word s).isSome ↔ LeadsToSlashes n s)
    (hspace : ∀ c ∈ space, isAsciiSpace c = true) (hword : ∀ c ∈ word, isTokenChar c = true)
    (hhead : ∀ c ∈ (word ++ rest).head?, isAsciiSpace c = false) (hrest : StopsWord rest)
    (h : accept word rest = some found) : nextWord accept (space ++ (word ++ rest)) = some found :=
  longestRun_append hspace hhead
    (longestRun_word (fun _ _ hsome => ((haccept _ _).1 hsome).isInfix) hword hrest h)

/-- A word of an external identifier with the white space in front of it. -/
structure SpacedWord where
  /-- The white space in front. -/
  space : List Char
  /-- The word. -/
  word : List Char
  /-- There is white space in front. -/
  space_ne_nil : space ≠ []
  /-- It is nothing else. -/
  isAsciiSpace_space : ∀ c ∈ space, isAsciiSpace c = true
  /-- The word is not empty. -/
  word_ne_nil : word ≠ []
  /-- It holds no white space. -/
  isTokenChar_word : ∀ c ∈ word, isTokenChar c = true
  /-- It is ASCII. -/
  ascii_word : ∀ c ∈ word, c.toNat < 128

namespace SpacedWord

/-- The text of a word with white space in front. -/
def text (word : SpacedWord) : List Char :=
  word.space ++ word.word

/-- The word in lower case. -/
def lowered (word : SpacedWord) : List Char :=
  word.word.map Char.toLower

/-- The white space in front stops the word before. -/
theorem stopsWord_text (word : SpacedWord) (rest : List Char) : StopsWord (word.text ++ rest) := by
  obtain ⟨c, space, hspace⟩ := List.exists_cons_of_ne_nil word.space_ne_nil
  have hc := word.isAsciiSpace_space c (by rw [hspace]; exact List.mem_cons_self)
  rw [text, hspace]
  exact stopsWord_cons hc _

/-- Behind the white space in front comes a character that is none. -/
theorem head?_word_append (word : SpacedWord) (rest : List Char) :
    ∀ c ∈ (word.word ++ rest).head?, isAsciiSpace c = false := by
  obtain ⟨c, more, hword⟩ := List.exists_cons_of_ne_nil word.word_ne_nil
  have hc := forall_isTokenChar_iff.1 word.isTokenChar_word c
    (by rw [hword]; exact List.mem_cons_self)
  rw [hword]
  rintro d ⟨⟩
  exact hc

end SpacedWord

/-- An external identifier with up to three words between its first `DTD` and its last double slash;
the words may hold slashes of their own. -/
structure PublicId where
  /-- What stands in front of `DTD`. -/
  before : List Char
  /-- The first word. -/
  kind : SpacedWord
  /-- The words behind it. -/
  more : List SpacedWord
  /-- The white space in front of the double slash. -/
  gap : List Char
  /-- What stands behind the double slash. -/
  after : List Char
  /-- There is no `DTD` before. -/
  not_isInfix_before : ¬ ['D', 'T', 'D'] <:+: before
  /-- There are no more than two further words. -/
  length_more : more.length ≤ 2
  /-- Only white space stands in front of the double slash. -/
  isAsciiSpace_gap : ∀ c ∈ gap, isAsciiSpace c = true
  /-- There is no double slash after, not even with the last slash of the double slash. -/
  not_isInfix_after : ¬ ['/', '/'] <:+: '/' :: after

namespace PublicId

/-- The text of an external identifier. -/
def text (id : PublicId) : List Char :=
  id.before ++ ['D', 'T', 'D'] ++ id.kind.text ++ id.more.flatMap SpacedWord.text ++ id.gap ++
    ['/', '/'] ++ id.after

/-- Whether it is about HTML, in any case. -/
def isHtml (id : PublicId) : Bool :=
  id.kind.lowered == "html".toList

/-- The version, which HTML does not have. -/
def version? (id : PublicId) : Option (List Char) :=
  if id.isHtml then none else id.more[0]?.map SpacedWord.lowered

/-- The strictness, which HTML has anyway. -/
def strictness? (id : PublicId) : Option (List Char) :=
  match id.more[1]? with
  | some word => some word.lowered
  | none => if id.isHtml then some "strict".toList else none

/-- A word with its first letter in upper case. -/
def titled : List Char → List Char
  | [] => []
  | c :: rest => c.toUpper :: rest

/-- A word of the line, if there is one and it is not the one that goes without saying. -/
def written (default : List Char) : Option (List Char) → List Char
  | none => []
  | some word => if word = default then [] else ' ' :: titled word

/-- The line for an external identifier. -/
def line (id : PublicId) : List Char :=
  "!!!".toList ++ written "1.0".toList id.version? ++
    written "transitional".toList id.strictness?

variable (id : PublicId)

/-- The double slash stops a word. -/
theorem stopsWord_slashes_after : StopsWord (slashes ++ id.after) :=
  stopsWord_slashes id.not_isInfix_after

/-- What stands behind the words stops the last of them. -/
theorem stopsWord_gap : StopsWord (id.gap ++ (slashes ++ id.after)) := by
  have hgap := id.isAsciiSpace_gap
  cases hg : id.gap with
  | nil => exact id.stopsWord_slashes_after
  | cons c gap =>
    rw [hg] at hgap
    exact stopsWord_cons (hgap c List.mem_cons_self) _

/-- A word that is absent is read as the empty word. -/
theorem nextWord_gap (haccept : ∀ word s, (accept word s).isSome ↔ LeadsToSlashes n s)
    (hspace : ∀ c ∈ space, isAsciiSpace c = true)
    (h : accept [] (slashes ++ id.after) = some found) :
    nextWord accept (space ++ (slashes ++ id.after)) = some found := by
  have hnone : ∀ c ∈ ([] : List Char), isTokenChar c = true := by simp
  have hhead : ∀ c ∈ ([] ++ (slashes ++ id.after)).head?, isAsciiSpace c = false := by
    rintro c ⟨⟩
    decide
  change nextWord accept (space ++ ([] ++ (slashes ++ id.after))) = some found
  exact nextWord_append haccept hspace hnone hhead id.stopsWord_slashes_after h

/-- The words end at the double slash. -/
theorem ended_append (found : DocumentType) (hspace : ∀ c ∈ space, isAsciiSpace c = true) :
    ended found (space ++ (slashes ++ id.after)) = some found :=
  longestRun_append hspace (by rintro c ⟨⟩; decide) (by rw [stripPrefix?_append]; rfl)

end PublicId

/-- A word is read. -/
theorem SpacedWord.nextWord_text (word : SpacedWord)
    (haccept : ∀ word s, (accept word s).isSome ↔ LeadsToSlashes n s) (hrest : StopsWord rest)
    (h : accept word.word rest = some found) :
    nextWord accept (word.text ++ rest) = some found := by
  rw [SpacedWord.text, List.append_assoc]
  exact nextWord_append haccept word.isAsciiSpace_space word.isTokenChar_word
    (word.head?_word_append rest) hrest h

/-- The first word is read. -/
theorem SpacedWord.spacedWords?_text (kind : SpacedWord) (hrest : StopsWord rest)
    (h : nextWord (fun version s => nextWord (fun strictness s =>
      ended ⟨kind.word, version, strictness⟩ s) s) rest = some found) :
    spacedWords? (kind.text ++ rest) = some found := by
  rw [spacedWords?_eq, longestRunOne, SpacedWord.text, List.append_assoc]
  refine longestRun_append kind.isAsciiSpace_space (kind.head?_word_append rest) ?_
  rw [if_neg (by simpa using kind.space_ne_nil), longestRunOne]
  refine longestRun_word (fun word s hsome => ?_) kind.isTokenChar_word hrest ?_
  · split at hsome
    · cases hsome
    · exact ((isSome_moreWords word s).1 hsome).isInfix
  · rw [if_neg (by simpa using kind.word_ne_nil), h]

namespace PublicId

variable (id : PublicId)

/-- The words of an external identifier are read as they are. -/
theorem spacedWords?_words :
    spacedWords? (id.kind.text ++ (id.more.flatMap SpacedWord.text ++
      (id.gap ++ (slashes ++ id.after)))) =
      some ⟨id.kind.word, (id.more[0]?.map SpacedWord.word).getD [],
        (id.more[1]?.map SpacedWord.word).getD []⟩ := by
  have hgap := id.isAsciiSpace_gap
  have hnone : ∀ c ∈ ([] : List Char), isAsciiSpace c = true := by simp
  have hlength := id.length_more
  match hmore : id.more with
  | [] =>
    refine id.kind.spacedWords?_text id.stopsWord_gap ?_
    refine id.nextWord_gap (isSome_lastWord _) hgap ?_
    exact id.nextWord_gap (fun _ _ => isSome_ended) hnone (id.ended_append _ hnone)
  | [version] =>
    rw [List.flatMap_singleton]
    refine id.kind.spacedWords?_text (version.stopsWord_text _) ?_
    refine version.nextWord_text (isSome_lastWord _) id.stopsWord_gap ?_
    exact id.nextWord_gap (fun _ _ => isSome_ended) hgap (id.ended_append _ hnone)
  | [version, strictness] =>
    rw [List.flatMap_cons, List.flatMap_singleton, List.append_assoc]
    refine id.kind.spacedWords?_text (version.stopsWord_text _) ?_
    refine version.nextWord_text (isSome_lastWord _) (strictness.stopsWord_text _) ?_
    exact strictness.nextWord_text (fun _ _ => isSome_ended) id.stopsWord_gap
      (id.ended_append _ hgap)
  | _ :: _ :: _ :: _ =>
    rw [hmore] at hlength
    simp at hlength

/-- The words of an external identifier are those of its document type. -/
theorem documentType?_text :
    documentType? id.text = some ⟨id.kind.word, (id.more[0]?.map SpacedWord.word).getD [],
      (id.more[1]?.map SpacedWord.word).getD []⟩ := by
  have he : id.text = id.before ++ (['D', 'T', 'D'] ++ (id.kind.text ++
      (id.more.flatMap SpacedWord.text ++ (id.gap ++ (slashes ++ id.after))))) := by
    simp [text, slashes]
  rw [he]
  exact documentType?_append id.not_isInfix_before id.spacedWords?_words

/-- An ASCII word is capitalized by its first letter. -/
theorem capitalize_of_ascii (hword : ∀ c ∈ word, c.toNat < 128) :
    capitalize word = titled word := by
  cases word with
  | nil => rfl
  | cons c word => rw [capitalize, upperChar_of_ascii (hword c List.mem_cons_self)]; rfl

/-- A word in lower case is not empty, and ASCII. -/
theorem lowered_spec (word : SpacedWord) :
    word.lowered ≠ [] ∧ (∀ c ∈ word.lowered, c.toNat < 128) ∧ toLower word.word = word.lowered := by
  refine ⟨by simpa [SpacedWord.lowered] using word.word_ne_nil, fun c hc => ?_,
    toLower_of_ascii word.ascii_word⟩
  obtain ⟨d, hd, rfl⟩ := List.mem_map.1 hc
  exact toNat_toLower_lt (word.ascii_word d hd)

/-- A word that may be absent is shown as it is written. -/
theorem shownWord_getD (default : List Char) {word? : Option (List Char)}
    (h : ∀ word ∈ word?, word ≠ [] ∧ ∀ c ∈ word, c.toNat < 128) :
    shownWord default (word?.getD []) = written default word? := by
  cases word? with
  | none => rfl
  | some word =>
    obtain ⟨hne, hascii⟩ := h word rfl
    rw [Option.getD_some, shownWord, capitalize_of_ascii hascii, written]
    simp [hne]

/-- The version that is shown is a word. -/
theorem version?_spec : ∀ word ∈ id.version?, word ≠ [] ∧ ∀ c ∈ word, c.toNat < 128 := by
  intro word hword
  rw [version?] at hword
  split at hword
  · cases hword
  · obtain ⟨version, -, rfl⟩ := Option.map_eq_some_iff.1 hword
    exact ⟨(lowered_spec version).1, (lowered_spec version).2.1⟩

/-- The strictness that is shown is a word. -/
theorem strictness?_spec : ∀ word ∈ id.strictness?, word ≠ [] ∧ ∀ c ∈ word, c.toNat < 128 := by
  intro word hword
  rw [strictness?] at hword
  split at hword
  · rename_i strictness _
    cases hword
    exact ⟨(lowered_spec strictness).1, (lowered_spec strictness).2.1⟩
  · split at hword
    · cases hword
      simp
    · cases hword

/-- The line for the words of an external identifier is its line. -/
theorem documentTypeLine_words :
    documentTypeLine ⟨id.kind.word, (id.more[0]?.map SpacedWord.word).getD [],
      (id.more[1]?.map SpacedWord.word).getD []⟩ = id.line := by
  have hlower : ∀ word? : Option SpacedWord, toLower ((word?.map SpacedWord.word).getD []) =
      (word?.map SpacedWord.lowered).getD [] := by
    rintro (_ | word)
    · rfl
    · exact (lowered_spec word).2.2
  have hhtml : (toLower id.kind.word == ['h', 't', 'm', 'l']) = id.isHtml := by
    rw [(lowered_spec id.kind).2.2]
    rfl
  have hversion : (if id.isHtml then [] else toLower ((id.more[0]?.map SpacedWord.word).getD [])) =
      id.version?.getD [] := by
    rw [hlower, version?]
    split <;> rfl
  have hstrictness : (if id.isHtml && (toLower ((id.more[1]?.map SpacedWord.word).getD [])).isEmpty
      then "strict".toList else toLower ((id.more[1]?.map SpacedWord.word).getD [])) =
      id.strictness?.getD [] := by
    rw [hlower, strictness?]
    cases id.more[1]? with
    | none => cases id.isHtml <;> rfl
    | some word => simp [(lowered_spec word).1]
  rw [documentTypeLine, hhtml, hversion, hstrictness, shownWord_getD _ id.version?_spec,
    shownWord_getD _ id.strictness?_spec, line]
  rfl

end PublicId

end Read

/-- **An external identifier is an error exactly if no text of up to three runs stands between `DTD`
with white space behind it and a double slash, and the line for one with up to three words there is
made of its words.** -/
theorem doctype_words :
    (∀ id : List Char, doctype (some id) = .error (.invalidDoctype (String.ofList id)) ↔
      ¬ NamesDocumentType id) ∧
    ∀ id : PublicId, doctype (some id.text) = .ok id.line := by
  refine ⟨doctype_eq_error_iff, fun id => ?_⟩
  rw [doctype, id.documentType?_text]
  exact congrArg Except.ok id.documentTypeLine_words

/-- A word with a space in front. -/
def SpacedWord.spaced (word : List Char) (hne : word ≠ []) (hword : word.all isTokenChar = true)
    (hascii : (word.all fun c => c.toNat < 128) = true) : SpacedWord where
  space := [' ']
  word := word
  space_ne_nil := List.cons_ne_nil _ _
  isAsciiSpace_space := List.forall_mem_singleton.2 rfl
  word_ne_nil := hne
  isTokenChar_word := List.all_eq_true.1 hword
  ascii_word c hc := by simpa using List.all_eq_true.1 hascii c hc

/-- The identifier of a variant of XHTML for mobile devices, which has all three words. -/
def mobileId : PublicId where
  before := "-//WAPFORUM//".toList
  kind := .spaced "XHTML".toList (by decide) (by decide) (by decide)
  more := [.spaced "Mobile".toList (by decide) (by decide) (by decide),
    .spaced "1.2".toList (by decide) (by decide) (by decide)]
  gap := []
  after := "EN".toList
  not_isInfix_before := by decide
  length_more := by decide
  isAsciiSpace_gap := by simp
  not_isInfix_after := by decide

/-- The variant and its version are shown. -/
theorem doctype_mobileId : doctype (some mobileId.text) = .ok "!!! Mobile 1.2".toList :=
  (doctype_words.2 mobileId).trans (by decide)

end HtmlToHaml.Haml
