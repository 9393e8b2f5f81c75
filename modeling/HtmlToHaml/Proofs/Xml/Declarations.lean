import HtmlToHaml.Proofs.Text.Lines
import HtmlToHaml.Proofs.Text.Slices
import HtmlToHaml.Xml.Literals

/-!
# Document type declarations are read as they are written

A declaration is written as a name, a keyword in letters of either case and literals in quotation
marks, with white space in between. Whatever it says can be read from it again: a literal may hold
white space, keywords and quotation marks of the other kind. The search with slices of the text
comes to the same answer, and none of its slices fails.
-/

namespace HtmlToHaml.Xml

open Text

variable {s front body rest more text literal name gap keyword word other before after : List Char}
  {literals : List (List Char)} {declared : Declared} {c d q : Char} {turns : Nat}

section Quotes

/-- There are two quotation marks. -/
theorem isQuote_iff : isQuote q = true ↔ q = '"' ∨ q = '\'' := by
  rw [isQuote, Bool.or_eq_true, beq_iff_eq, beq_iff_eq]

/-- A quotation mark is no white space. -/
theorem isSpace_of_isQuote (hq : isQuote q = true) : isSpace q = false := by
  rcases isQuote_iff.1 hq with rfl | rfl
  · decide
  · decide

/-- A quotation mark has one byte. -/
theorem byteLength_quote (hq : isQuote q = true) : byteLength [q] = 1 := by
  rcases isQuote_iff.1 hq with rfl | rfl
  · decide
  · decide

/-- White space holds no quotation mark. -/
theorem isQuote_of_isBlank (hs : isBlank s = true) : ∀ c ∈ s, isQuote c = false := by
  intro c hc
  refine Bool.eq_false_iff.2 fun hq => ?_
  cases (isSpace_of_isQuote hq).symm.trans (List.all_eq_true.1 hs c hc)

/-- The search for a quotation mark ends at one, and skips what stands in front of it. -/
theorem of_dropWhile_eq_cons (h : s.dropWhile (!isQuote ·) = q :: body) :
    isQuote q = true ∧ s = s.takeWhile (!isQuote ·) ++ q :: body := by
  have hnot := List.head?_dropWhile_not (!isQuote ·) s
  rw [h] at hnot
  refine ⟨by simpa using hnot, ?_⟩
  rw [← h, List.takeWhile_append_dropWhile]

/-- A text without quotation marks is skipped in front of one. -/
theorem dropWhile_append_quote (hfront : ∀ c ∈ front, isQuote c = false) (hq : isQuote q = true)
    (body : List Char) : (front ++ q :: body).dropWhile (!isQuote ·) = q :: body := by
  have hall : ∀ c ∈ front, (!isQuote c) = true := fun c hc => by rw [hfront c hc]; rfl
  rw [List.dropWhile_append_of_pos hall, List.dropWhile_cons_of_neg (by simp [hq])]

end Quotes

section Literals

/-- Without a quotation mark there is no literal. -/
theorem quotedLiterals_of_dropWhile (h : s.dropWhile (!isQuote ·) = []) :
    quotedLiterals s = [] := by
  rw [quotedLiterals]
  split
  · rfl
  · rename_i hcons
    cases h.symm.trans hcons

/-- A literal ends at the next quotation mark of its kind, and behind it goes on the search. -/
theorem quotedLiterals_of_breakOn (hs : s.dropWhile (!isQuote ·) = q :: body)
    (h : breakOn [q] body = some (literal, rest)) :
    quotedLiterals s = literal :: quotedLiterals rest := by
  rw [quotedLiterals]
  split
  · rename_i hnil
    cases hs.symm.trans hnil
  · rename_i hcons
    obtain ⟨rfl, rfl⟩ := List.cons.inj (hs.symm.trans hcons)
    split
    · rename_i hcut
      obtain ⟨rfl, rfl⟩ := Prod.mk.inj (Option.some.inj (h.symm.trans hcut))
      rfl
    · rename_i hcut
      cases h.symm.trans hcut

/-- A quotation mark that is never closed ends the search. -/
theorem quotedLiterals_of_breakOn_eq_none (hs : s.dropWhile (!isQuote ·) = q :: body)
    (h : breakOn [q] body = none) : quotedLiterals s = [] := by
  rw [quotedLiterals]
  split
  · rfl
  · rename_i hcons
    obtain ⟨rfl, rfl⟩ := List.cons.inj (hs.symm.trans hcons)
    split
    · rename_i hcut
      cases h.symm.trans hcut
    · rfl

/-- **The search with slices finds the literals of a text**, and none of its slices fails. -/
theorem sliceLiterals_eq (h : s.length < turns) :
    sliceLiterals turns s = some (quotedLiterals s) := by
  induction turns generalizing s with
  | zero => omega
  | succ turns ih =>
    have hposition : quotePosition? s =
        (s.dropWhile (!isQuote ·)).head?.map fun _ => byteLength (s.takeWhile (!isQuote ·)) := by
      rw [quotePosition?, List.find?_eq_head?_dropWhile_not]
    cases hdrop : s.dropWhile (!isQuote ·) with
    | nil =>
      rw [hdrop] at hposition
      rw [sliceLiterals, hposition, quotedLiterals_of_dropWhile hdrop]
      rfl
    | cons q body =>
      rw [hdrop] at hposition
      obtain ⟨hq, hs⟩ := of_dropWhile_eq_cons hdrop
      have hquoted : cutAt? (byteLength (s.takeWhile (!isQuote ·))) s =
          some (s.takeWhile (!isQuote ·), q :: body) :=
        cutAt?_eq_some_iff.2 ⟨hs, rfl⟩
      have hbody : cutAt? (byteLength (s.takeWhile (!isQuote ·)) + 1) s =
          some (s.takeWhile (!isQuote ·) ++ [q], body) :=
        cutAt?_eq_some_iff.2 ⟨by simpa using hs, by rw [byteLength_append, byteLength_quote hq]⟩
      cases hcut : breakOn [q] body with
      | none =>
        rw [quotedLiterals_of_breakOn_eq_none hdrop hcut]
        simp [sliceLiterals, hposition, hquoted, hbody, positionOf?, hcut]
      | some cut =>
        obtain ⟨literal, behind⟩ := cut
        obtain ⟨hstop, hbehind⟩ := cutAt?_of_breakOn hcut
        rw [byteLength_quote hq] at hbehind
        have hliteral : cutAt? (byteLength literal) body = some (literal, q :: behind) :=
          cutAt?_eq_some_iff.2 ⟨by simpa using eq_append_of_breakOn hcut, rfl⟩
        have hshort := length_lt_of_breakOn (by simp) hcut
        have hturns : behind.length < turns := by
          have hlength := congrArg List.length hs
          simp only [List.length_append, List.length_cons] at hlength
          omega
        rw [quotedLiterals_of_breakOn hdrop hcut]
        simp [sliceLiterals, hposition, hquoted, hbody, hstop, hliteral, hbehind, ih hturns]

/-- Literals in quotation marks that they do not hold, each behind any white space. -/
inductive Quoted : List (List Char) → List Char → Prop
  /-- No literal. -/
  | nil : Quoted [] []
  /-- A literal in front of others. -/
  | cons {space literal text : List Char} {literals : List (List Char)} {q : Char} :
    isBlank space = true → isQuote q = true → q ∉ literal → Quoted literals text →
    Quoted (literal :: literals) (space ++ q :: (literal ++ q :: text))

/-- **Literals in quotation marks are found**, whatever else they hold. -/
theorem Quoted.quotedLiterals_eq (h : Quoted literals text) : quotedLiterals text = literals := by
  induction h with
  | nil => exact quotedLiterals_of_dropWhile rfl
  | @cons space literal text literals q hspace hq hliteral _ ih =>
    have hdrop := dropWhile_append_quote (isQuote_of_isBlank hspace) hq (literal ++ q :: text)
    rw [quotedLiterals_of_breakOn hdrop (breakOn_singleton_eq_some_iff.2 ⟨rfl, hliteral⟩), ih]

/-- Literals end with a quotation mark. -/
theorem Quoted.exists_concat (h : Quoted literals text) (hne : literals ≠ []) :
    ∃ front q, text = front ++ [q] ∧ isQuote q = true := by
  induction h with
  | nil => exact absurd rfl hne
  | @cons space literal text literals q _ hq _ htext ih =>
    cases htext with
    | nil => exact ⟨space ++ q :: literal, q, by simp, hq⟩
    | cons hspace hq' hliteral' htext' =>
      obtain ⟨front, e, he, hquote⟩ := ih (List.cons_ne_nil _ _)
      exact ⟨space ++ q :: (literal ++ q :: front), e, by simp [he], hquote⟩

end Literals

section Keywords

/-- A keyword is stripped off if the bytes of one can be cut off and are its letters. -/
theorem stripPrefixIgnoreCase?_keyword (hlower : word.map Char.toLower = word)
    (hbytes : byteLength word = keywordBytes) (s : List Char) :
    stripPrefixIgnoreCase? word s =
      (cutAt? keywordBytes s).bind fun cut =>
        if cut.1.map Char.toLower = word then some cut.2 else none := by
  ext rest
  rw [cutAt?_iff_stripPrefixIgnoreCase? hlower, hbytes, hlower, Option.bind_eq_some_iff]
  constructor
  · rintro ⟨front, hcut, hfront⟩
    exact ⟨(front, rest), hcut, if_pos hfront⟩
  · rintro ⟨⟨front, behind⟩, hcut, hrest⟩
    rw [Option.ite_none_right_eq_some, Option.some.injEq] at hrest
    obtain ⟨hfront, rfl⟩ := hrest
    exact ⟨front, hcut, hfront⟩

/-- **The reading with slices says what the declaration says**, and none of its slices fails. -/
theorem sliceDeclared_eq (content : List Char) (h : content.length < turns) :
    sliceDeclared turns content = some (Declared.ofContent content) := by
  have hpublic : ∀ s, stripPrefixIgnoreCase? "public".toList s =
      (cutAt? keywordBytes s).bind fun cut =>
        if cut.1.map Char.toLower = "public".toList then some cut.2 else none :=
    stripPrefixIgnoreCase?_keyword (by decide) (by decide)
  have hsystem : ∀ s, stripPrefixIgnoreCase? "system".toList s =
      (cutAt? keywordBytes s).bind fun cut =>
        if cut.1.map Char.toLower = "system".toList then some cut.2 else none :=
    stripPrefixIgnoreCase?_keyword (by decide) (by decide)
  have hletters : "PUBLIC".toList.map Char.toLower = "public".toList ∧
      "SYSTEM".toList.map Char.toLower = "system".toList := by
    decide
  have hbehind : (trimStart ((trim content).dropWhile (!isSpace ·))).length < turns :=
    Nat.lt_of_le_of_lt (((trimStartBy_isSuffix isSpace _).trans
      (List.dropWhile_suffix _)).isInfix.trans (trim_isInfix content)).length_le h
  rw [sliceDeclared, Declared.ofContent]
  dsimp only
  generalize trimStart ((trim content).dropWhile (!isSpace ·)) = behind at hbehind ⊢
  rw [hpublic, hsystem]
  -- Where no keyword can be cut off there is none, and the literals of nothing are looked for.
  cases hcut : cutAt? keywordBytes behind with
  | none =>
    have hliterals : sliceLiterals turns [] = some [] :=
      (sliceLiterals_eq (Nat.lt_of_le_of_lt (Nat.zero_le _) hbehind)).trans
        (congrArg some (quotedLiterals_of_dropWhile rfl))
    simp only [Option.map_none, Option.getD_none, hliterals, Option.bind_none]
    rfl
  | some cut =>
    obtain ⟨keyword, rest⟩ := cut
    obtain ⟨rfl, -⟩ := cutAt?_eq_some_iff.1 hcut
    have hliterals : sliceLiterals turns rest = some (quotedLiterals rest) :=
      sliceLiterals_eq (by simp only [List.length_append] at hbehind; omega)
    simp only [Option.map_some, Option.getD_some, hliterals, Option.bind_some, hletters, beq_iff_eq]
    split
    · rfl
    · split
      · rfl
      · rfl

end Keywords

section Spelling

/-- A name of a document type: it is not empty and holds no white space. -/
structure IsTypeName (name : List Char) : Prop where
  /-- It is not empty. -/
  ne_nil : name ≠ []
  /-- It holds no white space. -/
  isSpace_eq : ∀ c ∈ name, isSpace c = false

/-- White space that is not empty. -/
structure IsGap (gap : List Char) : Prop where
  /-- It is not empty. -/
  ne_nil : gap ≠ []
  /-- It is white space. -/
  isBlank_eq : isBlank gap = true

/-- A name, a keyword in letters of either case and literals. -/
inductive HasKeyword (word : String) (name : List Char) (literals : List (List Char)) :
    List Char → Prop
  /-- The three, with white space behind the name. -/
  | intro {gap keyword text : List Char} : IsTypeName name → IsGap gap →
    keyword.map Char.toLower = word.toList → Quoted literals text →
    HasKeyword word name literals (name ++ gap ++ (keyword ++ text))

/-- A declaration, and a text that says what it does. -/
inductive Spells : Declared → List Char → Prop
  /-- A name. -/
  | name {name : List Char} : IsTypeName name → Spells ⟨name, none, none⟩ name
  /-- A name and a public identifier. -/
  | publicId {name a text : List Char} :
    HasKeyword "public" name [a] text → Spells ⟨name, some a, none⟩ text
  /-- A name, a public identifier and a system identifier. -/
  | publicAndSystemId {name a b text : List Char} :
    HasKeyword "public" name [a, b] text → Spells ⟨name, some a, some b⟩ text
  /-- A name and a system identifier. -/
  | systemId {name a text : List Char} :
    HasKeyword "system" name [a] text → Spells ⟨name, none, some a⟩ text

/-- A name ends at the white space behind it, and what stands behind that is the rest. -/
theorem IsTypeName.parts (hname : IsTypeName name) (hgap : IsGap gap) (hhead : more.head? = some c)
    (hc : isSpace c = false) :
    (name ++ gap ++ more).takeWhile (!isSpace ·) = name ∧
      trimStart ((name ++ gap ++ more).dropWhile (!isSpace ·)) = more := by
  have hall : ∀ c ∈ name, (!isSpace c) = true := fun c hm => by rw [hname.isSpace_eq c hm]; rfl
  obtain ⟨e, space, rfl⟩ := List.exists_cons_of_ne_nil hgap.ne_nil
  have hspace := List.all_eq_true.1 hgap.isBlank_eq e List.mem_cons_self
  obtain ⟨back, rfl⟩ := List.head?_eq_some_iff.1 hhead
  rw [List.append_assoc, List.takeWhile_append_of_pos hall, List.dropWhile_append_of_pos hall]
  constructor
  · rw [List.cons_append, List.takeWhile_cons_of_neg (by simp [hspace]), List.append_nil]
  · rw [List.cons_append, List.dropWhile_cons_of_neg (by simp [hspace]), ← List.cons_append,
      trimStart_append_of_isBlank hgap.isBlank_eq, trimStart_cons hc]

/-- A name begins and ends with characters that show. -/
theorem IsTypeName.edges (hname : IsTypeName name) :
    ∃ c d, name.head? = some c ∧ isSpace c = false ∧
      name.getLast? = some d ∧ isSpace d = false := by
  obtain ⟨c, rest, hhead⟩ := List.exists_cons_of_ne_nil hname.ne_nil
  obtain ⟨front, d, hlast⟩ := List.eq_nil_or_concat' name |>.resolve_left hname.ne_nil
  refine ⟨c, d, by rw [hhead]; rfl, hname.isSpace_eq c (by simp [hhead]), ?_, hname.isSpace_eq d ?_⟩
  · rw [hlast, List.getLast?_concat]
  · simp [hlast]

/-- A text that begins like one keyword does not begin like another one. -/
theorem stripPrefixIgnoreCase?_of_ne (hkeyword : keyword.map Char.toLower = word)
    (hlength : word.length = other.length) (hne : word ≠ other) (text : List Char) :
    stripPrefixIgnoreCase? other (keyword ++ text) = none := by
  rw [Option.eq_none_iff_forall_not_mem]
  intro rest hrest
  obtain ⟨front, he, rfl⟩ := stripPrefixIgnoreCase?_eq_some_iff.1 hrest
  rw [← hkeyword, List.length_map, List.length_map] at hlength
  obtain ⟨rfl, -⟩ := List.append_inj he hlength
  exact hne hkeyword.symm

/-- A name alone is read as a name. -/
theorem IsTypeName.ofContent_eq (hname : IsTypeName name) (hbefore : isBlank before = true)
    (hafter : isBlank after = true) :
    Declared.ofContent (before ++ name ++ after) = ⟨name, none, none⟩ := by
  obtain ⟨c, d, hhead, hc, hlast, hd⟩ := hname.edges
  have hall : ∀ c ∈ name, (!isSpace c) = true := fun c hm => by rw [hname.isSpace_eq c hm]; rfl
  have htake : name.takeWhile (!isSpace ·) = name := List.takeWhile_eq_self_iff.2 hall
  have hdrop : name.dropWhile (!isSpace ·) = [] := List.dropWhile_eq_nil_iff.2 hall
  simp only [Declared.ofContent, trim_between hbefore hafter hhead hc hlast hd, htake, hdrop]
  rfl

/-- A declaration with a keyword is taken apart into its name and what begins with the keyword; the
white space around the two is left out. -/
theorem HasKeyword.parts {word : String} (h : HasKeyword word name literals text)
    (hword : word.toList.head? = some c) (hc : isSpace c = false) (hne : literals ≠ [])
    (hbefore : isBlank before = true) (hafter : isBlank after = true) :
    ∃ keyword quoted, keyword.map Char.toLower = word.toList ∧ Quoted literals quoted ∧
      (trim (before ++ text ++ after)).takeWhile (!isSpace ·) = name ∧
      trimStart ((trim (before ++ text ++ after)).dropWhile (!isSpace ·)) = keyword ++ quoted := by
  obtain @⟨gap, keyword, quoted, hname, hgap, hkeyword, hquoted⟩ := h
  refine ⟨keyword, quoted, hkeyword, hquoted, ?_⟩
  obtain ⟨first, -, hfirst, hfirstSpace, -⟩ := hname.edges
  obtain ⟨front, q, rfl, hq⟩ := hquoted.exists_concat hne
  obtain ⟨d, hd, hdSpace⟩ : ∃ d, keyword.head? = some d ∧ isSpace d = false := by
    obtain ⟨d, hd, rfl⟩ := Option.map_eq_some_iff.1 (by rw [← List.head?_map, hkeyword, hword])
    exact ⟨d, hd, by rw [← isSpace_toLower, hc]⟩
  have hhead : (name ++ gap ++ (keyword ++ (front ++ [q]))).head? = some first := by
    simp [hfirst]
  have hlast : (name ++ gap ++ (keyword ++ (front ++ [q]))).getLast? = some q := by
    rw [← List.append_assoc, ← List.append_assoc, List.getLast?_concat]
  rw [trim_between hbefore hafter hhead hfirstSpace hlast (isSpace_of_isQuote hq)]
  exact hname.parts hgap (by simp [hd]) hdSpace

/-- The first literal behind `PUBLIC` is the public identifier, and the second one that
of the system. -/
theorem HasKeyword.ofContent_public (h : HasKeyword "public" name literals text)
    (hne : literals ≠ []) (hbefore : isBlank before = true) (hafter : isBlank after = true) :
    Declared.ofContent (before ++ text ++ after) = ⟨name, literals[0]?, literals[1]?⟩ := by
  obtain ⟨keyword, quoted, hkeyword, hquoted, hname, hrest⟩ :=
    h.parts rfl (by decide) hne hbefore hafter
  have hstrip : stripPrefixIgnoreCase? "public".toList (keyword ++ quoted) = some quoted :=
    stripPrefixIgnoreCase?_eq_some_iff.2 ⟨keyword, rfl, hkeyword⟩
  simp only [Declared.ofContent, hname, hrest, hstrip, hquoted.quotedLiterals_eq]

/-- The first literal behind `SYSTEM` is the system identifier. -/
theorem HasKeyword.ofContent_system (h : HasKeyword "system" name literals text)
    (hne : literals ≠ []) (hbefore : isBlank before = true) (hafter : isBlank after = true) :
    Declared.ofContent (before ++ text ++ after) = ⟨name, none, literals[0]?⟩ := by
  obtain ⟨keyword, quoted, hkeyword, hquoted, hname, hrest⟩ :=
    h.parts rfl (by decide) hne hbefore hafter
  have hother : stripPrefixIgnoreCase? "public".toList (keyword ++ quoted) = none :=
    stripPrefixIgnoreCase?_of_ne hkeyword (by decide) (by decide) quoted
  have hstrip : stripPrefixIgnoreCase? "system".toList (keyword ++ quoted) = some quoted :=
    stripPrefixIgnoreCase?_eq_some_iff.2 ⟨keyword, rfl, hkeyword⟩
  simp only [Declared.ofContent, hname, hrest, hother, hstrip, hquoted.quotedLiterals_eq]

/-- **What is spelled is read**, with any white space around it. -/
theorem Spells.ofContent_eq (h : Spells declared text) (hbefore : isBlank before = true)
    (hafter : isBlank after = true) : Declared.ofContent (before ++ text ++ after) = declared := by
  cases h with
  | name hname => exact hname.ofContent_eq hbefore hafter
  | publicId h => exact h.ofContent_public (List.cons_ne_nil _ _) hbefore hafter
  | publicAndSystemId h => exact h.ofContent_public (List.cons_ne_nil _ _) hbefore hafter
  | systemId h => exact h.ofContent_system (List.cons_ne_nil _ _) hbefore hafter

end Spelling

/-- **A document type declaration is read as it is written**: a name, behind any white space a
keyword in letters of either case, and behind that a public and a system identifier, each in
quotation marks of one kind. The search with slices comes to the same answer for every content, and
none of its slices fails. -/
theorem ofContent_spells :
    (∀ declared text before after, Spells declared text → isBlank before = true →
      isBlank after = true → Declared.ofContent (before ++ text ++ after) = declared) ∧
    (∀ turns s, s.length < turns → sliceLiterals turns s = some (quotedLiterals s)) ∧
    ∀ turns content, content.length < turns →
      sliceDeclared turns content = some (Declared.ofContent content) :=
  ⟨fun _ _ _ _ => Spells.ofContent_eq, fun _ _ => sliceLiterals_eq, fun _ => sliceDeclared_eq⟩

/-- A public identifier that holds a quotation mark of the other kind and a system identifier that
holds one and a keyword are read. A quotation mark that is not closed opens no literal, and letters
that would have to be cut in the middle of a character are no keyword. -/
theorem ofContent_spells_publicAndSystemId :
    Spells ⟨"html".toList, some "a\"b".toList, some "c'd SYSTEM".toList⟩
        "html\u3000pUbLiC'a\"b'\n\"c'd SYSTEM\"".toList ∧
      Declared.ofContent "\n html\u3000pUbLiC'a\"b'\n\"c'd SYSTEM\" ".toList =
        ⟨"html".toList, some "a\"b".toList, some "c'd SYSTEM".toList⟩ ∧
      sliceLiterals 9 "'é'\"".toList = some ["é".toList] ∧
      sliceDeclared 12 "a PUBLIé'x'".toList = some ⟨"a".toList, none, none⟩ := by
  obtain ⟨hread, hliterals, hslices⟩ := ofContent_spells
  have hname : IsTypeName "html".toList := ⟨by decide, by simp [isSpace]⟩
  have hgap : IsGap "\u3000".toList := ⟨by decide, by decide⟩
  have hkeyword : "pUbLiC".toList.map Char.toLower = "public".toList := by decide
  have hsystem : Quoted ["c'd SYSTEM".toList]
      ("\n".toList ++ '"' :: ("c'd SYSTEM".toList ++ ['"'])) :=
    .cons (by decide) (by decide) (by decide) .nil
  have hpublic : Quoted ["a\"b".toList, "c'd SYSTEM".toList]
      ([] ++ '\'' :: ("a\"b".toList ++
        '\'' :: ("\n".toList ++ '"' :: ("c'd SYSTEM".toList ++ ['"'])))) :=
    .cons rfl (by decide) (by decide) hsystem
  have hspells := Spells.publicAndSystemId (.intro hname hgap hkeyword hpublic)
  have hwhole := hread _ _ "\n ".toList " ".toList hspells (by decide) (by decide)
  refine ⟨by simpa using hspells, by simpa using hwhole, ?_, ?_⟩
  · rw [hliterals 9 _ (by decide)]
    decide +kernel
  · rw [hslices 12 _ (by decide)]
    decide +kernel

end HtmlToHaml.Xml
