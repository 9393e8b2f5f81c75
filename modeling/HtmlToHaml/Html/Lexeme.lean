import HtmlToHaml.Html.CommentText
import HtmlToHaml.Html.DoctypeText
import HtmlToHaml.Html.RawText
import HtmlToHaml.Html.TagText

/-!
# Reading tokens

The tokens that begin with a character of the source, and the text after them. How characters are
read depends on the element they stand in, so the reader of a whole source says before each step
what holds. The main statement is that each step leaves less text than it found.
-/

namespace HtmlToHaml.Html

open Text

/-- Tokens, the text after them, and how to read on. -/
structure Lexeme where
  /-- The tokens. -/
  tokens : List Token
  /-- The text after them. -/
  rest : List Char
  /-- How to read on. -/
  reading : Reading

/-- A character of plain text between markup. -/
def isDataChar (c : Char) : Bool :=
  c != '<' && c != '&' && c.toNat != 0

/-- The text of a section in foreign content, where null characters are tokens of their own. -/
def sectionTokens : List Char → List Token
  | [] => []
  | c :: s =>
    if c.toNat = 0 then .null :: sectionTokens s
    else
      match sectionTokens s with
      | .characters more :: rest => .characters (c :: more) :: rest
      | rest => .characters [c] :: rest

/-- Characters, none if there are none. -/
def charactersOf (s : List Char) : List Token :=
  if s.isEmpty then [] else [.characters s]

/-- A tag after the characters that open it; the end of the source cuts it off. -/
def tagLexeme (token : Tag → Token) (s : List Char) : Lexeme :=
  match tag? s with
  | some (tag, rest) => ⟨[token tag], rest, .markup⟩
  | none => ⟨[], [], .markup⟩

/-- What an ampersand begins. -/
def referenceLexeme (reading : Reading) (s : List Char) : Lexeme :=
  match reference? false s with
  | some r =>
    ⟨(if r.wellFormed then [] else [.mistake]) ++ charactersOf r.value, r.rest, reading⟩
  | none => ⟨[.characters ['&']], s, reading⟩

/-- What an exclamation mark after a less-than sign begins; `foreign` tells that sections may
occur. -/
def declarationLexeme (foreign : Bool) (s : List Char) : Lexeme :=
  match stripPrefix? ['-', '-'] s with
  | some body =>
    let (content, rest) := commentText body
    ⟨[.comment (visibleText content)], rest, .markup⟩
  | none =>
    match stripPrefixIgnoreCase? "doctype".toList s with
    | some body =>
      let (doctype, rest) := doctypeText body
      ⟨[.doctype doctype], rest, .markup⟩
    | none =>
      match (if foreign then stripPrefix? "[CDATA[".toList s else none) with
      | some body =>
        match breakOn [']', ']', '>'] body with
        | some (content, rest) => ⟨sectionTokens content, rest, .markup⟩
        | none => ⟨sectionTokens body, [], .markup⟩
      | none =>
        let (content, rest) := improperComment s
        ⟨[.comment (visibleText content)], rest, .markup⟩

/-- What a slash after a less-than sign begins. -/
def endTagLexeme : List Char → Lexeme
  | [] => ⟨[.characters ['<', '/']], [], .markup⟩
  | '>' :: rest => ⟨[.mistake], rest, .markup⟩
  | c :: s =>
    if c.isAlpha then tagLexeme .endTag (c :: s)
    else
      let (content, rest) := improperComment (c :: s)
      ⟨[.comment (visibleText content)], rest, .markup⟩

/-- What a less-than sign begins. -/
def lessLexeme (foreign : Bool) : List Char → Lexeme
  | '!' :: s => declarationLexeme foreign s
  | '/' :: s => endTagLexeme s
  | c :: s =>
    if c.isAlpha then tagLexeme .startTag (c :: s)
    else if c = '?' then
      let (content, rest) := improperComment (c :: s)
      ⟨[.comment (visibleText content)], rest, .markup⟩
    else ⟨[.characters ['<']], c :: s, .markup⟩
  | [] => ⟨[.characters ['<']], [], .markup⟩

/-- Text up to an end tag, or the end tag that follows at once. -/
def rawLexeme (reading : Reading) (s : List Char) (cut : List Char × List Char) : Lexeme :=
  if cut.1.isEmpty then tagLexeme .endTag (s.drop 1)
  else ⟨[.characters (visibleText cut.1)], cut.2, reading⟩

/-- A character of text with references. -/
def isEscapableChar (c : Char) : Bool :=
  c != '<' && c != '&'

/-- The tokens that begin with a character. -/
def nextLexeme (foreign : Bool) (reading : Reading) (c : Char) (s : List Char) : Lexeme :=
  match reading with
  | .markup =>
    if c = '<' then lessLexeme foreign s
    else if c = '&' then referenceLexeme .markup s
    else if c.toNat = 0 then ⟨[.null], s, .markup⟩
    else ⟨[.characters (c :: s.takeWhile isDataChar)], s.dropWhile isDataChar, .markup⟩
  | .escapable name =>
    if c = '<' ∧ isEndTagOf name s then tagLexeme .endTag (s.drop 1)
    else if c = '&' then referenceLexeme reading s
    else
      ⟨[.characters (visibleText (c :: s.takeWhile isEscapableChar))],
        s.dropWhile isEscapableChar, reading⟩
  | .raw name => rawLexeme reading s (untilEndTag name (c :: s))
  | .script => rawLexeme reading s (untilScriptEnd .plain (c :: s))
  | .plain => ⟨[.characters (visibleText (c :: s))], [], .plain⟩

/-- What follows a tag is no longer than the text after what opens it. -/
theorem length_tagLexeme_le (token : Tag → Token) (s : List Char) :
    (tagLexeme token s).rest.length ≤ s.length := by
  unfold tagLexeme
  split
  · rename_i tag rest h
    exact length_le_of_tag? h
  · simp

/-- What follows a reference is no longer than the text after its ampersand. -/
theorem length_referenceLexeme_le (reading : Reading) (s : List Char) :
    (referenceLexeme reading s).rest.length ≤ s.length := by
  unfold referenceLexeme
  split
  · rename_i r h
    exact length_rest_le h
  · simp

/-- What follows a declaration is no longer than the text after its exclamation mark. -/
theorem length_declarationLexeme_le (foreign : Bool) (s : List Char) :
    (declarationLexeme foreign s).rest.length ≤ s.length := by
  unfold declarationLexeme
  split
  · rename_i body h
    exact Nat.le_trans (length_commentText_le body)
      (Nat.le_of_lt (length_lt_of_stripPrefix? (by simp) h))
  · split
    · rename_i body h
      exact Nat.le_trans (length_doctypeText_le body) (length_le_of_stripIgnoreCase h)
    · split
      · rename_i body h
        have hb : stripPrefix? "[CDATA[".toList s = some body := by
          cases foreign <;> simp_all
        have hl := length_lt_of_stripPrefix? (by decide) hb
        split
        · rename_i content rest hr
          exact Nat.le_of_lt (Nat.lt_trans (length_lt_of_breakOn (by simp) hr) hl)
        · simp
      · exact length_improperComment_le s

/-- What follows an end tag is no longer than the text after its slash. -/
theorem length_endTagLexeme_le (s : List Char) : (endTagLexeme s).rest.length ≤ s.length := by
  unfold endTagLexeme
  split
  · simp
  · simp
  · split
    · exact length_tagLexeme_le _ _
    · exact length_improperComment_le _

/-- What follows markup is no longer than the text after its less-than sign. -/
theorem length_lessLexeme_le (foreign : Bool) (s : List Char) :
    (lessLexeme foreign s).rest.length ≤ s.length := by
  unfold lessLexeme
  split
  · exact Nat.le_succ_of_le (length_declarationLexeme_le foreign _)
  · exact Nat.le_succ_of_le (length_endTagLexeme_le _)
  · split
    · exact length_tagLexeme_le _ _
    · split
      · exact length_improperComment_le _
      · exact Nat.le_refl _
  · simp

/-- Text that is cut off somewhere leaves less than there was unless nothing is cut off. -/
theorem length_rawLexeme_le (reading : Reading) {s : List Char}
    {cut : List Char × List Char} (h : cut.1.length + cut.2.length ≤ s.length + 1) :
    (rawLexeme reading s cut).rest.length ≤ s.length := by
  unfold rawLexeme
  split
  · have := length_tagLexeme_le .endTag (s.drop 1)
    simp only [List.length_drop] at this
    omega
  · rename_i hc
    have : 0 < cut.1.length := List.length_pos_iff.2 (by simpa using hc)
    simp only
    omega

/-- The two parts of a text that is cut at an end tag. -/
theorem length_untilEndTag (name s : List Char) :
    (untilEndTag name s).1.length + (untilEndTag name s).2.length = s.length := by
  induction s with
  | nil => simp [untilEndTag]
  | cons c s ih =>
    unfold untilEndTag
    split
    · simp
    · simp only [List.length_cons]
      omega

/-- The two parts of a text that is cut at the end of a script. -/
theorem length_untilScriptEnd (place : ScriptPlace) (s : List Char) :
    (untilScriptEnd place s).1.length + (untilScriptEnd place s).2.length = s.length := by
  induction s generalizing place with
  | nil => simp [untilScriptEnd]
  | cons c s ih =>
    unfold untilScriptEnd
    split
    · simp
    · have := ih (place.next c)
      simp only [List.length_cons]
      omega

/-- What follows a lexeme is no longer than the text after its first character. -/
theorem length_nextLexeme_le (foreign : Bool) (reading : Reading) (c : Char) (s : List Char) :
    (nextLexeme foreign reading c s).rest.length ≤ s.length := by
  unfold nextLexeme
  split
  · split
    · exact length_lessLexeme_le foreign s
    · split
      · exact length_referenceLexeme_le _ s
      · split
        · exact Nat.le_refl _
        · exact (List.dropWhile_suffix isDataChar).length_le
  · split
    · have := length_tagLexeme_le .endTag (s.drop 1)
      simp only [List.length_drop] at this
      omega
    · split
      · exact length_referenceLexeme_le _ s
      · exact (List.dropWhile_suffix isEscapableChar).length_le
  · exact length_rawLexeme_le _ (Nat.le_of_eq (length_untilEndTag _ (c :: s)))
  · exact length_rawLexeme_le _ (Nat.le_of_eq (length_untilScriptEnd _ (c :: s)))
  · simp

end HtmlToHaml.Html
