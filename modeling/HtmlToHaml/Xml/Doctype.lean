import HtmlToHaml.Text.Search
import HtmlToHaml.Text.Space
import HtmlToHaml.Xml.TagContent

/-!
# Document type declarations

A declaration is a name, perhaps a keyword, and quoted literals. After the keyword `PUBLIC` the
first two literals are the public and the system identifier, after `SYSTEM` the first one is the
system identifier.
-/

namespace HtmlToHaml.Xml

open Text

/-- The literals in a text. A quotation mark opens a literal that the next one of its kind closes;
one that is never closed ends the search. -/
def quotedLiterals (s : List Char) : List (List Char) :=
  match _h : s.dropWhile (!isQuote ·) with
  | [] => []
  | q :: body =>
    match _h' : breakOn [q] body with
    | some (literal, rest) => literal :: quotedLiterals rest
    | none => []
termination_by s.length
decreasing_by
  have h₁ := length_dropWhile_le (!isQuote ·) s
  rw [_h, List.length_cons] at h₁
  have := length_lt_of_breakOn (by simp) _h'
  omega

/-- What a document type declaration says. -/
structure Declared where
  /-- The name of the document type. -/
  name : List Char
  /-- The public identifier. -/
  externalId : Option (List Char)
  /-- The system identifier. -/
  systemId : Option (List Char)
  deriving DecidableEq, Repr

/-- What the content of a document type declaration says. -/
def Declared.ofContent (content : List Char) : Declared :=
  let content := trim content
  let name := content.takeWhile (!isSpace ·)
  let rest := trimStart (content.dropWhile (!isSpace ·))
  match stripPrefixIgnoreCase? "public".toList rest with
  | some after =>
    let literals := quotedLiterals after
    ⟨name, literals[0]?, literals[1]?⟩
  | none =>
    match stripPrefixIgnoreCase? "system".toList rest with
    | some after => ⟨name, none, (quotedLiterals after)[0]?⟩
    | none => ⟨name, none, none⟩

end HtmlToHaml.Xml
