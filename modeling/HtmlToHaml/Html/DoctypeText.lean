import HtmlToHaml.Html.Token
import HtmlToHaml.Text.Search

/-!
# Document types of HTML

The text of a document type, after its keyword: a name, and perhaps a public or a system identifier
in quotes. Whatever is missing or out of place makes it malformed, which makes the document an old
one.
-/

namespace HtmlToHaml.Html

open Text

/-- A document type and the text after it. -/
abbrev ReadDoctype := Doctype × List Char

/-- The text after the next closing bracket. -/
def afterBracket (s : List Char) : List Char :=
  (s.dropWhile (· ≠ '>')).drop 1

/-- The document type with nothing more to come: whatever stands before the closing bracket is
skipped. -/
def skipRest (found : Doctype) (s : List Char) : ReadDoctype :=
  (found, afterBracket s)

/-- The document type, malformed. -/
def Doctype.spoiled (found : Doctype) : Doctype :=
  { found with malformed := true }

/-- The end of a document type: a closing bracket, the end of the source, or something else that is
skipped. -/
def endDoctype (found : Doctype) : List Char → ReadDoctype
  | '>' :: rest => (found, rest)
  | [] => (found.spoiled, [])
  | s => skipRest found s

/-- The end of a document type in which something is missing. -/
def missingPart (found : Doctype) : List Char → ReadDoctype
  | '>' :: rest => (found.spoiled, rest)
  | [] => (found.spoiled, [])
  | s => skipRest found.spoiled s

/-- A quoted identifier after its quotation mark: its text, whether it is closed, and the text after
it, or from the closing bracket on that ends it. -/
def quotedId (quote : Char) (s : List Char) : List Char × Bool × List Char :=
  let inside := fun c => c != quote && c != '>'
  match s.dropWhile inside with
  | c :: rest =>
    if c = quote then (visibleText (s.takeWhile inside), true, rest)
    else (visibleText (s.takeWhile inside), false, c :: rest)
  | [] => (visibleText (s.takeWhile inside), false, [])

/-- The text without leading white space. -/
def skipSpace (s : List Char) : List Char :=
  s.dropWhile isHtmlSpace

/-- The system identifier in quotes, and what follows it. -/
def systemId (found : Doctype) (quote : Char) (s : List Char) : ReadDoctype :=
  let (id, closed, rest) := quotedId quote s
  let found := { found with systemId := some id }
  if closed then endDoctype found (skipSpace rest) else missingPart found rest

/-- What follows the public identifier. -/
def afterPublicId (found : Doctype) (s : List Char) : ReadDoctype :=
  match skipSpace s with
  | '>' :: rest => (found, rest)
  | '"' :: rest => systemId found '"' rest
  | '\'' :: rest => systemId found '\'' rest
  | rest => missingPart found rest

/-- The public identifier in quotes, and what follows it. -/
def publicId (found : Doctype) (quote : Char) (s : List Char) : ReadDoctype :=
  let (id, closed, rest) := quotedId quote s
  let found := { found with externalId := some id }
  if closed then afterPublicId found rest else missingPart found rest

/-- What follows the keyword of a public identifier. -/
def afterPublic (found : Doctype) (s : List Char) : ReadDoctype :=
  match skipSpace s with
  | '"' :: rest => publicId found '"' rest
  | '\'' :: rest => publicId found '\'' rest
  | rest => missingPart found rest

/-- What follows the keyword of a system identifier. -/
def afterSystem (found : Doctype) (s : List Char) : ReadDoctype :=
  match skipSpace s with
  | '"' :: rest => systemId found '"' rest
  | '\'' :: rest => systemId found '\'' rest
  | rest => missingPart found rest

/-- What follows the name. -/
def afterName (found : Doctype) (s : List Char) : ReadDoctype :=
  match skipSpace s with
  | '>' :: rest => (found, rest)
  | s =>
    match stripPrefixIgnoreCase? "public".toList s with
    | some rest => afterPublic found rest
    | none =>
      match stripPrefixIgnoreCase? "system".toList s with
      | some rest => afterSystem found rest
      | none => missingPart found s

/-- A character that continues the name. -/
def isDoctypeNameChar (c : Char) : Bool :=
  !isHtmlSpace c && c != '>'

/-- A document type after its keyword. -/
def doctypeText (s : List Char) : ReadDoctype :=
  match skipSpace s with
  | '>' :: rest => ({ malformed := true }, rest)
  | [] => ({ malformed := true }, [])
  | s =>
    afterName { name := some (nameText (s.takeWhile isDoctypeNameChar)) }
      (s.dropWhile isDoctypeNameChar)

/-- Skipping to a closing bracket never makes a text longer. -/
theorem length_afterBracket_le (s : List Char) : (afterBracket s).length ≤ s.length := by
  have := (List.dropWhile_suffix (l := s) (· ≠ '>')).length_le
  simp only [afterBracket, List.length_drop]
  omega

/-- Skipping white space never makes a text longer. -/
theorem length_skipSpace_le (s : List Char) : (skipSpace s).length ≤ s.length :=
  (List.dropWhile_suffix isHtmlSpace).length_le

/-- What follows the end of a document type is no longer than the text it was read from. -/
theorem length_endDoctype_le (found : Doctype) (s : List Char) :
    (endDoctype found s).2.length ≤ s.length := by
  unfold endDoctype
  split
  · simp
  · simp
  · exact length_afterBracket_le _

/-- What follows an incomplete document type is no longer than the text it was read from. -/
theorem length_missingPart_le (found : Doctype) (s : List Char) :
    (missingPart found s).2.length ≤ s.length := by
  unfold missingPart
  split
  · simp
  · simp
  · exact length_afterBracket_le _

/-- What follows an identifier is no longer than the text it was read from. -/
theorem length_quotedId_le (quote : Char) (s : List Char) :
    (quotedId quote s).2.2.length ≤ s.length := by
  have hd := (List.dropWhile_suffix (l := s) fun c => c != quote && c != '>').length_le
  unfold quotedId
  simp only
  split
  · rename_i c rest hr
    rw [hr] at hd
    split
    · simp only [List.length_cons] at hd
      exact Nat.le_of_succ_le hd
    · exact hd
  · simp

/-- What follows a system identifier is no longer than the text it was read from. -/
theorem length_systemId_le (found : Doctype) (quote : Char) (s : List Char) :
    (systemId found quote s).2.length ≤ s.length := by
  have hq := length_quotedId_le quote s
  unfold systemId
  simp only
  split
  · exact Nat.le_trans (Nat.le_trans (length_endDoctype_le _ _) (length_skipSpace_le _)) hq
  · exact Nat.le_trans (length_missingPart_le _ _) hq

/-- What follows what comes after a public identifier is no longer than the text it was read
from. -/
theorem length_afterPublicId_le (found : Doctype) (s : List Char) :
    (afterPublicId found s).2.length ≤ s.length := by
  have hs := length_skipSpace_le s
  unfold afterPublicId
  split
  · rename_i rest hr
    rw [hr] at hs
    exact Nat.le_of_succ_le hs
  · rename_i rest hr
    rw [hr] at hs
    exact Nat.le_trans (length_systemId_le _ _ _) (Nat.le_of_succ_le hs)
  · rename_i rest hr
    rw [hr] at hs
    exact Nat.le_trans (length_systemId_le _ _ _) (Nat.le_of_succ_le hs)
  · exact Nat.le_trans (length_missingPart_le _ _) hs

/-- What follows a public identifier is no longer than the text it was read from. -/
theorem length_publicId_le (found : Doctype) (quote : Char) (s : List Char) :
    (publicId found quote s).2.length ≤ s.length := by
  have hq := length_quotedId_le quote s
  unfold publicId
  simp only
  split
  · exact Nat.le_trans (length_afterPublicId_le _ _) hq
  · exact Nat.le_trans (length_missingPart_le _ _) hq

/-- What follows the public part is no longer than the text it was read from. -/
theorem length_afterPublic_le (found : Doctype) (s : List Char) :
    (afterPublic found s).2.length ≤ s.length := by
  have hs := length_skipSpace_le s
  unfold afterPublic
  split
  · rename_i rest hr
    rw [hr] at hs
    exact Nat.le_trans (length_publicId_le _ _ _) (Nat.le_of_succ_le hs)
  · rename_i rest hr
    rw [hr] at hs
    exact Nat.le_trans (length_publicId_le _ _ _) (Nat.le_of_succ_le hs)
  · exact Nat.le_trans (length_missingPart_le _ _) hs

/-- What follows the system part is no longer than the text it was read from. -/
theorem length_afterSystem_le (found : Doctype) (s : List Char) :
    (afterSystem found s).2.length ≤ s.length := by
  have hs := length_skipSpace_le s
  unfold afterSystem
  split
  · rename_i rest hr
    rw [hr] at hs
    exact Nat.le_trans (length_systemId_le _ _ _) (Nat.le_of_succ_le hs)
  · rename_i rest hr
    rw [hr] at hs
    exact Nat.le_trans (length_systemId_le _ _ _) (Nat.le_of_succ_le hs)
  · exact Nat.le_trans (length_missingPart_le _ _) hs

/-- A text after a given beginning is no longer than the whole. -/
theorem length_le_of_stripIgnoreCase {p s rest : List Char}
    (h : stripPrefixIgnoreCase? p s = some rest) : rest.length ≤ s.length := by
  induction p generalizing s with
  | nil =>
    cases h
    exact Nat.le_refl _
  | cons a p ih =>
    cases s with
    | nil => cases h
    | cons c s =>
      simp only [stripPrefixIgnoreCase?] at h
      split at h
      · exact Nat.le_succ_of_le (ih h)
      · cases h

/-- What follows the parts after the name is no longer than the text they were read from. -/
theorem length_afterName_le (found : Doctype) (s : List Char) :
    (afterName found s).2.length ≤ s.length := by
  have hs := length_skipSpace_le s
  unfold afterName
  split
  · rename_i rest hr
    rw [hr] at hs
    exact Nat.le_of_succ_le hs
  · split
    · rename_i rest hr
      exact Nat.le_trans (length_afterPublic_le _ _)
        (Nat.le_trans (length_le_of_stripIgnoreCase hr) hs)
    · split
      · rename_i rest hr
        exact Nat.le_trans (length_afterSystem_le _ _)
          (Nat.le_trans (length_le_of_stripIgnoreCase hr) hs)
      · exact Nat.le_trans (length_missingPart_le _ _) hs

/-- What follows a document type is no longer than the text it was read from. -/
theorem length_doctypeText_le (s : List Char) : (doctypeText s).2.length ≤ s.length := by
  have hs := length_skipSpace_le s
  unfold doctypeText
  split
  · rename_i rest hr
    rw [hr] at hs
    exact Nat.le_of_succ_le hs
  · simp
  · exact Nat.le_trans (length_afterName_le _ _)
      (Nat.le_trans (List.dropWhile_suffix isDoctypeNameChar).length_le hs)

end HtmlToHaml.Html
