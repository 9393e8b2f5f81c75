import HtmlToHaml.Html.Token
import HtmlToHaml.Text.Search

/-!
# Comments of HTML

A comment ends at two hyphens and a closing bracket, with or without an exclamation mark between
them, or at the end of the source. What is no proper comment, tag or document type is one up to the
next closing bracket.
-/

namespace HtmlToHaml.Html

open Text

/-- The text after the end of a comment, if the comment ends here. -/
def commentEnd? : List Char → Option (List Char)
  | '-' :: '-' :: '>' :: rest => some rest
  | '-' :: '-' :: '!' :: '>' :: rest => some rest
  | _ => none

/-- The content of a comment that the source ends in, without the part of an end it may have. -/
def unfinishedComment (content : List Char) : List Char :=
  match content.reverse with
  | '!' :: '-' :: '-' :: before => before.reverse
  | '-' :: '-' :: before => before.reverse
  | '-' :: before => before.reverse
  | _ => content

/-- The content of a comment and the text after it, where `before` holds what came so far from its
end on. -/
def commentBody (before : List Char) : List Char → List Char × List Char
  | [] => (unfinishedComment before.reverse, [])
  | c :: s =>
    match commentEnd? (c :: s) with
    | some rest => (before.reverse, rest)
    | none => commentBody (c :: before) s

/-- The content of a comment after its opening hyphens, and the text after it. A comment that ends
at once may do so without hyphens of its own. -/
def commentText : List Char → List Char × List Char
  | '>' :: rest => ([], rest)
  | '-' :: '>' :: rest => ([], rest)
  | s => commentBody [] s

/-- The content of what is read as a comment, and the text after it. -/
def improperComment (s : List Char) : List Char × List Char :=
  (s.takeWhile (· ≠ '>'), (s.dropWhile (· ≠ '>')).drop 1)

/-- What follows the end of a comment is no longer than the text. -/
theorem length_le_of_commentEnd? {s rest : List Char} (h : commentEnd? s = some rest) :
    rest.length ≤ s.length := by
  unfold commentEnd? at h
  split at h
  · cases h
    simp only [List.length_cons]
    omega
  · cases h
    simp only [List.length_cons]
    omega
  · cases h

/-- What follows a comment is no longer than the text it begins. -/
theorem length_commentBody_le (before s : List Char) :
    (commentBody before s).2.length ≤ s.length := by
  induction s generalizing before with
  | nil => simp [commentBody]
  | cons c s ih =>
    unfold commentBody
    split
    · rename_i rest h
      exact length_le_of_commentEnd? h
    · exact Nat.le_succ_of_le (ih _)

/-- What follows a comment is no longer than the text after its opening. -/
theorem length_commentText_le (s : List Char) : (commentText s).2.length ≤ s.length := by
  unfold commentText
  split
  · simp
  · simp only [List.length_cons]
    omega
  · exact length_commentBody_le [] _

/-- What follows an improper comment is no longer than the text it begins. -/
theorem length_improperComment_le (s : List Char) : (improperComment s).2.length ≤ s.length := by
  have := (List.dropWhile_suffix (l := s) (· ≠ '>')).length_le
  simp only [improperComment, List.length_drop]
  omega

end HtmlToHaml.Html
