import HtmlToHaml.Haml.PlainText
import HtmlToHaml.Text.Search

/-!
# Comments

A comment of one line stands after a slash, and a longer one in the lines below it. A conditional
comment keeps its condition right after the slash.
-/

namespace HtmlToHaml.Haml

open Text

/-- What ends a conditional comment. -/
def conditionEnd : List Char := "<![endif]".toList

/-- The text in front of a given end. -/
def stripSuffix? (suffix s : List Char) : Option (List Char) :=
  (stripPrefix? suffix.reverse s.reverse).map List.reverse

/-- The condition of a conditional comment, with its brackets, and the comment's body. -/
def condition? : List Char → Option (List Char × List Char)
  | '[' :: s =>
    let inside := s.takeWhile (· ≠ ']')
    match s.dropWhile (· ≠ ']') with
    | ']' :: '>' :: body =>
      if inside.isEmpty then none
      else (stripSuffix? conditionEnd body).map fun body => ('[' :: inside ++ [']'], body)
    | _ => none
  | _ => none

/-- A comment at a level. -/
def commentBlock (content : List Char) (level : Nat) : List Char :=
  let (condition, body) := (condition? content).getD ([], content)
  let header := indentation level ++ '/' :: condition
  if hasLineFeed body then
    header ++ '\n' :: textLines (escapeInterpolation body) (level + 1) true
  else if isBlank body then header ++ ['\n']
  else header ++ ' ' :: trim body ++ ['\n']

end HtmlToHaml.Haml
