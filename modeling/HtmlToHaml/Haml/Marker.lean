import HtmlToHaml.Entity.Reference
import HtmlToHaml.Haml.PlainText

/-!
# Script markers in text

A template preprocessor leaves script in the tags `<loud>` and `</loud>`. Inside text those tags
become an interpolation: the script between `#` with an opening brace and a closing brace.
-/

namespace HtmlToHaml.Haml

open Text

/-- The tag in front of a script. -/
def markerOpen : List Char := ['<', 'l', 'o', 'u', 'd', '>']

/-- The tag after a script. -/
def markerClose : List Char := ['<', '/', 'l', 'o', 'u', 'd', '>']

/-- A script as an interpolation. -/
def interpolation (script : List Char) : List Char :=
  '#' :: '{' :: script ++ ['}']

/-- A script on one line: a line break and the white space after it become one space. -/
def foldLines : List Char → List Char
  | [] => []
  | c :: s => if c = '\n' then ' ' :: skipThenFold s else c :: foldLines s
where
  /-- The script after a line break, whose leading white space is left out. -/
  skipThenFold : List Char → List Char
    | [] => []
    | c :: s => if isSpace c then skipThenFold s else c :: foldLines s

/-- A script as the body of an interpolation: on one line and trimmed. -/
def collapseScript (s : List Char) : List Char :=
  trim (foldLines s)

/-- The text with every marker replaced by an interpolation of its script. A marker ends at the
first closing tag after it. -/
def replaceMarkers (s : List Char) : List Char :=
  match _h : breakOn markerOpen s with
  | none => s
  | some (before, inner) =>
    match _h' : breakOn markerClose inner with
    | none => s
    | some (script, rest) =>
      before ++ interpolation (Entity.unescape (trim script)) ++ replaceMarkers rest
termination_by s.length
decreasing_by
  exact Nat.lt_trans (length_lt_of_breakOn (by simp [markerClose]) _h')
    (length_lt_of_breakOn (by simp [markerOpen]) _h)

/-- The text as it stands in a filter: with scripts on, interpolations are taken back and markers
become interpolations. -/
def interpolateMarkers (erb : Bool) (s : List Char) : List Char :=
  if erb then replaceMarkers (escapeInterpolation s) else s

end HtmlToHaml.Haml
