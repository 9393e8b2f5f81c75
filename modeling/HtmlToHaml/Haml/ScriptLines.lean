import HtmlToHaml.Entity.Reference
import HtmlToHaml.Text.Lines

/-!
# Lines of script

A script that prints its value begins with an equal sign, and one that runs silently with a hyphen.
A printed script over several lines ends each of them with a bar; the bars stand in one column, and
the code keeps its shape relative to the last line.
-/

namespace HtmlToHaml.Haml

open Text

/-- The columns that a tab counts for. -/
def tabWidth : Nat := 8

/-- The lines of a printed script that are not blank, without trailing white space. -/
def loudSourceLines (source : List Char) : List (List Char) :=
  ((splitLines (Entity.unescape source)).map trimEnd).filter (!isBlank ·)

/-- Whether a printed script has more than one line that is not blank. -/
def isMultiline (source : List Char) : Bool :=
  1 < ((splitLines source).filter (!isBlank ·)).length

/-- The spaces and tabs a line begins with. -/
def indentRun (line : List Char) : List Char :=
  line.takeWhile isIndent

/-- The columns that the leading spaces and tabs take. -/
def indentWidth (line : List Char) : Nat :=
  (indentRun line).foldr (fun c width => (if c = '\t' then tabWidth else 1) + width) 0

/-- The line without its leading spaces and tabs, at most `width` of them. -/
def dropIndent (width : Nat) (line : List Char) : List Char :=
  line.drop (min width (indentRun line).length)

/-- The line filled with spaces up to a column, and a bar there. -/
def withBar (width : Nat) (line : List Char) : List Char :=
  line ++ List.replicate (width - line.length) ' ' ++ ['|']

/-- The first line of a printed script. -/
def printedLine (line : List Char) : List Char :=
  '=' :: ' ' :: line.dropWhile isIndent

/-- The greatest length of the lines. -/
def maxLength (lines : List (List Char)) : Nat :=
  lines.foldl (fun width line => max width line.length) 0

/-- The lines of a printed script as they are written at its level. -/
def alignLoudLines : List (List Char) → List (List Char)
  | [] => []
  | [line] => [printedLine line]
  | first :: second :: more =>
    let others := second :: more
    let base := indentWidth (others.getLast (by simp [others]))
    let lines := printedLine first :: others.map fun line => ' ' :: ' ' :: dropIndent base line
    lines.map (withBar (maxLength lines + 1))

/-- The lines of a silent script, one for each line of the source that is not blank. -/
def silentLines (source : List Char) : List (List Char) :=
  (((splitLines (Entity.unescape source)).map trim).filter (!·.isEmpty)).map
    fun line => '-' :: ' ' :: line

end HtmlToHaml.Haml
