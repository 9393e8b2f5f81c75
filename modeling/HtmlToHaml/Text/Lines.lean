import HtmlToHaml.Text.Space

/-!
# Lines

A text is cut at its line feeds in two ways. `splitLines` keeps every piece, so that joining the
pieces gives the text back. `contentLines` reads a line feed as the end of a line: nothing follows
the last one, and a carriage return before it belongs to the line break.
-/

namespace HtmlToHaml.Text

/-- The pieces between line feeds; a text with `n` line feeds has `n + 1` of them. -/
def splitLines (s : List Char) : List (List Char) :=
  s.splitOn '\n'

/-- The pieces, each followed by a line feed. -/
def unlines (lines : List (List Char)) : List Char :=
  lines.flatMap (· ++ ['\n'])

/-- A line without the carriage return that belongs to its line break. -/
def dropCarriageReturn (line : List Char) : List Char :=
  match line.getLast? with
  | some '\r' => line.dropLast
  | _ => line

/-- The pieces read as lines: all but the last one were ended by a line feed. -/
def endedLines : List (List Char) → List (List Char)
  | [] => []
  | [last] => if last.isEmpty then [] else [last]
  | line :: rest => dropCarriageReturn line :: endedLines rest

/-- The lines of a text, without their line breaks. -/
def contentLines (s : List Char) : List (List Char) :=
  endedLines (splitLines s)

/-- The number of line feeds. -/
def lineFeeds (s : List Char) : Nat :=
  s.count '\n'

/-- Whether a text spans more than one line. -/
def hasLineFeed (s : List Char) : Bool :=
  s.contains '\n'

end HtmlToHaml.Text
