import HtmlToHaml.Text.Lines
import HtmlToHaml.Text.Space

/-!
# Plain text lines

A line of text in a Haml file is copied into the page, so it carries HTML escapes. Two things in it
would be read as template code: a `#` before an opening brace anywhere, and a special character at
the start of the line. Both are taken back by a backslash.
-/

namespace HtmlToHaml.Haml

open Text

/-- The white space in front of a line at a nesting level. -/
def indentation (level : Nat) : List Char :=
  List.replicate (2 * level) ' '

/-- The text with ampersands and angle brackets as references. -/
def htmlEscape (s : List Char) : List Char :=
  s.flatMap fun
    | '&' => ['&', 'a', 'm', 'p', ';']
    | '<' => ['&', 'l', 't', ';']
    | '>' => ['&', 'g', 't', ';']
    | c => [c]

/-- The text with a backslash in front of everything that opens an interpolation. -/
def escapeInterpolation : List Char → List Char
  | '#' :: '{' :: s => '\\' :: '#' :: '{' :: escapeInterpolation s
  | c :: s => c :: escapeInterpolation s
  | [] => []

/-- The characters that open a construct at the start of a line. -/
def specialCharacters : List Char :=
  ['%', '.', '#', '/', '!', '=', '&', '~', '-', '\\', ':']

/-- Whether a line of text would be read as a construct. A line that begins with an interpolation
that is taken back already would not. -/
def needsEscape : List Char → Bool
  | '\\' :: '#' :: '{' :: _ => false
  | c :: _ => specialCharacters.contains c
  | [] => false

/-- One trimmed line of text at a level, with its line break. -/
def textLine (level : Nat) (escapeSpecial : Bool) (line : List Char) : List Char :=
  indentation level ++ (if escapeSpecial && needsEscape line then ['\\'] else []) ++ line ++ ['\n']

/-- A text as trimmed lines at a level; a blank text has none. -/
def textLines (s : List Char) (level : Nat) (escapeSpecial : Bool) : List Char :=
  if isBlank s then []
  else (splitLines (trim s)).flatMap fun line => textLine level escapeSpecial (trim line)

end HtmlToHaml.Haml
