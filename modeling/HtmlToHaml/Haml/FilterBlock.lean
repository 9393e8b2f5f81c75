import HtmlToHaml.Haml.PlainText
import HtmlToHaml.Text.Search
import HtmlToHaml.DocTree.Node

/-!
# Filter blocks

A filter writes its body as it is: a header line with the filter's name, and the body one level
deeper. A body whose lines share the indentation of the first one is moved as a whole; any other is
left as it was written.
-/

namespace HtmlToHaml.Haml

open Text

/-- The filters that are written. -/
inductive Filter where
  /-- Scripts of the page. -/
  | javascript
  /-- Style sheets. -/
  | css
  /-- Character data sections. -/
  | cdata
  /-- Text whose white space counts. -/
  | preserve
  deriving DecidableEq, Repr

/-- The name of a filter. -/
def Filter.name : Filter → String
  | .javascript => "javascript"
  | .css => "css"
  | .cdata => "cdata"
  | .preserve => "preserve"

/-- The filter that stands for an element: one for a script or a style without any attribute but
the type it has anyway. -/
def Filter.forElement? (name : String) (attributes : List DocTree.Attribute) : Option Filter :=
  let onlyType (mime : String) := attributes.all fun a => a.name == "type" && a.value == mime
  if name = "script" then if onlyType "text/javascript" then some .javascript else none
  else if name = "style" then if onlyType "text/css" then some .css else none
  else none

/-- What opens a character data section. -/
def cdataOpen : List Char := ['<', '!', '[', 'C', 'D', 'A', 'T', 'A', '[']

/-- What closes a character data section. -/
def cdataClose : List Char := [']', ']', '>']

/-- The text after a first line that holds nothing but indentation and a mark. -/
def framingLine? (mark s : List Char) : Option (List Char) :=
  stripPrefix? (mark ++ ['\n']) (s.dropWhile isIndent)

/-- What follows a framing line is shorter than the text. -/
theorem length_lt_of_framingLine? {mark s rest : List Char} (h : framingLine? mark s = some rest) :
    rest.length < s.length :=
  Nat.lt_of_lt_of_le (length_lt_of_stripPrefix? (by simp) h)
    (List.dropWhile_suffix isIndent).length_le

/-- The text without its framing lines of a mark; `atStart` tells that a line begins here. -/
def dropFraming (mark : List Char) (atStart : Bool) : List Char → List Char
  | [] => []
  | c :: s =>
    match _h : if atStart then framingLine? mark (c :: s) else none with
    | some rest => dropFraming mark true rest
    | none => c :: dropFraming mark (c == '\n') s
termination_by s => s.length
decreasing_by
  · have hf : framingLine? mark (c :: s) = some rest := by
      cases atStart <;> simp_all
    exact length_lt_of_framingLine? hf
  · simp

/-- Whether the text has a framing line of a mark. -/
def hasFramingLine (mark : List Char) (atStart : Bool) : List Char → Bool
  | [] => false
  | c :: s =>
    (atStart && (framingLine? mark (c :: s)).isSome) || hasFramingLine mark (c == '\n') s

/-- Whether the text carries the lines that frame a character data section. -/
def hasCdataFraming (s : List Char) : Bool :=
  hasFramingLine cdataOpen true s || hasFramingLine cdataClose true s

/-- The text without the lines that frame a character data section. -/
def stripCdataFraming (s : List Char) : List Char :=
  dropFraming cdataClose true (dropFraming cdataOpen true s)

/-- The lines from the first to the last that is not blank. -/
def bodyLines (s : List Char) : List (List Char) :=
  let fromFirst := (splitLines s).dropWhile isBlank
  (fromFirst.reverse.dropWhile isBlank).reverse

/-- The white space a line begins with. -/
def leadingSpace (line : List Char) : List Char :=
  line.takeWhile isSpace

/-- Whether a line is blank or begins with a given indentation. -/
def sharesIndent (indent line : List Char) : Bool :=
  isBlank line || (stripPrefix? indent line).isSome

/-- A line moved from the body's own indentation to a level; a blank one becomes empty. -/
def moveLine (indent : List Char) (level : Nat) (line : List Char) : List Char :=
  if isBlank line then [] else indentation level ++ line.drop indent.length

/-- The body of a filter at a level. -/
def normalizeBody (s : List Char) (level : Nat) : List Char :=
  let body := bodyLines s
  let indent := leadingSpace (body.headD [])
  unlines (if body.all (sharesIndent indent) then body.map (moveLine indent level) else body)

/-- A filter with its body at a level. -/
def filterBlock (filter : Filter) (s : List Char) (level : Nat) : List Char :=
  indentation level ++ ':' :: filter.name.toList ++ '\n' :: normalizeBody s (level + 1)

end HtmlToHaml.Haml
