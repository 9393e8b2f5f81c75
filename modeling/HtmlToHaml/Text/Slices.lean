import HtmlToHaml.Text.Search

/-!
# Cutting a text at a byte

A text in UTF-8 is cut at the number of a byte, and it is cut only where a character begins or the
text ends. What is searched for is found at the number of its first byte.
-/

namespace HtmlToHaml.Text

/-- The number of bytes of a text. -/
def byteLength (s : List Char) : Nat :=
  (String.ofList s).utf8ByteSize

/-- The text before a byte and the text from there on; nothing if the byte is in the middle of a
character or behind the end. -/
def cutAt? : Nat → List Char → Option (List Char × List Char)
  | 0, s => some ([], s)
  | _ + 1, [] => none
  | n + 1, c :: s =>
    if c.utf8Size ≤ n + 1 then (cutAt? (n + 1 - c.utf8Size) s).map fun cut => (c :: cut.1, cut.2)
    else none

/-- The byte at which a needle begins for the first time. -/
def positionOf? (needle s : List Char) : Option Nat :=
  (breakOn needle s).map fun cut => byteLength cut.1

end HtmlToHaml.Text
