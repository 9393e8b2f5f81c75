import HtmlToHaml.Text.Slices
import HtmlToHaml.Xml.Doctype

/-!
# Document type declarations, slice by slice

The literals of a document type declaration are looked for with the text at hand as bytes. Each
turn finds the bytes at which two quotation marks of one kind stand, takes the slice between them,
and goes on with the slice behind the second one. Slicing may fail, for a slice begins and ends
with whole characters.
-/

namespace HtmlToHaml.Xml

open Text

/-- The byte at which the first quotation mark of either kind stands. -/
def quotePosition? (s : List Char) : Option Nat :=
  (s.find? isQuote).map fun _ => byteLength (s.takeWhile (!isQuote ·))

/-- The literals in a text; nothing if a slice fails or more turns are needed. -/
def sliceLiterals : (turns : Nat) → List Char → Option (List (List Char))
  | 0, _ => none
  | turns + 1, rest =>
    match quotePosition? rest with
    | none => some []
    | some start => do
      let (_, quoted) ← cutAt? start rest
      let (_, body) ← cutAt? (start + 1) rest
      match positionOf? [quoted.head?.getD '"'] body with
      | none => some []
      | some stop =>
        let (literal, _) ← cutAt? stop body
        let (_, behind) ← cutAt? (stop + 1) body
        (sliceLiterals turns behind).map (literal :: ·)

/-- The number of bytes of either keyword. -/
def keywordBytes : Nat := 6

/-- What the content of a document type declaration says; nothing if a slice fails or more turns
are needed. What stands behind the name is cut behind the bytes of a keyword if it can be,
whatever they are. -/
def sliceDeclared (turns : Nat) (content : List Char) : Option Declared :=
  let content := trim content
  let name := content.takeWhile (!isSpace ·)
  let cut := cutAt? keywordBytes (trimStart (content.dropWhile (!isSpace ·)))
  let keyword := (cut.map Prod.fst).getD []
  let isKeyword (word : String) := keyword.map Char.toLower == word.toList.map Char.toLower
  (sliceLiterals turns ((cut.map Prod.snd).getD [])).map fun literals =>
    if isKeyword "PUBLIC" then ⟨name, literals[0]?, literals[1]?⟩
    else if isKeyword "SYSTEM" then ⟨name, none, literals[0]?⟩
    else ⟨name, none, none⟩

end HtmlToHaml.Xml
