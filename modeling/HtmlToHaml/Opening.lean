import HtmlToHaml.Markup
import HtmlToHaml.Text.Slices

/-!
# The first markup, slice by slice

The first markup of a source is looked for with the source at hand as bytes. Each turn finds the
byte at which the processing instruction or comment in front ends, and goes on with the slice behind
it. Slicing may fail, for a slice begins and ends with whole characters.
-/

namespace HtmlToHaml.Markup

open Text

/-- Whether a text begins with a tag in any case; nothing if a slice of it fails. The text behind
the name is sliced off only if the text before it could be. -/
def opensAt? (rest : List Char) (opening : String) : Option Bool :=
  let head := (cutAt? opening.utf8ByteSize rest).map Prod.fst
  if head.any fun head => head.map Char.toLower == opening.toList.map Char.toLower then
    (cutAt? opening.utf8ByteSize rest).map fun cut => endsOpening cut.2
  else some false

/-- Whether the first markup of a text without leading white space belongs to a whole document;
nothing if a slice fails or more turns are needed. -/
def scanOpening : (turns : Nat) → List Char → Option Bool
  | 0, _ => none
  | turns + 1, rest =>
    match prologEnd? rest with
    | none => documentOpenings.anyM (opensAt? rest)
    | some mark =>
      match positionOf? mark rest with
      | none => some false
      | some start =>
        (cutAt? (start + mark.length) rest).bind fun cut => scanOpening turns (trimStart cut.2)

end HtmlToHaml.Markup
