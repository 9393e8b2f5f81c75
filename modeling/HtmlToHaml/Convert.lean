import HtmlToHaml.Encoding.Decode
import HtmlToHaml.Haml.Outline
import HtmlToHaml.Markup

/-!
# Conversion

Markup is read into a tree, and the tree is written as Haml.
-/

namespace HtmlToHaml

/-- A text or why there is none, and what happened. -/
abbrev Told := Except Failure (List Char) × List Log.Event

/-- Markup as Haml, with what happened. -/
def convertTold (source : List Char) (options : Options) : Told :=
  match Markup.parse source options with
  | (.error failure, told) => (.error failure, told)
  | (.ok store, told) =>
    let (text, pass) := Haml.runPass store options
    (text, told ++ pass.events.toList)

/-- Bytes of markup as Haml, with what happened. -/
def convertBytesTold (bytes : List UInt8) (options : Options) : Told :=
  match Encoding.decode bytes with
  | .error failure => (.error failure, [])
  | .ok source => convertTold source options

/-- Markup as Haml. -/
def convert (source : List Char) (options : Options) : Except Failure (List Char) :=
  (convertTold source options).1

/-- Bytes of markup as Haml. -/
def convertBytes (bytes : List UInt8) (options : Options) : Except Failure (List Char) :=
  (convertBytesTold bytes options).1

end HtmlToHaml
