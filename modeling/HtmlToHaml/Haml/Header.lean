import HtmlToHaml.Haml.AttributeBlock
import HtmlToHaml.DocTree.Node

/-!
# Element headers

The header of an element is its name, its short `id` and classes, the block of its other attributes,
and the marks for nuked white space and for an element that closes itself. A `div` with a short
`id` or class needs no name.
-/

namespace HtmlToHaml.Haml

open Text

/-- The attributes of an element with their values in Haml. -/
def entries (attributes : List DocTree.Attribute) (erb : Bool) : List Entry :=
  attributes.map fun a => ⟨a.name.toList, AttributeValue.classify a.value.toList erb⟩

/-- The literal value of the first attribute of a name. -/
def staticValue? (entries : List Entry) (name : List Char) : Option (List Char) :=
  match (entries.find? (·.name == name)).map Entry.value with
  | some (.static text) => some text
  | _ => none

/-- The name of the attribute that identifies an element. -/
def idName : List Char := ['i', 'd']

/-- The name of the attribute that classifies an element. -/
def className : List Char := ['c', 'l', 'a', 's', 's']

/-- What stands for the attributes of an element: the short forms, and what is left for the
block. -/
structure Shorthand where
  /-- The short `id`. -/
  id : Option (List Char)
  /-- The short classes. -/
  classes : List (List Char)
  /-- The attributes of the block, in the order of the source. -/
  block : List Entry
  deriving DecidableEq, Repr

/-- The attributes left when the `id` has a short form. -/
def withoutId (id : Option (List Char)) (entries : List Entry) : List Entry :=
  if id.isSome then entries.filter (·.name != idName) else entries

/-- The attributes left when the classes are split: the classes without a short form stay as one
attribute at the end. -/
def withClasses (classes : Option (List (List Char) × List (List Char))) (entries : List Entry) :
    List Entry :=
  match classes with
  | some (_, others) =>
    entries.filter (·.name != className) ++
      (if others.isEmpty then [] else [⟨className, .static (joinWith [' '] others)⟩])
  | none => entries

/-- The short forms for the attributes of an element. -/
def Shorthand.of (entries : List Entry) : Shorthand :=
  let id := (staticValue? entries idName).filter isCssIdentifier
  let classes := (staticValue? entries className).map splitClasses
  { id
    classes := (classes.map Prod.fst).getD []
    block := withClasses classes (withoutId id entries) }

/-- Whether the name of an element is left out. -/
def elidesName (name : List Char) (short : Shorthand) : Bool :=
  name == ['d', 'i', 'v'] && (short.id.isSome || !short.classes.isEmpty)

/-- The header of an element without its indentation. -/
def header (style : AttributeStyle) (name : List Char) (short : Shorthand)
    (nuked selfClosing : Bool) : List Char :=
  (if elidesName name short then [] else '%' :: name) ++
    ((short.id.map fun id => '#' :: id).getD []) ++
    short.classes.flatMap (fun token => '.' :: token) ++
    (if short.block.isEmpty then [] else formatAttributes style short.block) ++
    (if nuked then ['>'] else []) ++ (if selfClosing then ['/'] else [])

end HtmlToHaml.Haml
