import HtmlToHaml.Entity.Reference
import HtmlToHaml.DocTree.Assembly
import HtmlToHaml.Xml.Doctype
import HtmlToHaml.Xml.Event

/-!
# Trees of XML markup

The events of a source make up a tree whatever their nesting. An end tag closes the innermost open
element of its name and everything opened inside it; one without such an element is ignored. Void
elements hold nothing even if their tag does not close them. Text and references in a row are one
text.
-/

namespace HtmlToHaml.Xml

open DocTree

/-- A tree under construction. -/
structure Builder where
  /-- The tree so far. -/
  store : Store
  /-- The open elements, the innermost first. -/
  openElements : List NodeId := []
  /-- The names of the end tags that closed nothing, in order. -/
  stray : Array String := #[]
  deriving DecidableEq, Repr

/-- The attributes of a tag with the references in their values replaced. -/
def Tag.treeAttributes (tag : Tag) : List Attribute :=
  tag.attributes.map fun (key, value) =>
    ⟨String.ofList key, String.ofList (Entity.unescape value)⟩

/-- The text that a reference stands for; an unknown one stays as it was written. -/
def referenceText (name : List Char) : List Char :=
  (Entity.resolve? name).getD ('&' :: name ++ [';'])

namespace Builder

/-- The node that takes the next child. -/
def parent (b : Builder) : NodeId :=
  b.openElements.headD b.store.root

/-- Adds a node to the current parent. -/
def add (b : Builder) (data : NodeData) : Builder :=
  let (store, id) := b.store.create data
  { b with store := store.append b.parent id }

/-- Adds text to the current parent. -/
def addText (b : Builder) (text : List Char) : Builder :=
  { b with store := b.store.appendText b.parent (String.ofList text) }

/-- Adds an element to the current parent and opens it unless it is void. -/
def addElement (b : Builder) (tag : Tag) : Builder :=
  let name := String.ofList tag.name
  let void := isVoidElement name
  let id := b.store.size
  let added := b.add (.element name tag.treeAttributes void)
  if void then added else { added with openElements := id :: b.openElements }

/-- Closes the innermost open element of a name. -/
def close (b : Builder) (name : String) : Builder :=
  match b.openElements.dropWhile (!b.store.isElementNamed · name) with
  | _ :: outer => { b with openElements := outer }
  | [] => { b with stray := b.stray.push name }

/-- The tree after one more event. -/
def step (b : Builder) : Event → Builder
  | .start tag => b.addElement tag
  | .empty tag => b.add (.element (String.ofList tag.name) tag.treeAttributes true)
  | .close name => b.close (String.ofList name)
  | .text content => b.addText content
  | .reference name => b.addText (referenceText name)
  | .cdata content => b.add (.cdata (String.ofList content))
  | .comment content => b.add (.comment (String.ofList content))
  | .declaration content | .instruction content => b.add (.instruction (String.ofList content))
  | .doctype content =>
    let declared := Declared.ofContent content
    b.add (.leaf (Leaf.normal (.doctype (String.ofList declared.name)
      (declared.externalId.map String.ofList) (declared.systemId.map String.ofList))))

/-- The tree after a row of events. -/
def run (b : Builder) (events : List Event) : Builder :=
  events.foldl step b

end Builder

end HtmlToHaml.Xml
