import HtmlToHaml.DocTree.Walk

/-!
# Assembling a tree from HTML

The operations by which a reader of HTML puts a tree together. Void elements are marked as closing
themselves, and an attribute that is on or off and was written without a value takes its own name as
the value. Text joins a text that already ends the parent's children.
-/

namespace HtmlToHaml.DocTree

/-- The elements that never have content. -/
def voidElements : List String :=
  ["area", "base", "br", "col", "embed", "hr", "img", "input", "keygen", "link", "meta", "param",
    "source", "track", "wbr"]

/-- The attributes that are on whenever they are present. -/
def booleanAttributes : List String :=
  ["async", "autofocus", "autoplay", "checked", "controls", "default", "defer", "disabled",
    "formnovalidate", "hidden", "ismap", "loop", "multiple", "muted", "nomodule", "novalidate",
    "open", "readonly", "required", "reversed", "selected"]

/-- Whether an element of this name never has content. -/
def isVoidElement (name : String) : Bool :=
  voidElements.contains name

/-- The attribute with its own name as the value, if it is on or off and has none. -/
def Attribute.spelledOut (a : Attribute) : Attribute :=
  if a.value.isEmpty && booleanAttributes.contains a.name then { a with value := a.name } else a

/-- What is put into a tree: a node that exists already, or text. -/
inductive Content where
  /-- A node. -/
  | node (link : Link)
  /-- Character data. -/
  | text (characters : String)
  deriving DecidableEq, Repr

namespace Store

/-- A new element as HTML means it. -/
def createHtmlElement (store : Store) (name : String) (attributes : List Attribute) :
    Store × NodeId :=
  store.create (.element name (attributes.map Attribute.spelledOut) (isVoidElement name))

/-- A new processing instruction with its target in front. -/
def createInstruction (store : Store) (target data : String) : Store × NodeId :=
  store.create (.instruction (target ++ " " ++ data))

/-- Puts content at the end of a parent's children. -/
def appendContent (store : Store) (parent : Link) : Content → Store
  | .node link => store.append parent link
  | .text characters => store.appendText parent characters

/-- Puts content right before a sibling; text becomes a node of its own. -/
def insertContentBefore (store : Store) (sibling : Link) : Content → Store
  | .node link => store.insertBefore sibling link
  | .text characters =>
    let (store, id) := store.create (.text characters)
    store.insertBefore sibling id

/-- Puts content at the end of the children of an element's parent, or of the element that was
opened before it if it has no parent. -/
def appendBesides (store : Store) (element previous : Link) (content : Content) : Store :=
  match element.bind store.parent? with
  | some parent => store.appendContent (some parent) content
  | none => store.appendContent previous content

/-- Puts a document type at the end of the root's children. -/
def appendDoctype (store : Store) (name externalId systemId : String) : Store :=
  let (store, id) := store.createLeaf (.doctype name (some externalId) (some systemId))
  store.append store.root id

/-- The attributes with those of a second list whose names are new, one after the other. -/
def missingAdded (existing : List Attribute) : List Attribute → List Attribute
  | [] => existing
  | a :: rest =>
    missingAdded (if existing.any (·.name == a.name) then existing else existing ++ [a]) rest

/-- Adds attributes to an element that lacks them, as they are written. -/
def addMissingAttributes (store : Store) (target : Link) (attributes : List Attribute) : Store :=
  store.modify target fun node =>
    match node.data with
    | .element name existing selfClosing =>
      { node with data := .element name (missingAdded existing attributes) selfClosing }
    | _ => node

end Store

end HtmlToHaml.DocTree
