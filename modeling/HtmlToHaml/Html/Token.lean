import HtmlToHaml.DocTree.Node

/-!
# HTML tokens

What a source of HTML is read into before a tree is made of it: tags, comments, document types and
characters. Names of tags and attributes are in lower case, and no attribute is repeated.
-/

namespace HtmlToHaml.Html

open DocTree

/-- A tag. -/
structure Tag where
  /-- The name. -/
  name : String
  /-- The attributes in the order of the source. -/
  attributes : List Attribute
  /-- Whether a slash stands before the closing bracket. -/
  selfClosing : Bool := false
  deriving DecidableEq, Repr

/-- A document type. -/
structure Doctype where
  /-- The name. -/
  name : Option (List Char) := none
  /-- The public identifier. -/
  externalId : Option (List Char) := none
  /-- The system identifier. -/
  systemId : Option (List Char) := none
  /-- Whether it is so malformed that the document counts as an old one. -/
  malformed : Bool := false
  deriving DecidableEq, Repr

/-- A piece of HTML. -/
inductive Token where
  /-- A document type. -/
  | doctype (doctype : Doctype)
  /-- A start tag. -/
  | startTag (tag : Tag)
  /-- An end tag. -/
  | endTag (tag : Tag)
  /-- A comment. -/
  | comment (content : List Char)
  /-- Characters, none of them the null character. -/
  | characters (content : List Char)
  /-- The null character. -/
  | null
  /-- A mistake in the source that leaves no other trace. -/
  | mistake
  /-- The end of the source. -/
  | finish
  deriving DecidableEq, Repr

/-- How the characters of a source are read. -/
inductive Reading where
  /-- As markup. -/
  | markup
  /-- As text with references, up to the end tag of a name. -/
  | escapable (name : List Char)
  /-- As text, up to the end tag of a name. -/
  | raw (name : List Char)
  /-- As script, up to its end tag. -/
  | script
  /-- As text up to the end of the source. -/
  | plain
  deriving DecidableEq, Repr

/-- White space as HTML means it. -/
def isHtmlSpace (c : Char) : Bool :=
  c == ' ' || c == '\t' || c == '\n' || c == '\x0c' || c == '\r'

/-- The character, where a stand-in replaces the null character. -/
def visible (c : Char) : Char :=
  if c.toNat = 0 then '\uFFFD' else c

/-- The text in which a stand-in replaces every null character. -/
def visibleText (s : List Char) : List Char :=
  s.map visible

/-- The text with ASCII letters in lower case and without null characters. -/
def nameText (s : List Char) : List Char :=
  s.map fun c => visible c.toLower

/-- The text with every line break as one line feed. -/
def normalizeBreaks : List Char → List Char
  | '\r' :: '\n' :: s => '\n' :: normalizeBreaks s
  | '\r' :: s => '\n' :: normalizeBreaks s
  | c :: s => c :: normalizeBreaks s
  | [] => []

end HtmlToHaml.Html
