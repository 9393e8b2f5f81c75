/-!
# Markup events

A source of XML read from left to right is a row of tags, texts, references and sections. What
a tag says is kept as it was written: references in its values are not replaced yet.
-/

namespace HtmlToHaml.Xml

/-- What a start tag says. -/
structure Tag where
  /-- The name, which may be empty. -/
  name : List Char
  /-- The attributes with their values as written. -/
  attributes : List (List Char × List Char)
  deriving DecidableEq, Repr

/-- A piece of markup. -/
inductive Event where
  /-- A start tag. -/
  | start (tag : Tag)
  /-- A start tag that closes itself. -/
  | empty (tag : Tag)
  /-- An end tag. -/
  | close (name : List Char)
  /-- Characters without a reference. -/
  | text (content : List Char)
  /-- A reference, by its name. -/
  | reference (name : List Char)
  /-- A character data section. -/
  | cdata (content : List Char)
  /-- A comment. -/
  | comment (content : List Char)
  /-- The XML declaration. -/
  | declaration (content : List Char)
  /-- A processing instruction. -/
  | instruction (content : List Char)
  /-- A document type declaration. -/
  | doctype (content : List Char)
  deriving DecidableEq, Repr

end HtmlToHaml.Xml
