import HtmlToHaml.Json.Value
import HtmlToHaml.DocTree.Snapshot

/-!
# Trees in JSON

Every node is a record that begins with its type.
-/

namespace HtmlToHaml.DocTree

/-- A record of a type. -/
def typed (type : String) (fields : List (String × Json)) : Json :=
  .record (("type", .string type) :: fields)

/-- A record of a type with nothing but a content. -/
def typedContent (type content : String) : Json :=
  typed type [("content", .string content)]

/-- A text that may be absent. -/
def optional (text : Option String) : Json :=
  (text.map Json.string).getD .null

/-- An attribute as a pair. -/
def Attribute.toJson (a : Attribute) : Json :=
  .list [.string a.name, .string a.value]

/-- A node without children as a record. -/
def Leaf.toJson : Leaf → Json
  | .text content => typedContent "text" content
  | .comment content => typedContent "comment" content
  | .cdata content => typedContent "cdata" content
  | .instruction content => typedContent "processing_instruction" content
  | .doctype name externalId systemId =>
    typed "doctype"
      [("name", .string name), ("external_id", optional externalId),
        ("system_id", optional systemId)]

/-- A node with children as a record. -/
def Branch.toJson (children : List Json) : Branch → Json
  | .document => typed "document" [("children", .list children)]
  | .fragment => typed "fragment" [("children", .list children)]
  | .element name attributes selfClosing =>
    typed "element"
      [("name", .string name), ("attributes", .list (attributes.map Attribute.toJson)),
        ("self_closing", .bool selfClosing), ("children", .list children)]

mutual

/-- A tree as a record. -/
def Shape.toJson : Shape → Json
  | .branch kind children => kind.toJson (Shape.allToJson children)
  | .leaf content => content.toJson

/-- Trees as records. -/
def Shape.allToJson : List Shape → List Json
  | [] => []
  | tree :: rest => tree.toJson :: Shape.allToJson rest

end

end HtmlToHaml.DocTree
