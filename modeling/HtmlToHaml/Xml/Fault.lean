/-!
# Faults of XML markup

The ways in which a source can fail to be a sequence of tags, references and sections. Everything
else is tolerated, so these are all the causes for which reading XHTML stops.
-/

namespace HtmlToHaml.Xml

/-- Why a source is no sequence of markup. -/
inductive Fault where
  /-- An ampersand without a semicolon before the next ampersand, tag or end. -/
  | referenceNotClosed
  /-- A tag without its closing bracket. -/
  | tagNotClosed
  /-- A tag that ends inside a quoted value. -/
  | valueNotClosed (quote : Char)
  /-- An exclamation mark that opens no known section. -/
  | unknownMarkup
  /-- A character data section without its end. -/
  | cdataNotClosed
  /-- A comment without its end. -/
  | commentNotClosed
  /-- A document type declaration without its closing bracket. -/
  | doctypeNotClosed
  /-- A document type declaration that names nothing. -/
  | doctypeNameMissing
  /-- A processing instruction without its end. -/
  | instructionNotClosed
  /-- An XML declaration without its end. -/
  | declarationNotClosed
  deriving DecidableEq, Repr

/-- What is missing, said as a fault of the markup. -/
private def notFound (what : String) (closing : String) : String :=
  what ++ " not closed: `" ++ closing ++ "` not found before end of input"

/-- The fault in words. -/
def Fault.message : Fault → String
  | .referenceNotClosed =>
    "ill-formed document: " ++ notFound "entity or character reference" ";"
  | .tagNotClosed => "syntax error: " ++ notFound "tag" ">"
  | .valueNotClosed quote => "syntax error: " ++ notFound "attribute value" quote.toString
  | .unknownMarkup => "syntax error: unknown or missed symbol in markup"
  | .cdataNotClosed => "syntax error: " ++ notFound "CDATA" "]]>"
  | .commentNotClosed => "syntax error: " ++ notFound "comment" "-->"
  | .doctypeNotClosed => "syntax error: " ++ notFound "DOCTYPE" ">"
  | .doctypeNameMissing =>
    "ill-formed document: `<!DOCTYPE>` declaration does not contain a name of a document type"
  | .instructionNotClosed => "syntax error: " ++ notFound "processing instruction" "?>"
  | .declarationNotClosed => "syntax error: " ++ notFound "XML declaration" "?>"

end HtmlToHaml.Xml
