import HtmlToHaml.Encoding.Charset
import HtmlToHaml.Xml.Fault

/-!
# Failures

Every cause for which a conversion gives no text, and its message.
-/

namespace HtmlToHaml

/-- Why a conversion fails. -/
inductive Failure where
  /-- The source is no XML markup. -/
  | xml (fault : Xml.Fault)
  /-- An external identifier that names no known document type. -/
  | invalidDoctype (externalId : String)
  /-- Bytes on a line that mean nothing in the charset. -/
  | invalidEncoding (line : Nat) (charset : Encoding.Charset) (bytes : List UInt8)
  /-- A tree deeper than the limit. -/
  | tooDeep (limit : Nat)
  deriving DecidableEq, Repr

namespace Failure

/-- The failure in words. -/
def message : Failure → String
  | .xml fault => "XML parsing error: " ++ fault.message
  | .invalidDoctype externalId => "Invalid doctype: " ++ externalId
  | .invalidEncoding line charset bytes =>
    "Line " ++ toString line ++ ": Invalid " ++ charset.name ++ " character " ++
      String.ofList (Encoding.dumpBytes bytes)
  | .tooDeep limit => "Document nesting exceeds " ++ toString limit ++ " levels"

/-- The line of the source that the failure points at, counted from one. -/
def line? : Failure → Option Nat
  | .invalidEncoding line _ _ => some line
  | _ => none

end Failure

end HtmlToHaml
