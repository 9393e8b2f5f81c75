import HtmlToHaml.Failure
import HtmlToHaml.Text.Case
import HtmlToHaml.Text.Search
import HtmlToHaml.Text.Space

/-!
# Document types

The external identifier of a document type names a kind, a version and a strictness between `DTD`
and a double slash. The three are separated by white space and each takes as many characters as it
can; only the kind has to be there. The line for the document type leaves out what Haml assumes.
-/

namespace HtmlToHaml.Haml

open Text

/-- The most generous way to split off a run of characters of a class, possibly an empty one, so
that the rest is accepted. -/
def longestRun {α : Type} (p : Char → Bool) (accept : List Char → List Char → Option α) :
    List Char → Option α
  | [] => accept [] []
  | c :: s =>
    if p c then
      (longestRun p (fun run rest => accept (c :: run) rest) s).or (accept [] (c :: s))
    else accept [] (c :: s)

/-- As `longestRun`, with at least one character in the run. -/
def longestRunOne {α : Type} (p : Char → Bool) (accept : List Char → List Char → Option α)
    (s : List Char) : Option α :=
  longestRun p (fun run rest => if run.isEmpty then none else accept run rest) s

/-- What an external identifier says about a document type. -/
structure DocumentType where
  /-- The markup language. -/
  kind : List Char
  /-- Its version, or a variant of the language. -/
  version : List Char
  /-- The strictness, or the version of a variant. -/
  strictness : List Char
  deriving DecidableEq, Repr

/-- A character that is no ASCII white space. -/
def isTokenChar (c : Char) : Bool :=
  !isAsciiSpace c

/-- The double slash that ends the three words. -/
def slashes : List Char := ['/', '/']

/-- The three words in front of a double slash, with white space in front of the first one. -/
def spacedWords? (s : List Char) : Option DocumentType :=
  longestRunOne isAsciiSpace (fun _ s =>
    longestRunOne isTokenChar (fun kind s =>
      longestRun isAsciiSpace (fun _ s =>
        longestRun isTokenChar (fun version s =>
          longestRun isAsciiSpace (fun _ s =>
            longestRun isTokenChar (fun strictness s =>
              longestRun isAsciiSpace (fun _ s =>
                (stripPrefix? slashes s).map fun _ => ⟨kind, version, strictness⟩) s) s) s) s) s) s)
    s

/-- The three words after `DTD`; without a double slash there is nothing to look for. -/
def documentTypeWords? (s : List Char) : Option DocumentType :=
  if contains slashes s then spacedWords? s else none

/-- What the first `DTD` that is followed by such words says. -/
def documentType? : List Char → Option DocumentType
  | [] => none
  | c :: s =>
    match (stripPrefix? ['D', 'T', 'D'] (c :: s)).bind documentTypeWords? with
    | some found => some found
    | none => documentType? s

/-- A word of the document type line with a space in front, left out if it is empty or the
default. -/
def shownWord (default word : List Char) : List Char :=
  if word.isEmpty || word == default then [] else ' ' :: capitalize word

/-- The line for a document type. HTML has no version, and is strict unless it says otherwise. -/
def documentTypeLine (found : DocumentType) : List Char :=
  let isHtml := toLower found.kind == ['h', 't', 'm', 'l']
  let version := if isHtml then [] else toLower found.version
  let strictness := toLower found.strictness
  let strictness := if isHtml && strictness.isEmpty then "strict".toList else strictness
  '!' :: '!' :: '!' :: shownWord "1.0".toList version ++
    shownWord "transitional".toList strictness

/-- The line for the external identifier of a document type; one that is absent means the
current HTML. -/
def doctype (externalId : Option (List Char)) : Except Failure (List Char) :=
  match externalId with
  | none => .ok ['!', '!', '!']
  | some id =>
    match documentType? id with
    | some found => .ok (documentTypeLine found)
    | none => .error (.invalidDoctype (String.ofList id))

end HtmlToHaml.Haml
