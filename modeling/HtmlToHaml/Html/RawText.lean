import HtmlToHaml.Html.Token
import HtmlToHaml.Text.Search

/-!
# Text up to an end tag

The content of some elements is text in which only their own end tag counts. In a script, a comment
may hide that end tag: inside a comment a second script may begin and end.
-/

namespace HtmlToHaml.Html

/-- Whether a character ends the name of a tag. -/
def endsTagName (c : Char) : Bool :=
  isHtmlSpace c || c == '/' || c == '>'

/-- Whether the text after a less-than sign is an end tag of a name. -/
def isEndTagOf (name : List Char) : List Char → Bool
  | '/' :: s =>
    ((s.takeWhile Char.isAlpha).map Char.toLower == name) &&
      match s.dropWhile Char.isAlpha with
      | c :: _ => endsTagName c
      | [] => false
  | _ => false

/-- The text in front of an end tag of a name, and the text from that end tag on. -/
def untilEndTag (name : List Char) : List Char → List Char × List Char
  | [] => ([], [])
  | c :: s =>
    if c = '<' ∧ isEndTagOf name s then ([], c :: s)
    else
      let (text, rest) := untilEndTag name s
      (c :: text, rest)

/-- Where a reader of a script is. -/
inductive ScriptPlace where
  /-- In plain script. -/
  | plain
  /-- After a less-than sign. -/
  | plainLess
  /-- After an exclamation mark behind it. -/
  | opening
  /-- After one hyphen behind that. -/
  | openingDash
  /-- In a comment. -/
  | escaped
  /-- In a comment, after a hyphen. -/
  | escapedDash
  /-- In a comment, after two hyphens. -/
  | escapedDashes
  /-- In a comment, after a less-than sign. -/
  | escapedLess
  /-- In a comment, in the name of a tag. -/
  | escapedName (name : List Char)
  /-- In a script in a comment. -/
  | double
  /-- In a script in a comment, after a hyphen. -/
  | doubleDash
  /-- In a script in a comment, after two hyphens. -/
  | doubleDashes
  /-- In a script in a comment, after a less-than sign. -/
  | doubleLess
  /-- In a script in a comment, in the name of an end tag. -/
  | doubleName (name : List Char)
  deriving DecidableEq, Repr

namespace ScriptPlace

/-- The place after a character of plain script. -/
def afterPlain (c : Char) : ScriptPlace :=
  if c = '<' then .plainLess else .plain

/-- The place after a character of a comment. -/
def afterEscaped (c : Char) : ScriptPlace :=
  if c = '-' then .escapedDash else if c = '<' then .escapedLess else .escaped

/-- The place after a character of a script in a comment. -/
def afterDouble (c : Char) : ScriptPlace :=
  if c = '-' then .doubleDash else if c = '<' then .doubleLess else .double

/-- Whether a collected name is that of a script. -/
def isScriptName (name : List Char) : Bool :=
  name == "script".toList

/-- The place after a character. -/
def next (place : ScriptPlace) (c : Char) : ScriptPlace :=
  match place with
  | .plain => afterPlain c
  | .plainLess => if c = '!' then .opening else afterPlain c
  | .opening => if c = '-' then .openingDash else afterPlain c
  | .openingDash => if c = '-' then .escapedDashes else afterPlain c
  | .escaped => afterEscaped c
  | .escapedDash => if c = '-' then .escapedDashes else afterEscaped c
  | .escapedDashes =>
    if c = '-' then .escapedDashes else if c = '>' then .plain else afterEscaped c
  | .escapedLess => if c.isAlpha then .escapedName [c.toLower] else afterEscaped c
  | .escapedName name =>
    if endsTagName c then if isScriptName name then .double else .escaped
    else if c.isAlpha then .escapedName (name ++ [c.toLower])
    else afterEscaped c
  | .double => afterDouble c
  | .doubleDash => if c = '-' then .doubleDashes else afterDouble c
  | .doubleDashes => if c = '-' then .doubleDashes else if c = '>' then .plain else afterDouble c
  | .doubleLess => if c = '/' then .doubleName [] else afterDouble c
  | .doubleName name =>
    if endsTagName c then if isScriptName name then .escaped else .double
    else if c.isAlpha then .doubleName (name ++ [c.toLower])
    else afterDouble c

/-- Whether an end tag counts here. -/
def admitsEnd (place : ScriptPlace) : Bool :=
  place.next '<' == .plainLess || place.next '<' == .escapedLess

end ScriptPlace

/-- The script in front of its end tag, and the text from that end tag on. -/
def untilScriptEnd (place : ScriptPlace) : List Char → List Char × List Char
  | [] => ([], [])
  | c :: s =>
    if c = '<' ∧ place.admitsEnd ∧ isEndTagOf "script".toList s then ([], c :: s)
    else
      let (text, rest) := untilScriptEnd (place.next c) s
      (c :: text, rest)

end HtmlToHaml.Html
