import HtmlToHaml.Haml.Marker
import HtmlToHaml.Haml.RubyLiteral
import HtmlToHaml.Options

/-!
# Attributes

An attribute value is a literal or, when it holds script markers, a Ruby expression: the script
itself if one marker is the whole value, and otherwise a string with interpolations. Explicit
attributes are written as one block in the order of their names; values of `id` and `class` that are
plain identifiers have a shorter form.
-/

namespace HtmlToHaml.Haml

open Text

/-- The value of an explicit attribute. -/
inductive AttributeValue where
  /-- Text that is quoted when written. -/
  | static (text : List Char)
  /-- A Ruby expression that is written as it is. -/
  | dynamic (expression : List Char)
  deriving DecidableEq, Repr

/-- The script of a marker whose opening tag has been read, and the text after it. The script is on
one line once the white space around it is left out. -/
def markerScript? (inner : List Char) : Option (List Char × List Char) :=
  match breakOn markerClose inner with
  | some (body, rest) =>
    if hasLineFeed (trimBy isAsciiSpace body) then none
    else some (trimBy isAsciiSpace body, rest)
  | none => none

/-- What follows a marker is shorter than what follows its opening tag. -/
theorem length_lt_of_markerScript? {inner script rest : List Char}
    (h : markerScript? inner = some (script, rest)) : rest.length < inner.length := by
  unfold markerScript? at h
  split at h
  · rename_i body after hb
    split at h
    · cases h
    · simp only [Option.some.injEq, Prod.mk.injEq] at h
      exact h.2 ▸ length_lt_of_breakOn (by simp [markerClose]) hb
  · cases h

/-- The scripts in a value with the text in front of each, and the text after the last one. -/
def valueScripts : List Char → List (List Char × List Char) × List Char
  | [] => ([], [])
  | c :: s =>
    match _h : (stripPrefix? markerOpen (c :: s)).bind markerScript? with
    | some (script, rest) =>
      let found := valueScripts rest
      (([], script) :: found.1, found.2)
    | none =>
      match valueScripts s with
      | ([], last) => ([], c :: last)
      | ((before, script) :: more, last) => ((c :: before, script) :: more, last)
termination_by s => s.length
decreasing_by
  · obtain ⟨inner, hi, hs⟩ := Option.bind_eq_some_iff.1 _h
    exact Nat.lt_trans (length_lt_of_markerScript? hs)
      (length_lt_of_stripPrefix? (by simp [markerOpen]) hi)
  · simp

/-- The expression for a value with scripts in it. -/
def expression? (value : List Char) : Option (List Char) :=
  match valueScripts value with
  | ([], _) => none
  | ([([], script)], []) =>
    let script := Entity.unescape script
    some (if script.isEmpty then ['"', '"'] else script)
  | (found, last) =>
    some ('"' :: found.flatMap (fun piece =>
      rubyEscape piece.1 ++ interpolation (Entity.unescape piece.2)) ++ rubyEscape last ++ ['"'])

namespace AttributeValue

/-- The value of an attribute as written in the page. -/
def classify (value : List Char) (erb : Bool) : AttributeValue :=
  match (if erb then expression? value else none) with
  | some expression => .dynamic expression
  | none => .static value

/-- The value in Ruby. -/
def toRuby : AttributeValue → List Char
  | .static text => rubyString text
  | .dynamic expression => expression

/-- The text the value holds, whatever its kind. -/
def content : AttributeValue → List Char
  | .static text => text
  | .dynamic expression => expression

/-- Whether the value is an expression. -/
def isDynamic : AttributeValue → Bool
  | .static _ => false
  | .dynamic _ => true

end AttributeValue

/-- Whether a text can be written as a short `id` or `class`: ASCII letters and digits, underscore,
hyphen and colon. -/
def isCssIdentifier (s : List Char) : Bool :=
  !s.isEmpty && s.all fun c => c.isAlphanum || c == '_' || c == '-' || c == ':'

/-- Whether a name needs no quotes as a key: ASCII letters and digits, and underscore. -/
def isWord (s : List Char) : Bool :=
  !s.isEmpty && s.all fun c => c.isAlphanum || c == '_'

/-- The class names that have a short form, and the others. -/
def splitClasses (value : List Char) : List (List Char) × List (List Char) :=
  (words value).partition isCssIdentifier

/-- An attribute of a block. -/
structure Entry where
  /-- The name. -/
  name : List Char
  /-- The value. -/
  value : AttributeValue
  deriving DecidableEq, Repr

/-- The order of texts by their characters. -/
def textLe : List Char → List Char → Bool
  | [], _ => true
  | _ :: _, [] => false
  | a :: s, b :: t => a.toNat < b.toNat || (a == b && textLe s t)

/-- A pair of a block in a style. -/
def formatPair (style : AttributeStyle) (name value : List Char) : List Char :=
  match style with
  | .html => (if isCssIdentifier name then name else rubyString name) ++ '=' :: value
  | .symbol =>
    if isWord name then ':' :: name ++ [' ', '=', '>', ' '] ++ value
    else rubyString name ++ [' ', '=', '>', ' '] ++ value
  | .ruby19 =>
    if isWord name then name ++ [':', ' '] ++ value
    else rubyString name ++ [' ', '=', '>', ' '] ++ value

/-- Texts with a separator between them. -/
def joinWith (separator : List Char) (parts : List (List Char)) : List Char :=
  separator.intercalate parts

/-- The block of explicit attributes, by the order of their names; equal names keep their order. -/
def formatAttributes (style : AttributeStyle) (entries : List Entry) : List Char :=
  let sorted := entries.mergeSort fun a b => textLe a.name b.name
  let pairs := sorted.map fun entry => formatPair style entry.name entry.value.toRuby
  match style with
  | .html => '(' :: joinWith [' '] pairs ++ [')']
  | .symbol | .ruby19 => '{' :: joinWith [',', ' '] pairs ++ ['}']

end HtmlToHaml.Haml
