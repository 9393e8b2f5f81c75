import HtmlToHaml.Html.Document
import HtmlToHaml.Log
import HtmlToHaml.Options
import HtmlToHaml.DocTree.Walk
import HtmlToHaml.Xml.Document
import HtmlToHaml.Xml.Scan

/-!
# Reading markup

A source is read as XHTML or as HTML. A whole document, which begins with a document type or one of
the tags of a page, gives a tree with a document as its root; anything else is a piece of a page and
gives a tree with a fragment as its root. A source with a character data section is read as XHTML if
it can be, and as HTML otherwise.
-/

namespace HtmlToHaml.Markup

open Text DocTree

/-- What a whole document begins with, in lower case. -/
def documentOpenings : List String :=
  ["<!doctype", "<html", "<head", "<body"]

/-- The mark that ends the processing instruction or comment a text begins with. -/
def prologEnd? (s : List Char) : Option (List Char) :=
  if (stripPrefix? ['<', '?'] s).isSome then some ['?', '>']
  else if (stripPrefix? ['<', '!', '-', '-'] s).isSome then some ['-', '-', '>']
  else none

/-- A mark is not empty. -/
theorem ne_nil_of_prologEnd? {s mark : List Char} (h : prologEnd? s = some mark) : mark ≠ [] := by
  unfold prologEnd? at h
  split at h
  · cases h
    simp
  · split at h
    · cases h
      simp
    · cases h

/-- The text after white space, processing instructions and comments; nothing if one of these does
not end. -/
def afterProlog (source : List Char) : Option (List Char) :=
  match _he : prologEnd? (trimStart source) with
  | none => some (trimStart source)
  | some mark =>
    match _hb : breakOn mark (trimStart source) with
    | some (_, rest) => afterProlog rest
    | none => none
termination_by source.length
decreasing_by
  exact Nat.lt_of_lt_of_le (length_lt_of_breakOn (ne_nil_of_prologEnd? _he) _hb)
    (trimStartBy_isSuffix isSpace source).length_le

/-- Whether a name of a tag ends where a text begins. -/
def endsOpening : List Char → Bool
  | [] => true
  | c :: _ => isSpace c || c == '>' || c == '/'

/-- Whether a text begins with a tag in any case. -/
def opensWith (s : List Char) (opening : String) : Bool :=
  (stripPrefixIgnoreCase? opening.toList s).any endsOpening

/-- Whether the first markup of a source belongs to a whole document. -/
def looksLikeDocument (source : List Char) : Bool :=
  (afterProlog source).any fun s => documentOpenings.any (opensWith s)

/-- A tree or why there is none, and what happened. -/
abbrev Reading := Except Failure Store × List Log.Event

/-- Reads XHTML. -/
def parseXhtml (source : List Char) : Reading :=
  let root := if looksLikeDocument source then Store.document else Store.fragment
  let (events, fault) := Xml.scan (Xml.dropMark source)
  let built := Xml.Builder.run { store := root } events
  let told := built.stray.toList.map Log.Event.strayEndTag
  match fault with
  | some fault => (.error (.xml fault), told)
  | none => (.ok built.store, told)

/-- A piece of a page in a page of its own. -/
def wrapped (source : List Char) : List Char :=
  "<!DOCTYPE html><html><head></head><body>".toList ++ source ++ "</body></html>".toList

/-- The tree of a piece of a page: what the body holds. -/
def fragmentOf (source : List Char) : Store :=
  let store := Html.document (wrapped source)
  match store.findByTag? "body" with
  | some body => store.intoFragment (some body)
  | none => store

/-- Reads HTML. -/
def parseHtml (source : List Char) : Store × List Log.Event :=
  if looksLikeDocument source then (Html.document source, [.readingDocument])
  else (fragmentOf source, [.readingFragment])

/-- Reads HTML after some events. -/
def parseHtmlAfter (told : List Log.Event) (source : List Char) : Reading :=
  let (store, more) := parseHtml source
  (.ok store, told ++ more)

/-- Reads a source as the options and the source itself demand. -/
def parse (source : List Char) (options : Options) : Reading :=
  if options.xhtml then
    let (tree, told) := parseXhtml source
    (tree, .readingXhtml :: told)
  else if contains "<![CDATA[".toList source then
    match parseXhtml source with
    | (.ok store, told) => (.ok store, told)
    | (.error cause, told) => parseHtmlAfter (told ++ [.fallingBack cause]) source
  else parseHtmlAfter [] source

end HtmlToHaml.Markup
