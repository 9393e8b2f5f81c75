import HtmlToHaml.DocTree.Node

/-!
# Elements of HTML

The languages that elements belong to, and the sets of names by which the rules for building a tree
tell elements apart.
-/

namespace HtmlToHaml.Html

open DocTree

/-- The language an element belongs to. -/
inductive Language where
  /-- The page itself. -/
  | html
  /-- Graphics. -/
  | svg
  /-- Formulas. -/
  | mathml
  deriving DecidableEq, Repr

/-- An element that has been opened. -/
structure Opened where
  /-- Its node. -/
  id : NodeId
  /-- Its language. -/
  language : Language
  /-- Its name. -/
  name : String
  deriving DecidableEq, Repr

/-- Names of HTML elements. -/
abbrev NameSet := List String

/-- Elements that start with a fresh line of content, and before which a paragraph ends. -/
def blockNames : NameSet :=
  ["address", "article", "aside", "blockquote", "center", "details", "dialog", "dir", "div", "dl",
    "fieldset", "figcaption", "figure", "footer", "header", "hgroup", "main", "menu", "nav", "ol",
    "p", "search", "section", "summary", "ul"]

/-- Elements whose end tag closes everything opened inside them. -/
def closableNames : NameSet :=
  ["address", "article", "aside", "blockquote", "button", "center", "details", "dialog", "dir",
    "div", "dl", "fieldset", "figcaption", "figure", "footer", "header", "hgroup", "listing",
    "main", "menu", "nav", "ol", "pre", "search", "section", "select", "summary", "ul"]

/-- Headings. -/
def headingNames : NameSet :=
  ["h1", "h2", "h3", "h4", "h5", "h6"]

/-- Elements that only change the look of text, apart from links and unbroken text. -/
def styleNames : NameSet :=
  ["b", "big", "code", "em", "font", "i", "s", "small", "strike", "strong", "tt", "u"]

/-- Elements that are reopened where text goes on after they were cut off. -/
def formattingNames : NameSet :=
  "a" :: "nobr" :: styleNames

/-- Elements with a formatting scope of their own. -/
def embeddedNames : NameSet :=
  ["applet", "marquee", "object"]

/-- Elements of the head that are read there wherever they stand. -/
def headNames : NameSet :=
  ["base", "basefont", "bgsound", "link", "meta", "noframes", "script", "style", "template",
    "title"]

/-- Elements of the head without content. -/
def headVoidNames : NameSet :=
  ["base", "basefont", "bgsound", "link", "meta"]

/-- Elements of the body without content that stand in lines of text. -/
def lineVoidNames : NameSet :=
  ["area", "br", "embed", "img", "keygen", "wbr"]

/-- Parts of a table and of a page that mean nothing elsewhere. -/
def misplacedNames : NameSet :=
  ["caption", "col", "colgroup", "frame", "head", "tbody", "td", "tfoot", "th", "thead", "tr"]

/-- Elements whose end is implied by what follows. -/
def impliedEndNames : NameSet :=
  ["dd", "dt", "li", "optgroup", "option", "p", "rb", "rp", "rt", "rtc"]

/-- Elements whose end is implied by the end of a template. -/
def thoroughEndNames : NameSet :=
  impliedEndNames ++ ["caption", "colgroup", "tbody", "td", "tfoot", "th", "thead", "tr"]

/-- Elements that an end tag of another name does not look past. -/
def specialNames : NameSet :=
  ["address", "applet", "area", "article", "aside", "base", "basefont", "bgsound", "blockquote",
    "body", "br", "button", "caption", "center", "col", "colgroup", "dd", "details", "dir", "div",
    "dl", "dt", "embed", "fieldset", "figcaption", "figure", "footer", "form", "frame", "frameset",
    "h1", "h2", "h3", "h4", "h5", "h6", "head", "header", "hgroup", "hr", "html", "iframe", "img",
    "input", "isindex", "li", "link", "listing", "main", "marquee", "menu", "meta", "nav",
    "noembed", "noframes", "noscript", "object", "ol", "p", "param", "plaintext", "pre", "script",
    "section", "select", "source", "style", "summary", "table", "tbody", "td", "template",
    "textarea", "tfoot", "th", "thead", "title", "tr", "track", "ul", "wbr", "xmp"]

/-- Elements that content written in a table moves out of. -/
def tableOuterNames : NameSet :=
  ["table", "tbody", "tfoot", "thead", "tr"]

/-- Elements that end a scope in a page. -/
def scopeNames : NameSet :=
  ["applet", "caption", "html", "marquee", "object", "select", "table", "td", "template", "th"]

/-- Elements that end a scope in a table. -/
def tableScopeNames : NameSet :=
  ["html", "table", "template"]

namespace Opened

/-- Whether an element is one of HTML with one of the names. -/
def isIn (opened : Opened) (names : NameSet) : Bool :=
  opened.language == .html && names.contains opened.name

/-- Whether an element is one of HTML with a name. -/
def isNamed (opened : Opened) (name : String) : Bool :=
  opened.language == .html && opened.name == name

/-- Whether text inside an element of a formula is read as HTML. -/
def holdsFormulaText (opened : Opened) : Bool :=
  opened.language == .mathml && ["mi", "mo", "mn", "ms", "mtext"].contains opened.name

/-- Whether the content of an element of a graphic is read as HTML. -/
def holdsHtml (opened : Opened) : Bool :=
  opened.language == .svg && ["foreignObject", "desc", "title"].contains opened.name

end Opened

/-- A set of elements that end a scope. -/
abbrev Scope := Opened → Bool

/-- The scope of most elements. -/
def pageScope : Scope := fun opened =>
  opened.isIn scopeNames || opened.holdsFormulaText || opened.holdsHtml

/-- The scope of list items. -/
def listScope : Scope := fun opened =>
  pageScope opened || opened.isIn ["ol", "ul"]

/-- The scope of paragraphs. -/
def buttonScope : Scope := fun opened =>
  pageScope opened || opened.isNamed "button"

/-- The scope of parts of a table. -/
def tableScope : Scope := fun opened =>
  opened.isIn tableScopeNames

end HtmlToHaml.Html
