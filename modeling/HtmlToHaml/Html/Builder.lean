import HtmlToHaml.Html.Token
import HtmlToHaml.Html.Vocabulary
import HtmlToHaml.DocTree.Assembly

/-!
# The tree under construction

A tree of HTML grows at the end of the innermost open element. Open elements form a stack, listed
from the innermost one outwards. While text is being fostered, content written straight into a table
goes to the parent of that table instead.
-/

namespace HtmlToHaml.Html

open DocTree

/-- The set of rules that reads the next token. -/
inductive Mode where
  /-- At the start of the source. -/
  | initial
  /-- Before the root element. -/
  | beforeHtml
  /-- Before the head. -/
  | beforeHead
  /-- In the head. -/
  | inHead
  /-- Between head and body. -/
  | afterHead
  /-- In the body. -/
  | inBody
  /-- In an element that holds text only. -/
  | text
  /-- In a table, outside its parts. -/
  | inTable
  /-- In text written straight into a table. -/
  | inTableText
  /-- In the caption of a table. -/
  | inCaption
  /-- In a group of columns. -/
  | inColumnGroup
  /-- In a group of rows. -/
  | inTableBody
  /-- In a row. -/
  | inRow
  /-- In a cell. -/
  | inCell
  /-- In a template. -/
  | inTemplate
  /-- After the body. -/
  | afterBody
  /-- In a set of frames. -/
  | inFrameset
  /-- After a set of frames. -/
  | afterFrameset
  /-- After the root element of a page with a body. -/
  | afterAfterBody
  /-- After the root element of a page with frames. -/
  | afterAfterFrameset
  deriving DecidableEq, Repr

/-- An entry of the list of formatting elements. -/
inductive FormatEntry where
  /-- The border of an element with a formatting scope of its own. -/
  | marker
  /-- An element and the tag that made it. -/
  | element (id : NodeId) (tag : Tag)
  deriving DecidableEq, Repr

/-- Whether an entry is that of a node. -/
def FormatEntry.isOf (id : NodeId) : FormatEntry → Bool
  | .marker => false
  | .element other _ => other == id

/-- A tree under construction, and what its further growth depends on. -/
structure Builder where
  /-- The tree so far. -/
  store : Store := Store.document
  /-- The rules in force. -/
  mode : Mode := .initial
  /-- The rules in force after text. -/
  returnMode : Mode := .inBody
  /-- The open elements, the innermost first. -/
  opened : List Opened := []
  /-- The formatting elements, the latest first. -/
  formatting : List FormatEntry := []
  /-- The rules in force in each open template, the innermost first. -/
  templateModes : List Mode := []
  /-- The head. -/
  head : Option Opened := none
  /-- The form that is being filled. -/
  form : Option NodeId := none
  /-- Whether a set of frames may still replace the body. -/
  framesetAllowed : Bool := true
  /-- Whether the document is an old one. -/
  old : Bool := false
  /-- Whether content written straight into a table leaves it. -/
  fostering : Bool := false
  /-- Whether a line feed that comes next is left out. -/
  skipLineFeed : Bool := false
  /-- Text written straight into a table, in runs. -/
  tableText : List (List Char) := []
  /-- How characters are read on. -/
  reading : Reading := .markup

/-- What a rule makes of a token. -/
structure Outcome where
  /-- The tree after the token. -/
  builder : Builder
  /-- The rules that read the token once more. -/
  again : Option Mode := none

/-- Where content goes. -/
inductive Place where
  /-- To the end of a node. -/
  | within (parent : Link)
  /-- To the parent of a table, or else to the element that was opened before it. -/
  | besides (table previous : Link)

namespace Builder

/-- The token needs nothing more. -/
def done (b : Builder) : Outcome := ⟨b, none⟩

/-- The token is read once more by other rules. -/
def again (b : Builder) (mode : Mode) : Outcome := ⟨b, some mode⟩

/-- The token is the last one for the rules in force. -/
def turn (b : Builder) (mode : Mode) : Outcome := done { b with mode }

/-- The innermost open element. -/
def current? (b : Builder) : Option Opened := b.opened.head?

/-- The root element. -/
def root? (b : Builder) : Option Opened := b.opened.getLast?

/-- Whether the innermost open element is one of HTML with a name. -/
def isCurrent (b : Builder) (name : String) : Bool :=
  b.current?.any (·.isNamed name)

/-- Whether the innermost open element is one of HTML with one of the names. -/
def isCurrentIn (b : Builder) (names : NameSet) : Bool :=
  b.current?.any (·.isIn names)

/-- Whether an element of HTML with a name is open. -/
def hasOpen (b : Builder) (name : String) : Bool :=
  b.opened.any (·.isNamed name)

/-- Whether an element that satisfies a test stands in a stack, with no end of a scope further
inside. -/
def standsInScope (scope : Scope) (p : Opened → Bool) : List Opened → Bool
  | [] => false
  | e :: outer => p e || (!scope e && standsInScope scope p outer)

/-- Whether an element that satisfies a test is open in a scope. -/
def hasInScope (b : Builder) (scope : Scope) (p : Opened → Bool) : Bool :=
  standsInScope scope p b.opened

/-- Whether an element of HTML with a name is open in a scope. -/
def hasNamed (b : Builder) (scope : Scope) (name : String) : Bool :=
  b.hasInScope scope (·.isNamed name)

/-- Without the innermost open element. -/
def pop (b : Builder) : Builder :=
  { b with opened := b.opened.drop 1 }

/-- Without the open elements up to and including the first that satisfies a test. -/
def closeTo (b : Builder) (p : Opened → Bool) : Builder :=
  { b with opened := (b.opened.dropWhile (!p ·)).drop 1 }

/-- Without the open elements up to and including the first with a name. -/
def close (b : Builder) (name : String) : Builder :=
  b.closeTo (·.isNamed name)

/-- Without the open elements up to the first with one of the names, which stays. -/
def backTo (b : Builder) (names : NameSet) : Builder :=
  { b with opened := b.opened.dropWhile (!·.isIn names) }

/-- Without one open element, wherever it stands. -/
def forget (b : Builder) (id : NodeId) : Builder :=
  { b with opened := b.opened.eraseP (·.id == id) }

/-- Without the innermost open elements whose end is implied. -/
def implyEnds (b : Builder) (names : NameSet) : Builder :=
  { b with opened := b.opened.dropWhile (·.isIn names) }

/-- Without the innermost open elements whose end is implied, but not those with a name. -/
def implyEndsExcept (b : Builder) (name : String) : Builder :=
  b.implyEnds (impliedEndNames.filter (· != name))

/-- Without the paragraph that is open in the scope of paragraphs. -/
def closeParagraph (b : Builder) : Builder :=
  if b.hasNamed buttonScope "p" then (b.implyEndsExcept "p").close "p" else b

/-- No set of frames may replace the body any more. -/
def forbidFrameset (b : Builder) : Builder :=
  { b with framesetAllowed := false }

/-- Where content leaves a table for. -/
def fosterPlace (root : Link) : List Opened → Place
  | [] => .within root
  | e :: outer =>
    if e.isNamed "template" then .within e.id
    else if e.isNamed "table" then .besides e.id (outer.head?.map (·.id))
    else fosterPlace root outer

/-- Where content for an element goes. -/
def placeFor (b : Builder) (target : Option Opened) : Place :=
  if b.fostering && target.any (·.isIn tableOuterNames) then
    fosterPlace (b.root?.map (·.id)) b.opened
  else .within (target.map (·.id))

/-- Puts content for an element into the tree. -/
def put (b : Builder) (target : Option Opened) (content : Content) : Builder :=
  match b.placeFor target with
  | .within parent => { b with store := b.store.appendContent parent content }
  | .besides table previous =>
    { b with store := b.store.appendBesides table previous content }

/-- Adds text at the current place. -/
def addText (b : Builder) (s : List Char) : Builder :=
  b.put b.current? (.text (String.ofList s))

/-- Adds a comment at the current place. -/
def addComment (b : Builder) (s : List Char) : Builder :=
  let (store, id) := b.store.create (.comment (String.ofList s))
  put { b with store } b.current? (.node id)

/-- Adds a comment at the end of a given node. -/
def addCommentTo (b : Builder) (parent : Link) (s : List Char) : Builder :=
  let (store, id) := b.store.create (.comment (String.ofList s))
  { b with store := store.append parent id }

/-- Adds an element at the current place without opening it. -/
def addElement (b : Builder) (name : String) (attributes : List Attribute) : Builder :=
  let (store, id) := b.store.createHtmlElement name attributes
  put { b with store } b.current? (.node id)

/-- Adds an element of a language at the current place and opens it. -/
def openElement (b : Builder) (language : Language) (name : String)
    (attributes : List Attribute) : Builder :=
  let id := b.store.size
  let added := b.addElement name attributes
  { added with opened := ⟨id, language, name⟩ :: added.opened }

/-- Adds the element of a tag and opens it. -/
def openTag (b : Builder) (tag : Tag) : Builder :=
  b.openElement .html tag.name tag.attributes

/-- Adds an element without attributes and opens it. -/
def openNamed (b : Builder) (name : String) : Builder :=
  b.openElement .html name []

/-- Adds the element of a tag without opening it. -/
def addTag (b : Builder) (tag : Tag) : Builder :=
  b.addElement tag.name tag.attributes

/-- Adds the element of a tag, whose content is text only. -/
def openText (b : Builder) (tag : Tag) (reading : List Char → Reading) : Builder :=
  { b.openTag tag with
    reading := reading tag.name.toList
    returnMode := b.mode
    mode := .text }

/-- Adds the root element and opens it. -/
def openRoot (b : Builder) (attributes : List Attribute) : Builder :=
  let (store, id) := b.store.createHtmlElement "html" attributes
  { b with
    store := store.append (some store.root) (some id)
    opened := ⟨id, .html, "html"⟩ :: b.opened }

/-- The rules for the content of the open elements. -/
def contentMode (b : Builder) : List Opened → Mode
  | [] => .inBody
  | e :: outer =>
    if e.language != .html then b.contentMode outer
    else
      match e.name with
      | "td" | "th" => if outer.isEmpty then b.contentMode outer else .inCell
      | "tr" => .inRow
      | "tbody" | "thead" | "tfoot" => .inTableBody
      | "caption" => .inCaption
      | "colgroup" => .inColumnGroup
      | "table" => .inTable
      | "template" => b.templateModes.headD .inTemplate
      | "head" => if outer.isEmpty then b.contentMode outer else .inHead
      | "body" => .inBody
      | "frameset" => .inFrameset
      | "html" => if b.head.isNone then .beforeHead else .afterHead
      | _ => b.contentMode outer

/-- The rules for the content of the innermost open element. -/
def resetMode (b : Builder) : Mode :=
  b.contentMode b.opened

end Builder

/-- What is done with a tag. -/
abbrev TagRule := Builder → Tag → Outcome

/-- What is done with tags, by their names. -/
abbrev TagRules := List (NameSet × TagRule)

/-- The rule for a tag: that of the first set with its name, or else a given one. -/
def ruleFor (rules : TagRules) (otherwise : TagRule) : TagRule := fun b tag =>
  match rules.find? (·.1.contains tag.name) with
  | some (_, rule) => rule b tag
  | none => otherwise b tag

/-- The tag is left out. -/
def ignoreTag : TagRule := fun b _ => b.done

/-- The tag is read once more by other rules. -/
def deferTo (mode : Mode) : TagRule := fun b _ => b.again mode

/-- The tag adds an element that has no content. -/
def addVoid : TagRule := fun b tag => (b.addTag tag).done

end HtmlToHaml.Html
