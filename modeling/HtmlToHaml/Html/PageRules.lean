import HtmlToHaml.Html.OldDoctype
import HtmlToHaml.Html.TableRules

/-!
# Rules for the page

The rules before the root element, after the body and in sets of frames, those in graphics and
formulas, and the choice between all rules.
-/

namespace HtmlToHaml.Html

open DocTree

/-- Adds a comment at the end of the document. -/
def Builder.addDocumentComment (b : Builder) (s : List Char) : Outcome :=
  (b.addCommentTo (some b.store.root) s).done

/-- Takes a document type; it counts at the start of the source only. -/
def Builder.declare (b : Builder) (doctype : Doctype) : Builder :=
  if b.mode = .initial then
    let text (s : Option (List Char)) : String := String.ofList (s.getD [])
    { b with
      store :=
        b.store.appendDoctype (text doctype.name) (text doctype.externalId) (text doctype.systemId)
      old := doctype.isOld
      mode := .beforeHtml }
  else b

/-- A source without a document type is an old document. -/
def undeclared (b : Builder) : Outcome :=
  { b with old := true }.again .beforeHtml

/-- The rules at the start of the source. -/
def atStart (b : Builder) : Token → Outcome
  | .characters s => if isWhite s then b.done else undeclared b
  | .comment s => b.addDocumentComment s
  | .doctype _ | .mistake => b.done
  | _ => undeclared b

/-- Opens a root element that was left out. -/
def impliedRoot (b : Builder) : Outcome :=
  (b.openRoot []).again .beforeHead

/-- The rules before the root element. -/
def beforeHtml (b : Builder) : Token → Outcome
  | .characters s => if isWhite s then b.done else impliedRoot b
  | .comment s => b.addDocumentComment s
  | .startTag tag =>
    if tag.name == "html" then (b.openRoot tag.attributes).turn .beforeHead else impliedRoot b
  | .endTag tag =>
    if ["head", "body", "html", "br"].contains tag.name then impliedRoot b else b.done
  | .doctype _ | .mistake => b.done
  | .null | .finish => impliedRoot b

/-- The rules after the body. -/
def afterBody (b : Builder) : Token → Outcome
  | .characters s => if isWhite s then bodyText b s else b.again .inBody
  | .comment s => (b.addCommentTo (b.root?.map (·.id)) s).done
  | .startTag tag => ruleFor [(["html"], rootTag)] (deferTo .inBody) b tag
  | .endTag tag =>
    ruleFor [(["html"], fun b _ => b.turn .afterAfterBody)] (deferTo .inBody) b tag
  | .null => b.again .inBody
  | .doctype _ | .mistake | .finish => b.done

/-- The end of a set of frames. -/
def endFrameset : TagRule := fun b _ =>
  if b.opened.length = 1 then b.done
  else
    let b := b.pop
    if b.isCurrent "frameset" then b.done else b.turn .afterFrameset

/-- The rules in a set of frames. -/
def inFrameset (b : Builder) : Token → Outcome
  | .characters s => if isWhite s then (b.addText s).done else b.done
  | .comment s => (b.addComment s).done
  | .startTag tag =>
    ruleFor
      [(["html"], rootTag), (["frameset"], fun b tag => (b.openTag tag).done),
        (["frame"], addVoid), (["noframes"], rawText)]
      ignoreTag b tag
  | .endTag tag => ruleFor [(["frameset"], endFrameset)] ignoreTag b tag
  | _ => b.done

/-- The rules after a set of frames. -/
def afterFrameset (b : Builder) : Token → Outcome
  | .characters s => if isWhite s then (b.addText s).done else b.done
  | .comment s => (b.addComment s).done
  | .startTag tag => ruleFor [(["html"], rootTag), (["noframes"], rawText)] ignoreTag b tag
  | .endTag tag =>
    ruleFor [(["html"], fun b _ => b.turn .afterAfterFrameset)] ignoreTag b tag
  | _ => b.done

/-- The rules after the root element of a page with a body. -/
def afterAfterBody (b : Builder) : Token → Outcome
  | .characters s => if isWhite s then bodyText b s else b.again .inBody
  | .comment s => b.addDocumentComment s
  | .startTag tag => ruleFor [(["html"], rootTag)] (deferTo .inBody) b tag
  | .endTag _ | .null => b.again .inBody
  | .doctype _ | .mistake | .finish => b.done

/-- The rules after the root element of a page with frames. -/
def afterAfterFrameset (b : Builder) : Token → Outcome
  | .characters s => if isWhite s then bodyText b s else b.done
  | .comment s => b.addDocumentComment s
  | .startTag tag => ruleFor [(["html"], rootTag), (["noframes"], rawText)] ignoreTag b tag
  | _ => b.done

/-- The rules of a mode. -/
def rulesOf : Mode → Builder → Token → Outcome
  | .initial => atStart
  | .beforeHtml => beforeHtml
  | .beforeHead => beforeHead
  | .inHead => inHead
  | .afterHead => afterHead
  | .inBody => inBody
  | .text => inText
  | .inTable => inTable
  | .inTableText => inTableText
  | .inCaption => inCaption
  | .inColumnGroup => inColumnGroup
  | .inTableBody => inTableBody
  | .inRow => inRow
  | .inCell => inCell
  | .inTemplate => inTemplate
  | .afterBody => afterBody
  | .inFrameset => inFrameset
  | .afterFrameset => afterFrameset
  | .afterAfterBody => afterAfterBody
  | .afterAfterFrameset => afterAfterFrameset

/-- The rules in force. -/
def byMode (b : Builder) (token : Token) : Outcome :=
  rulesOf b.mode b token

/-- Whether the innermost open element belongs to a graphic or a formula. -/
def Builder.inForeign (b : Builder) : Bool :=
  b.current?.any (·.language != .html)

/-- Elements that belong to a formula even inside its text. -/
def foreignTextNames : NameSet :=
  ["malignmark", "mglyph"]

/-- Whether a token inside an element is read by the rules for graphics and formulas. -/
def Opened.keeps (e : Opened) (token : Token) : Bool :=
  e.language != .html &&
    match token with
    | .characters _ | .null => !e.holdsFormulaText && !e.holdsHtml
    | .startTag tag =>
      !e.holdsHtml && (!e.holdsFormulaText || foreignTextNames.contains tag.name) &&
        !(e.language == .mathml && e.name == "annotation-xml" && tag.name == "svg")
    | .finish => false
    | _ => true

/-- A tag that ends graphics and formulas, up to a place where HTML is read. -/
def breakOut (b : Builder) (token : Token) : Outcome :=
  let isPlace (e : Opened) : Bool :=
    e.language == .html || e.holdsFormulaText || e.holdsHtml
  byMode { b with opened := b.opened.dropWhile (!isPlace ·) } token

/-- An element in a graphic or a formula. -/
def foreignStart : TagRule := fun b tag =>
  let language := (b.current?.map (·.language)).getD .html
  let name := foreignName language tag.name
  let attributes := foreignAttributes language tag.attributes
  if tag.selfClosing then (b.addElement name attributes).done
  else (b.openElement language name attributes).done

/-- Closes the innermost element of a name in a graphic or a formula, in lower or upper case; where
HTML begins further out, the rules in force decide. The root element is never closed. -/
def foreignEnd (b : Builder) (tag : Tag) : (inside : Bool) → List Opened → Outcome
  | _, [] | _, [_] => b.done
  | inside, e :: outer =>
    if inside && e.language == .html then byMode b (.endTag tag)
    else if e.name.toLower == tag.name then { b with opened := outer }.done
    else foreignEnd b tag true outer

/-- The rules in graphics and formulas. -/
def inForeignContent (b : Builder) : Token → Outcome
  | .null => (b.addText ['\uFFFD']).done
  | .characters s =>
    let b := if isWhite s then b else b.forbidFrameset
    (b.addText s).done
  | .comment s => (b.addComment s).done
  | .startTag tag => if breaksOut tag then breakOut b (.startTag tag) else foreignStart b tag
  | .endTag tag =>
    if ["br", "p"].contains tag.name then breakOut b (.endTag tag)
    else foreignEnd b tag false b.opened
  | .doctype _ | .mistake | .finish => b.done

/-- The rules that a token falls under. -/
def applyRules (b : Builder) (token : Token) : Outcome :=
  if b.current?.any (·.keeps token) then inForeignContent b token else byMode b token

/-- Reads a token until no rules read it once more, or a number of times at most. -/
def settle : Nat → Builder → Token → Builder
  | 0, b, _ => b
  | n + 1, b, token =>
    let outcome := applyRules b token
    match outcome.again with
    | some mode => settle n { outcome.builder with mode } token
    | none => outcome.builder

/-- Reads a token. Between two closings of an element only a few rules pass a token on. -/
def Builder.accept (b : Builder) (token : Token) : Builder :=
  settle (8 * b.opened.length + 64) b token

/-- Reads characters, in runs of white space and of other characters. -/
def Builder.acceptText (b : Builder) (s : List Char) : Builder :=
  (s.splitBy fun c d => isHtmlSpace c == isHtmlSpace d).foldl
    (fun b run => b.accept (.characters run)) b

/-- The tree after one more token of a source. -/
def Builder.receive (b : Builder) (token : Token) : Builder :=
  let skip := b.skipLineFeed
  let b := { b with skipLineFeed := false }
  match token with
  | .doctype doctype => b.declare doctype
  | .mistake => b
  | .characters ('\n' :: s) => b.acceptText (if skip then s else '\n' :: s)
  | .characters s => b.acceptText s
  | token => b.accept token

end HtmlToHaml.Html
