import HtmlToHaml.Html.Foreign
import HtmlToHaml.Html.HeadRules

/-!
# Rules for the body

Most elements stand in the body. A block ends a paragraph, a part of a list ends the part before it,
and text opens again the formatting elements that a block cut off.
-/

namespace HtmlToHaml.Html

open DocTree

/-- The body, if it stands right inside the root element. -/
def Builder.body? (b : Builder) : Option Opened :=
  match b.opened.reverse with
  | _ :: e :: _ => if e.isNamed "body" then some e else none
  | _ => none

/-- A second body tag only adds the attributes that are missing. -/
def bodyTag : TagRule := fun b tag =>
  match b.body? with
  | some body =>
    if b.hasOpen "template" then b.done
    else
      Builder.done { b with
        framesetAllowed := false
        store := b.store.addMissingAttributes (some body.id) tag.attributes }
  | none => b.done

/-- A set of frames replaces the body while it may. -/
def framesetTag : TagRule := fun b tag =>
  match b.body? with
  | some body =>
    if b.framesetAllowed then
      let b := { b with
        store := b.store.detach (some body.id)
        opened := b.root?.toList }
      (b.openTag tag).turn .inFrameset
    else b.done
  | none => b.done

/-- A block. -/
def startBlock : TagRule := fun b tag => (b.closeParagraph.openTag tag).done

/-- A heading, which ends the heading right around it. -/
def startHeading : TagRule := fun b tag =>
  let b := b.closeParagraph
  let b := if b.isCurrentIn headingNames then b.pop else b
  (b.openTag tag).done

/-- A block of text as it stands; a line feed right after the tag is left out. -/
def startPreformatted : TagRule := fun b tag =>
  let b := (b.closeParagraph.openTag tag).forbidFrameset
  { b with skipLineFeed := true }.done

/-- A form, unless one is being filled. -/
def startForm : TagRule := fun b tag =>
  if b.hasOpen "template" then startBlock b tag
  else if b.form.isSome then b.done
  else
    let b := b.closeParagraph
    (Builder.openTag { b with form := some b.store.size } tag).done

/-- A part of a list, which ends the part before it: the innermost open one with one of the names,
unless a special element stands further inside. -/
def startPart (names : NameSet) : TagRule := fun b tag =>
  let b := b.forbidFrameset
  let stops (e : Opened) : Bool :=
    e.isIn names || (e.isIn specialNames && !e.isIn ["address", "div", "p"])
  let b :=
    match b.opened.find? stops with
    | some e => if e.isIn names then (b.implyEndsExcept e.name).close e.name else b
    | none => b
  (b.closeParagraph.openTag tag).done

/-- Text up to the end of the source. -/
def startPlaintext : TagRule := fun b tag =>
  { b.closeParagraph.openTag tag with reading := .plain }.done

/-- A button, which ends the button around it. -/
def startButton : TagRule := fun b tag =>
  let b :=
    if b.hasNamed pageScope "button" then (b.implyEnds impliedEndNames).close "button" else b
  (b.reconstruct.openTag tag).forbidFrameset.done

/-- A link, which ends the link around it. -/
def startLink : TagRule := fun b tag => (b.closeLink.reconstruct.openFormat tag).done

/-- An element that changes the look of text. -/
def startFormat : TagRule := fun b tag => (b.reconstruct.openFormat tag).done

/-- Unbroken text, which ends the unbroken text around it. -/
def startUnbroken : TagRule := fun b tag =>
  let b := b.reconstruct
  let b := if b.hasNamed pageScope "nobr" then (b.closeFormat "nobr").reconstruct else b
  (b.openFormat tag).done

/-- An element with a formatting scope of its own. -/
def startEmbedded : TagRule := fun b tag =>
  (b.reconstruct.openTag tag).markFormatting.forbidFrameset.done

/-- A table. In an old document it may stand in a paragraph. -/
def startTable : TagRule := fun b tag =>
  let b := if b.old then b else b.closeParagraph
  (b.openTag tag).forbidFrameset.turn .inTable

/-- An element without content in a line of text. -/
def addInLine : TagRule := fun b tag => (b.reconstruct.addTag tag).forbidFrameset.done

/-- An image under its long name. -/
def addImage : TagRule := fun b tag => addInLine b { tag with name := "img" }

/-- Whether a tag is that of an input that is not shown. -/
def Tag.isHidden (tag : Tag) : Bool :=
  tag.attributes.any fun a => a.name == "type" && a.value.toLower == "hidden"

/-- An input, which ends the choice around it. -/
def addInput : TagRule := fun b tag =>
  let b := if b.hasNamed pageScope "select" then b.close "select" else b
  let b := b.reconstruct.addTag tag
  if tag.isHidden then b.done else b.forbidFrameset.done

/-- A rule across the page or a choice. -/
def addRule : TagRule := fun b tag =>
  let b := b.closeParagraph
  let b := if b.hasNamed pageScope "select" then b.implyEnds impliedEndNames else b
  (b.addTag tag).forbidFrameset.done

/-- A field of text; a line feed right after the tag is left out. -/
def startTextarea : TagRule := fun b tag =>
  escapableText { b.forbidFrameset with skipLineFeed := true } tag

/-- An example of text. -/
def startExample : TagRule := fun b tag =>
  rawText b.closeParagraph.reconstruct.forbidFrameset tag

/-- A page in a page, whose content is not read. -/
def startInnerPage : TagRule := fun b tag => rawText b.forbidFrameset tag

/-- A choice; the tag only ends a choice around it. -/
def startSelect : TagRule := fun b tag =>
  if b.hasNamed pageScope "select" then (b.close "select").done
  else (b.reconstruct.openTag tag).forbidFrameset.done

/-- An item of a choice or a group of them, which ends the item before it. -/
def startOption (ends : NameSet) : TagRule := fun b tag =>
  let b :=
    if b.hasNamed pageScope "select" then b.implyEnds ends
    else if b.isCurrent "option" then b.pop
    else b
  (b.reconstruct.openTag tag).done

/-- A part of an annotated text, which ends parts before it. -/
def startAnnotation (ends : NameSet) : TagRule := fun b tag =>
  let b := if b.hasNamed pageScope "ruby" then b.implyEnds ends else b
  (b.openTag tag).done

/-- The outermost element of a graphic or a formula. -/
def startForeign (language : Language) : TagRule := fun b tag =>
  let attributes := foreignAttributes language tag.attributes
  if tag.selfClosing then (b.addElement tag.name attributes).done
  else (b.openElement language tag.name attributes).done

/-- An element without a rule of its own. -/
def startOrdinary : TagRule := fun b tag => (b.reconstruct.openTag tag).done

/-- The rules for elements in the body. -/
def bodyRules : TagRules :=
  [(["html"], rootTag), (headNames, headElement), (["body"], bodyTag),
    (["frameset"], framesetTag), (blockNames, startBlock), (headingNames, startHeading),
    (["listing", "pre"], startPreformatted), (["form"], startForm), (["li"], startPart ["li"]),
    (["dd", "dt"], startPart ["dd", "dt"]), (["plaintext"], startPlaintext),
    (["button"], startButton), (["a"], startLink), (styleNames, startFormat),
    (["nobr"], startUnbroken), (embeddedNames, startEmbedded), (["table"], startTable),
    (lineVoidNames, addInLine), (["input"], addInput), (["param", "source", "track"], addVoid),
    (["hr"], addRule), (["image"], addImage), (["textarea"], startTextarea),
    (["xmp"], startExample), (["iframe"], startInnerPage), (["noembed", "noscript"], rawText),
    (["select"], startSelect),
    (["option"], startOption (impliedEndNames.filter (· != "optgroup"))),
    (["optgroup"], startOption impliedEndNames),
    (["rb", "rtc"], startAnnotation impliedEndNames),
    (["rp", "rt"], startAnnotation (impliedEndNames.filter (· != "rtc"))),
    (["math"], startForeign .mathml), (["svg"], startForeign .svg),
    (misplacedNames, ignoreTag)]

/-- The end of the body. -/
def endBody : TagRule := fun b _ =>
  if b.hasNamed pageScope "body" then b.turn .afterBody else b.done

/-- The end of the page. -/
def endPage : TagRule := fun b _ =>
  if b.hasNamed pageScope "body" then b.again .afterBody else b.done

/-- The end of an element that closes everything opened inside it. -/
def endBlock : TagRule := fun b tag =>
  if b.hasNamed pageScope tag.name then
    ((b.implyEnds impliedEndNames).close tag.name).done
  else b.done

/-- The end of a form. Outside templates the form alone is closed, and what is open in it stays. -/
def endForm : TagRule := fun b tag =>
  if b.hasOpen "template" then endBlock b tag
  else
    match b.form with
    | none => b.done
    | some form =>
      let b := { b with form := none }
      if b.hasInScope pageScope (·.id == form) then
        ((b.implyEnds impliedEndNames).forget form).done
      else b.done

/-- The end of a paragraph; without one, an empty paragraph is added. -/
def endParagraph : TagRule := fun b _ =>
  if b.hasNamed buttonScope "p" then b.closeParagraph.done
  else (b.openNamed "p").closeParagraph.done

/-- The end of a part of a list. -/
def endPart (scope : Scope) : TagRule := fun b tag =>
  if b.hasNamed scope tag.name then ((b.implyEndsExcept tag.name).close tag.name).done
  else b.done

/-- The end of a heading, which may be of another level. -/
def endHeading : TagRule := fun b _ =>
  if b.hasInScope pageScope (·.isIn headingNames) then
    ((b.implyEnds impliedEndNames).closeTo (·.isIn headingNames)).done
  else b.done

/-- The end of an element that changes the look of text. -/
def endFormat : TagRule := fun b tag => (b.closeFormat tag.name).done

/-- The end of an element with a formatting scope of its own. -/
def endEmbedded : TagRule := fun b tag =>
  if b.hasNamed pageScope tag.name then
    ((b.implyEnds impliedEndNames).close tag.name).clearFormatting.done
  else b.done

/-- The end of a line break is a line break. -/
def endBreak : TagRule := fun b _ => addInLine b ⟨"br", [], false⟩

/-- The end of an element without a rule of its own. -/
def endOrdinary : TagRule := fun b tag => (b.closeOrdinary tag.name).done

/-- The rules for end tags in the body. -/
def bodyEndRules : TagRules :=
  [(["template"], closeTemplate), (["body"], endBody), (["html"], endPage),
    (closableNames, endBlock), (["form"], endForm), (["p"], endParagraph),
    (["li"], endPart listScope), (["dd", "dt"], endPart pageScope),
    (headingNames, endHeading), (formattingNames, endFormat), (embeddedNames, endEmbedded),
    (["br"], endBreak)]

/-- The end of the source in a template closes the template. -/
def templateFinish (b : Builder) : Outcome :=
  if b.hasOpen "template" then
    let b := b.leaveTemplate
    b.again b.mode
  else b.done

/-- Text in the body. -/
def bodyText (b : Builder) (s : List Char) : Outcome :=
  let b := b.reconstruct
  let b := if isWhite s then b else b.forbidFrameset
  (b.addText s).done

/-- The rules in the body. -/
def inBody (b : Builder) : Token → Outcome
  | .characters s => bodyText b s
  | .comment s => (b.addComment s).done
  | .startTag tag => ruleFor bodyRules startOrdinary b tag
  | .endTag tag => ruleFor bodyEndRules endOrdinary b tag
  | .finish => if b.templateModes.isEmpty then b.done else templateFinish b
  | .doctype _ | .mistake | .null => b.done

/-- The rules in an element that holds text only. -/
def inText (b : Builder) : Token → Outcome
  | .characters s => (b.addText s).done
  | .endTag _ => b.pop.turn b.returnMode
  | .finish => b.pop.again b.returnMode
  | _ => b.done

end HtmlToHaml.Html
