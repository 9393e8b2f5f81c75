import HtmlToHaml.Html.Formatting

/-!
# Rules for the head

Elements of the head, and the rules before, in and after it. A page without a head gets one.
-/

namespace HtmlToHaml.Html

open DocTree

/-- Whether characters are white space; they come in runs of white space and of other characters. -/
def isWhite (s : List Char) : Bool :=
  s.all isHtmlSpace

/-- A second root tag only adds the attributes that are missing. -/
def rootTag : TagRule := fun b tag =>
  if b.hasOpen "template" then b.done
  else
    Builder.done { b with
      store := b.store.addMissingAttributes (b.root?.map (·.id)) tag.attributes }

/-- An element whose text may hold references. -/
def escapableText : TagRule := fun b tag => (b.openText tag .escapable).done

/-- An element whose text is taken as it is. -/
def rawText : TagRule := fun b tag => (b.openText tag .raw).done

/-- A script. -/
def scriptText : TagRule := fun b tag => (b.openText tag fun _ => .script).done

/-- Whether a template asks to be the inside of the element it stands in. -/
def Tag.asksForHost (tag : Tag) : Bool :=
  tag.attributes.any fun a =>
    a.name == "shadowrootmode" && ["open", "closed"].contains a.value

/-- A template. One that asks for a host, below the root element, leaves an element behind that
stands nowhere. -/
def openTemplate : TagRule := fun b tag =>
  let b := { b.markFormatting with
    framesetAllowed := false
    mode := .inTemplate
    templateModes := .inTemplate :: b.templateModes }
  let b :=
    if tag.asksForHost && 1 < b.opened.length then
      { b with store := (b.store.createHtmlElement tag.name tag.attributes).1 }
    else b
  (b.openTag tag).done

/-- The innermost template is closed, whatever is open in it. -/
def Builder.leaveTemplate (b : Builder) : Builder :=
  let b := (b.close "template").clearFormatting
  let b := { b with templateModes := b.templateModes.drop 1 }
  { b with mode := b.resetMode }

/-- The end of a template. -/
def closeTemplate : TagRule := fun b _ =>
  if b.hasOpen "template" then (b.implyEnds thoroughEndNames).leaveTemplate.done else b.done

/-- Ends the head before a tag that does not belong to it. -/
def leaveHead : TagRule := fun b _ => b.pop.again .afterHead

/-- The rules for the elements of the head. -/
def headRules : TagRules :=
  [(["html"], rootTag), (headVoidNames, addVoid), (["title"], escapableText),
    (["noframes", "noscript", "style"], rawText), (["script"], scriptText),
    (["template"], openTemplate), (["head"], ignoreTag)]

/-- The rules for end tags in the head. -/
def headEndRules : TagRules :=
  [(["head"], fun b _ => b.pop.turn .afterHead), (["body", "html", "br"], leaveHead),
    (["template"], closeTemplate)]

/-- The rules in the head. -/
def inHead (b : Builder) : Token → Outcome
  | .characters s => if isWhite s then (b.addText s).done else b.pop.again .afterHead
  | .comment s => (b.addComment s).done
  | .startTag tag => ruleFor headRules leaveHead b tag
  | .endTag tag => ruleFor headEndRules ignoreTag b tag
  | .doctype _ | .mistake => b.done
  | .null | .finish => b.pop.again .afterHead

/-- An element of the head. -/
def headElement : TagRule := fun b tag => inHead b (.startTag tag)

/-- Opens a head that was not asked for. -/
def impliedHead (b : Builder) : Outcome :=
  let b := b.openNamed "head"
  { b with head := b.current? }.again .inHead

/-- The rules before the head. -/
def beforeHead (b : Builder) : Token → Outcome
  | .characters s => if isWhite s then b.done else impliedHead b
  | .comment s => (b.addComment s).done
  | .startTag tag =>
    ruleFor
      [(["html"], rootTag),
        (["head"], fun b tag =>
          let b := b.openTag tag
          { b with head := b.current? }.turn .inHead)]
      (fun b _ => impliedHead b) b tag
  | .endTag tag =>
    ruleFor [(["head", "body", "html", "br"], fun b _ => impliedHead b)] ignoreTag b tag
  | .doctype _ | .mistake => b.done
  | .null | .finish => impliedHead b

/-- An element of the head after its end goes into the head all the same. -/
def lateHeadElement : TagRule := fun b tag =>
  match b.head with
  | some head =>
    let outcome := inHead { b with opened := head :: b.opened } (.startTag tag)
    { outcome with builder := outcome.builder.forget head.id }
  | none => b.done

/-- Opens a body that was not asked for. -/
def impliedBody (b : Builder) : Outcome :=
  (b.openNamed "body").again .inBody

/-- The rules after the head. -/
def afterHead (b : Builder) : Token → Outcome
  | .characters s => if isWhite s then (b.addText s).done else impliedBody b
  | .comment s => (b.addComment s).done
  | .startTag tag =>
    ruleFor
      [(["html"], rootTag), (["body"], fun b tag => (b.openTag tag).forbidFrameset.turn .inBody),
        (["frameset"], fun b tag => (b.openTag tag).turn .inFrameset),
        (headNames, lateHeadElement), (["head"], ignoreTag)]
      (fun b _ => impliedBody b) b tag
  | .endTag tag =>
    ruleFor
      [(["template"], closeTemplate), (["body", "html", "br"], fun b _ => impliedBody b)]
      ignoreTag b tag
  | .doctype _ | .mistake => b.done
  | .null | .finish => impliedBody b

end HtmlToHaml.Html
