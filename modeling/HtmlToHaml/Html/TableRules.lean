import HtmlToHaml.Html.BodyRules

/-!
# Rules for tables

A table holds captions, groups of columns and groups of rows, and these hold columns and rows of
cells. Parts that are left out are added, and what is no part of a table leaves it.
-/

namespace HtmlToHaml.Html

open DocTree

/-- Tags of parts of a table. -/
def partNames : NameSet :=
  ["caption", "col", "colgroup", "tbody", "td", "tfoot", "th", "thead", "tr"]

/-- Groups of rows. -/
def rowGroupNames : NameSet :=
  ["tbody", "tfoot", "thead"]

/-- Cells. -/
def cellNames : NameSet :=
  ["td", "th"]

/-- What a row may stand in. -/
def rowHolderNames : NameSet :=
  rowGroupNames ++ ["html", "template"]

/-- What a cell may stand in. -/
def cellHolderNames : NameSet :=
  ["html", "template", "tr"]

/-- The rules in the body, with content moved out of the table. -/
def fosterInBody (b : Builder) (token : Token) : Outcome :=
  let outcome := inBody { b with fostering := true } token
  { outcome with builder := { outcome.builder with fostering := false } }

/-- Characters in a table: they are collected while the table itself is the current place. -/
def tableCharacters (b : Builder) (token : Token) : Outcome :=
  if b.isCurrentIn tableOuterNames then { b with returnMode := b.mode }.again .inTableText
  else fosterInBody b token

/-- The rules in text written straight into a table. -/
def inTableText (b : Builder) : Token → Outcome
  | .characters s => { b with tableText := b.tableText ++ [s] }.done
  | .null => b.done
  | _ =>
    let text := b.tableText
    let b := { b with tableText := [] }
    let b :=
      if text.all isWhite then text.foldl Builder.addText b
      else text.foldl (fun b s => (fosterInBody b (.characters s)).builder) b
    b.again b.returnMode

/-- Opens a part right inside the table. -/
def startTablePart (mark : Bool) (mode : Mode) : TagRule := fun b tag =>
  let b := b.backTo tableScopeNames
  let b := if mark then b.markFormatting else b
  (b.openTag tag).turn mode

/-- Opens a part right inside the table that was left out. -/
def impliedTablePart (name : String) (mode : Mode) : TagRule := fun b _ =>
  ((b.backTo tableScopeNames).openNamed name).again mode

/-- A table straight inside a table ends it. -/
def tableInTable : TagRule := fun b _ =>
  if b.hasNamed tableScope "table" then
    let b := b.close "table"
    b.again b.resetMode
  else b.done

/-- The end of a table. -/
def endTable : TagRule := fun b _ =>
  if b.hasNamed tableScope "table" then
    let b := b.close "table"
    b.turn b.resetMode
  else b.done

/-- Content that does not belong into a table. -/
def fosterStart : TagRule := fun b tag => fosterInBody b (.startTag tag)

/-- The end of content that does not belong into a table. -/
def fosterEnd : TagRule := fun b tag => fosterInBody b (.endTag tag)

/-- An input in a table stays there if it is not shown. -/
def inputInTable : TagRule := fun b tag =>
  if tag.isHidden then (b.addTag tag).done else fosterStart b tag

/-- A form in a table stays empty. -/
def formInTable : TagRule := fun b tag =>
  if b.hasOpen "template" || b.form.isSome then b.done
  else
    let b := { b with form := some b.store.size }
    (b.addTag tag).done

/-- The rules for elements in a table. -/
def tableRules : TagRules :=
  [(["caption"], startTablePart true .inCaption),
    (["colgroup"], startTablePart false .inColumnGroup),
    (["col"], impliedTablePart "colgroup" .inColumnGroup),
    (rowGroupNames, startTablePart false .inTableBody),
    (["td", "th", "tr"], impliedTablePart "tbody" .inTableBody), (["table"], tableInTable),
    (["script", "style", "template"], headElement), (["input"], inputInTable),
    (["form"], formInTable)]

/-- The rules for end tags in a table. -/
def tableEndRules : TagRules :=
  [(["table"], endTable), ("body" :: "html" :: partNames, ignoreTag),
    (["template"], closeTemplate)]

/-- The rules in a table. -/
def inTable (b : Builder) : Token → Outcome
  | .characters s => tableCharacters b (.characters s)
  | .null => tableCharacters b .null
  | .comment s => (b.addComment s).done
  | .startTag tag => ruleFor tableRules fosterStart b tag
  | .endTag tag => ruleFor tableEndRules fosterEnd b tag
  | .finish => inBody b .finish
  | .doctype _ | .mistake => b.done

/-- The rules in a table for a start tag. -/
def tableStart : TagRule := fun b tag => inTable b (.startTag tag)

/-- The rules in a table for an end tag. -/
def tableEnd : TagRule := fun b tag => inTable b (.endTag tag)

/-- The rules in the body for a start tag. -/
def bodyStart : TagRule := fun b tag => inBody b (.startTag tag)

/-- The rules in the body for an end tag. -/
def bodyEnd : TagRule := fun b tag => inBody b (.endTag tag)

/-- Closes the caption if there is one. -/
def closeCaption (next : Builder → Outcome) : TagRule := fun b _ =>
  if b.hasNamed tableScope "caption" then
    next ((b.implyEnds impliedEndNames).close "caption").clearFormatting
  else b.done

/-- The rules in a caption. -/
def inCaption (b : Builder) : Token → Outcome
  | .startTag tag => ruleFor [(partNames, closeCaption (·.again .inTable))] bodyStart b tag
  | .endTag tag =>
    ruleFor
      [(["caption"], closeCaption (·.turn .inTable)), (["table"], closeCaption (·.again .inTable)),
        ("body" :: "html" :: partNames, ignoreTag)]
      bodyEnd b tag
  | token => inBody b token

/-- Ends a group of columns before a token that does not belong to it. -/
def leaveColumns (b : Builder) : Outcome :=
  if b.isCurrent "colgroup" then b.pop.again .inTable else b.done

/-- The end of a group of columns. -/
def endColumns : TagRule := fun b _ =>
  if b.isCurrent "colgroup" then b.pop.turn .inTable else b.done

/-- The rules in a group of columns. -/
def inColumnGroup (b : Builder) : Token → Outcome
  | .characters s => if isWhite s then (b.addText s).done else leaveColumns b
  | .comment s => (b.addComment s).done
  | .startTag tag =>
    ruleFor [(["html"], rootTag), (["col"], addVoid), (["template"], openTemplate)]
      (fun b _ => leaveColumns b) b tag
  | .endTag tag =>
    ruleFor
      [(["colgroup"], endColumns), (["col"], ignoreTag), (["template"], closeTemplate)]
      (fun b _ => leaveColumns b) b tag
  | .null => leaveColumns b
  | .finish => inBody b .finish
  | .doctype _ | .mistake => b.done

/-- Opens a row. -/
def startRow : TagRule := fun b tag =>
  ((b.backTo rowHolderNames).openTag tag).turn .inRow

/-- Opens a row that was left out. -/
def impliedRow : TagRule := fun b _ =>
  ((b.backTo rowHolderNames).openNamed "tr").again .inRow

/-- The end of a group of rows. -/
def endRows : TagRule := fun b tag =>
  if b.hasNamed tableScope tag.name then (b.backTo rowHolderNames).pop.turn .inTable
  else b.done

/-- Ends a group of rows before a tag that does not belong to it. -/
def leaveRows : TagRule := fun b _ =>
  if b.hasInScope tableScope (·.isIn ["table", "tbody", "tfoot"]) then
    (b.backTo rowHolderNames).pop.again .inTable
  else b.done

/-- The rules in a group of rows. -/
def inTableBody (b : Builder) : Token → Outcome
  | .startTag tag =>
    ruleFor
      [(["tr"], startRow), (cellNames, impliedRow),
        ("caption" :: "col" :: "colgroup" :: rowGroupNames, leaveRows)]
      tableStart b tag
  | .endTag tag =>
    ruleFor
      [(rowGroupNames, endRows), (["table"], leaveRows),
        ("body" :: "html" :: partNames, ignoreTag)]
      tableEnd b tag
  | token => inTable b token

/-- Opens a cell. -/
def startCell : TagRule := fun b tag =>
  ((b.backTo cellHolderNames).openTag tag).markFormatting.turn .inCell

/-- The end of a row. -/
def endRow : TagRule := fun b _ =>
  if b.hasNamed tableScope "tr" then (b.backTo cellHolderNames).pop.turn .inTableBody
  else b.done

/-- Ends a row before a tag that does not belong to it. -/
def leaveRow : TagRule := fun b _ =>
  if b.hasNamed tableScope "tr" then (b.backTo cellHolderNames).pop.again .inTableBody
  else b.done

/-- The end of a group of rows ends the row in it. -/
def endRowsAndRow : TagRule := fun b tag =>
  if b.hasNamed tableScope tag.name then leaveRow b tag else b.done

/-- The rules in a row. -/
def inRow (b : Builder) : Token → Outcome
  | .startTag tag =>
    ruleFor
      [(cellNames, startCell),
        ("caption" :: "col" :: "colgroup" :: "tr" :: rowGroupNames, leaveRow)]
      tableStart b tag
  | .endTag tag =>
    ruleFor
      [(["tr"], endRow), (["table"], leaveRow), (rowGroupNames, endRowsAndRow),
        ("body" :: "html" :: partNames, ignoreTag)]
      tableEnd b tag
  | token => inTable b token

/-- Closes the innermost cell. -/
def Builder.closeCell (b : Builder) : Builder :=
  ((b.implyEnds impliedEndNames).closeTo (·.isIn cellNames)).clearFormatting

/-- The end of a cell. -/
def endCell : TagRule := fun b tag =>
  if b.hasNamed tableScope tag.name then
    ((b.implyEnds impliedEndNames).close tag.name).clearFormatting.turn .inRow
  else b.done

/-- Ends a cell before a tag that does not belong to it. -/
def leaveCell : TagRule := fun b _ =>
  if b.hasInScope tableScope (·.isIn cellNames) then b.closeCell.again .inRow else b.done

/-- The end of what holds a cell ends the cell too. -/
def endCellHolder : TagRule := fun b tag =>
  if b.hasNamed tableScope tag.name then b.closeCell.again .inRow else b.done

/-- The rules in a cell. -/
def inCell (b : Builder) : Token → Outcome
  | .startTag tag => ruleFor [(partNames, leaveCell)] bodyStart b tag
  | .endTag tag =>
    ruleFor
      [(cellNames, endCell), (["body", "caption", "col", "colgroup", "html"], ignoreTag),
        ("table" :: "tr" :: rowGroupNames, endCellHolder)]
      bodyEnd b tag
  | token => inBody b token

/-- The content of a template is now read by other rules. -/
def retemplate (mode : Mode) : TagRule := fun b _ =>
  { b with templateModes := mode :: b.templateModes.drop 1 }.again mode

/-- The rules in a template. -/
def inTemplate (b : Builder) : Token → Outcome
  | .characters s => inBody b (.characters s)
  | .comment s => inBody b (.comment s)
  | .startTag tag =>
    ruleFor
      [(headNames, headElement), ("caption" :: "colgroup" :: rowGroupNames, retemplate .inTable),
        (["col"], retemplate .inColumnGroup), (["tr"], retemplate .inTableBody),
        (cellNames, retemplate .inRow)]
      (retemplate .inBody) b tag
  | .endTag tag => ruleFor [(["template"], closeTemplate)] ignoreTag b tag
  | .finish => templateFinish b
  | .doctype _ | .mistake | .null => b.done

end HtmlToHaml.Html
