import HtmlToHaml.Html.Builder

/-!
# Formatting elements

An element that changes the look of text goes on after the block it was opened in has ended: it is
opened again where the text goes on. An end tag that cuts across a block splits the formatting
element in two, one around what came before the block and one inside the block.
-/

namespace HtmlToHaml.Html

open DocTree

/-- Whether two tags make the same element, whatever the order of their attributes. -/
def Tag.sameAs (a b : Tag) : Bool :=
  a.name == b.name && a.attributes.length == b.attributes.length &&
    a.attributes.all b.attributes.contains

namespace Builder

/-- The formatting entries since the last border, the latest first. -/
def recentFormatting (b : Builder) : List FormatEntry :=
  b.formatting.takeWhile (· != .marker)

/-- The latest formatting element with a name since the last border. -/
def recentFormat? (b : Builder) (name : String) : Option (NodeId × Tag) :=
  b.recentFormatting.findSome? fun
    | .element id tag => if tag.name == name then some (id, tag) else none
    | .marker => none

/-- The tag of the formatting element that is a node. -/
def formatTag? (b : Builder) (id : NodeId) : Option Tag :=
  b.formatting.findSome? fun
    | .element other tag => if other == id then some tag else none
    | .marker => none

/-- Without the formatting entry of a node. -/
def forgetFormat (b : Builder) (id : NodeId) : Builder :=
  { b with formatting := b.formatting.eraseP (·.isOf id) }

/-- Without the formatting entries since the last border, and without that border. -/
def clearFormatting (b : Builder) : Builder :=
  { b with formatting := (b.formatting.dropWhile (· != .marker)).drop 1 }

/-- With a border in the list of formatting elements. -/
def markFormatting (b : Builder) : Builder :=
  { b with formatting := .marker :: b.formatting }

/-- The formatting elements that are the same as a tag, the latest first. -/
def sameFormats (b : Builder) (tag : Tag) : List NodeId :=
  b.recentFormatting.filterMap fun
    | .element id other => if tag.sameAs other then some id else none
    | .marker => none

/-- Without the earliest of three or more formatting elements that are the same as a tag. -/
def limitFormats (b : Builder) (tag : Tag) : Builder :=
  match ((b.sameFormats tag).drop 2).getLast? with
  | some id => b.forgetFormat id
  | none => b

/-- Adds a formatting element and opens it. -/
def openFormat (b : Builder) (tag : Tag) : Builder :=
  let b := b.limitFormats tag
  let id := b.store.size
  let b := b.openTag tag
  { b with formatting := .element id tag :: b.formatting }

/-- Whether a formatting entry is a border or that of an open element. -/
def isSettled (b : Builder) : FormatEntry → Bool
  | .marker => true
  | .element id _ => b.opened.any (·.id == id)

/-- Opens elements with the tags of formatting entries; the entries become those of the new
elements. -/
def reopen (b : Builder) : List FormatEntry → Builder
  | [] => b
  | .marker :: rest => reopen b rest
  | .element _ tag :: rest =>
    let id := b.store.size
    let b := b.openTag tag
    reopen { b with formatting := .element id tag :: b.formatting } rest

/-- Opens the formatting elements again that were cut off. -/
def reconstruct (b : Builder) : Builder :=
  let lost := b.formatting.takeWhile (!b.isSettled ·)
  reopen { b with formatting := b.formatting.dropWhile (!b.isSettled ·) } lost.reverse

/-- Closes an element by an end tag that stands for no special one: everything inside it is closed
too, and no special element is left. -/
def closeOrdinary (b : Builder) (name : String) : Builder :=
  match b.opened.find? fun e => e.isNamed name || e.isIn specialNames with
  | some e => if e.isNamed name then (b.implyEndsExcept name).closeTo (·.id == e.id) else b
  | none => b

/-- The elements between a formatting element and the block inside it, while the block is lifted out
of them. -/
structure Lifting where
  /-- The tree so far. -/
  builder : Builder
  /-- The node that goes into the next element. -/
  last : NodeId
  /-- The innermost of the copied elements. -/
  innermost : Option NodeId := none
  /-- The copied elements, the innermost first. -/
  copies : List Opened := []

/-- Copies the formatting elements around a block, the innermost first, and puts each into the
next one. Only the three innermost elements are looked at, and the others are no formatting elements
any more. -/
def lift (state : Lifting) : (seen : Nat) → List Opened → Lifting
  | _, [] => state
  | seen, e :: outer =>
    match if seen < 3 then state.builder.formatTag? e.id else none with
    | none => lift { state with builder := state.builder.forgetFormat e.id } (seen + 1) outer
    | some tag =>
      let b := state.builder
      let (store, id) := b.store.createHtmlElement tag.name tag.attributes
      let store := (store.detach (some state.last)).append (some id) (some state.last)
      let formatting := b.formatting.map fun entry =>
        if entry.isOf e.id then .element id tag else entry
      lift
        { builder := { b with store, formatting }
          last := id
          innermost := state.innermost.or (some id)
          copies := state.copies ++ [⟨id, .html, tag.name⟩] }
        (seen + 1) outer

/-- Splits a formatting element in two at the block inside it. Inside the element stand, from the
innermost outwards, some elements, the block, and some more. -/
def splitFormat (b : Builder) (format : NodeId) (tag : Tag) (inner : List Opened)
    (block : Opened) (between outer : List Opened) : Builder :=
  let old : Opened := ⟨format, .html, tag.name⟩
  let lifted := lift { builder := b, last := block.id } 0 between
  let b := lifted.builder
  let b := { b with
    store := b.store.detach (some lifted.last)
    opened := inner ++ block :: (lifted.copies ++ old :: outer) }
  let b := b.put outer.head? (.node lifted.last)
  let (store, id) := b.store.createHtmlElement tag.name tag.attributes
  let store := store.reparentChildren (some block.id) (some id)
  let store := store.append (some block.id) (some id)
  let new : Opened := ⟨id, .html, tag.name⟩
  let entry := FormatEntry.element id tag
  let formatting := match lifted.innermost with
    | none => b.formatting.map fun e => if e.isOf format then entry else e
    | some copy =>
      (b.formatting.flatMap fun e => if e.isOf copy then [entry, e] else [e]).eraseP
        (·.isOf format)
  { b with
    store, formatting
    opened := inner ++ new :: block :: (lifted.copies ++ outer) }

/-- The elements in front of the last that satisfies a test, that element, and those after it. -/
def splitAtLast (p : Opened → Bool) :
    List Opened → Option (List Opened × Opened × List Opened)
  | [] => none
  | e :: rest =>
    match splitAtLast p rest with
    | some (front, found, back) => some (e :: front, found, back)
    | none => if p e then some ([], e, rest) else none

/-- Closes formatting elements with a name, at most a given number of times. -/
def closeFormats (b : Builder) (name : String) : Nat → Builder
  | 0 => b
  | n + 1 =>
    match b.recentFormat? name with
    | none => b.closeOrdinary name
    | some (format, tag) =>
      if !b.opened.any (·.id == format) then b.forgetFormat format
      else if !b.hasInScope pageScope (·.id == format) then b
      else
        let inside := b.opened.takeWhile (·.id != format)
        let outer := (b.opened.dropWhile (·.id != format)).drop 1
        match splitAtLast (·.isIn specialNames) inside with
        | none => forgetFormat { b with opened := outer } format
        | some (inner, block, between) =>
          (b.splitFormat format tag inner block between outer).closeFormats name n

/-- Closes a formatting element by its end tag. -/
def closeFormat (b : Builder) (name : String) : Builder :=
  match b.current? with
  | some e =>
    if e.isNamed name && (b.formatTag? e.id).isNone then b.pop else b.closeFormats name 8
  | none => b

/-- Closes a link that another link starts in. -/
def closeLink (b : Builder) : Builder :=
  match b.recentFormat? "a" with
  | some (id, _) => ((b.closeFormat "a").forgetFormat id).forget id
  | none => b

end Builder

end HtmlToHaml.Html
