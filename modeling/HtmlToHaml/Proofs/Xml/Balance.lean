import HtmlToHaml.Proofs.Forest.Joining
import HtmlToHaml.Xml.Document

/-!
# Balanced rows of events

A row of events is balanced if every element that is opened is closed again by an end tag of its
name. `balanced` makes any row balanced: void elements close themselves, end tags that close nothing
are left out, and those that are missing are put in. `descend?` reads a balanced row by recursive
descent and gives nothing for any other. The main statement is that a row that was made balanced is
read, whatever the row was.
-/

namespace HtmlToHaml.Xml

open DocTree

/-- The element that a tag stands for. -/
def Tag.element (tag : Tag) (selfClosing : Bool) : Branch :=
  .element (String.ofList tag.name) tag.treeAttributes selfClosing

/-- The document type that a declaration stands for. -/
def doctypeLeaf (content : List Char) : Leaf :=
  let declared := Declared.ofContent content
  Leaf.normal (.doctype (String.ofList declared.name) (declared.externalId.map String.ofList)
    (declared.systemId.map String.ofList))

/-- What an event is to the nesting. -/
inductive Role where
  /-- It opens an element. -/
  | opens (tag : Tag)
  /-- It closes an element. -/
  | closes (name : List Char)
  /-- It is a tree of its own. -/
  | piece (tree : Shape)

/-- What an event is to the nesting. -/
def Event.role : Event → Role
  | .start tag => .opens tag
  | .close name => .closes name
  | .empty tag => .piece (.branch (tag.element true) [])
  | .text content => .piece (.leaf (.text (String.ofList content)))
  | .reference name => .piece (.leaf (.text (String.ofList (referenceText name))))
  | .cdata content => .piece (.leaf (.cdata (String.ofList content)))
  | .comment content => .piece (.leaf (.comment (String.ofList content)))
  | .declaration content | .instruction content =>
    .piece (.leaf (.instruction (String.ofList content)))
  | .doctype content => .piece (.leaf (doctypeLeaf content))

/-- A row of events with its nesting made good, inside elements of given names, the innermost first:
start tags of void elements close themselves, end tags of no open element are left out, and the
others close the elements opened inside theirs first, as the end of the row closes all of them. -/
def balanced : (names : List (List Char)) → List Event → List Event
  | names, [] => names.map .close
  | names, event :: rest =>
    match event.role with
    | .opens tag =>
      if isVoidElement (String.ofList tag.name) then .empty tag :: balanced names rest
      else event :: balanced (tag.name :: names) rest
    | .closes name =>
      if name ∈ names then
        (names.takeWhile (· ≠ name)).map .close ++
          event :: balanced (names.dropWhile (· ≠ name)).tail rest
      else balanced names rest
    | .piece _ => event :: balanced names rest

/-- Trees that a row of events begins with, and the rest of the row. -/
abbrev Descent (events : List Event) :=
  { found : List Shape × List Event // found.2.length ≤ events.length }

/-- The trees up to the end tag of the element around them, or up to the end of the row if there is
none; nothing if the row ends before, or comes to an end tag of another name. -/
def descend? (around : Option (List Char)) : (events : List Event) → Option (Descent events)
  | [] => if around = none then some ⟨([], []), Nat.le_refl _⟩ else none
  | event :: rest =>
    match event.role with
    | .closes name => if around = some name then some ⟨([], rest), Nat.le_succ _⟩ else none
    | .piece tree =>
      (descend? around rest).map fun ⟨(trees, more), h⟩ =>
        ⟨(tree.before trees, more), Nat.le_succ_of_le h⟩
    | .opens tag =>
      (descend? (some tag.name) rest).bind fun ⟨(children, after), h⟩ =>
        (descend? around after).map fun ⟨(trees, more), h'⟩ =>
          ⟨(.branch (tag.element false) children :: trees, more), Nat.le_succ_of_le (h'.trans h)⟩
termination_by events => events.length
decreasing_by
  · exact Nat.lt_succ_self _
  · exact Nat.lt_succ_self _
  · exact Nat.lt_succ_of_le h

/-- The trees of a row of events by recursive descent, if the row is balanced. -/
def nested? (events : List Event) : Option (List Shape) :=
  (descend? none events).map fun found => found.1.1

/-- Recursive descent reads trees and leaves a rest. -/
def Reads (around : Option (List Char)) (events : List Event) (trees : List Shape)
    (rest : List Event) : Prop :=
  (descend? around events).map Subtype.val = some (trees, rest)

section Descent

variable {around : Option (List Char)} {event : Event} {name : List Char} {tag : Tag} {tree : Shape}
  {trees children : List Shape} {rest after more : List Event}

/-- Outside all elements the row may end. -/
theorem Reads.nil : Reads none [] [] [] := by
  rw [Reads, descend?, if_pos rfl]
  rfl

/-- The end tag of the element around ends its content. -/
theorem Reads.closed (hr : event.role = .closes name) :
    Reads (some name) (event :: rest) [] rest := by
  rw [Reads, descend?, hr]
  dsimp only
  rw [if_pos rfl]
  rfl

/-- A tree of its own stands before what is read after it. -/
theorem Reads.piece (hr : event.role = .piece tree) (h : Reads around rest trees more) :
    Reads around (event :: rest) (tree.before trees) more := by
  rw [Reads] at h ⊢
  obtain ⟨⟨found, hlen⟩, hd, rfl⟩ := Option.map_eq_some_iff.1 h
  rw [descend?, hr]
  dsimp only
  rw [hd]
  rfl

/-- An element holds what is read up to its end tag. -/
theorem Reads.opened (hr : event.role = .opens tag) (hc : Reads (some tag.name) rest children after)
    (h : Reads around after trees more) :
    Reads around (event :: rest) (.branch (tag.element false) children :: trees) more := by
  rw [Reads] at hc h ⊢
  obtain ⟨⟨inner, hinner⟩, hdc, rfl⟩ := Option.map_eq_some_iff.1 hc
  obtain ⟨⟨outer, houter⟩, hd, rfl⟩ := Option.map_eq_some_iff.1 h
  rw [descend?, hr]
  dsimp only
  rw [hdc, Option.bind_some, hd]
  rfl

/-- What is read outside all elements are the trees of the row. -/
theorem Reads.nested? (h : Reads none rest trees more) : nested? rest = some trees := by
  obtain ⟨found, hd, hf⟩ := Option.map_eq_some_iff.1 h
  rw [Xml.nested?, hd, Option.map_some, hf]

end Descent

end HtmlToHaml.Xml
