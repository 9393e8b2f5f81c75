import HtmlToHaml.Proofs.Forest.Shapes
import HtmlToHaml.Haml.Outline

/-!
# Writing a shape

A tree as Haml, read off its shape alone. What a pass remembers about a row of siblings is here a
`Spot` in the row: whether an element would begin a line, how many trees are written already and
what is left of a text that gave up its first word. Nothing else that a pass remembers decides about
what it writes.
-/

namespace HtmlToHaml.DocTree

/-- Whether a tree is a character data section. -/
def Shape.isCdata : Shape → Bool
  | .leaf (.cdata _) => true
  | _ => false

end HtmlToHaml.DocTree

namespace HtmlToHaml.Haml

open Text DocTree

/-- A place in a row of siblings, in front of the next tree. -/
structure Spot where
  /-- Whether an element would begin a line of text here. -/
  glued : Bool := true
  /-- Whether nothing stands before it. -/
  first : Bool := true
  /-- The number of trees that are written already. -/
  skip : Nat := 0
  /-- What is left of the next tree, a text that gave up its first word. -/
  held : Option (List Char) := none
  deriving DecidableEq, Repr

/-- The text of the next tree that is left. -/
def Spot.text? (spot : Spot) (tree : Shape) : Option (List Char) :=
  spot.held.or tree.content?

/-- The script of a printed marker as an interpolation. -/
def splicedShape (marker : Shape) : List Char :=
  interpolation (collapseScript (Entity.unescape marker.innerText))

/-- The text that is spliced out of the scripts that begin some trees. -/
def spliced : List Shape → List Char
  | [] => []
  | [marker] => if marker.isNamed "loud" then splicedShape marker else []
  | marker :: following :: rest =>
    if marker.isNamed "loud" then
      match following.content? with
      | some text =>
        splicedShape marker ++ escapeInterpolation (htmlEscape text) ++ spliced rest
      | none => splicedShape marker ++ spliced (following :: rest)
    else []

/-- The number of trees that the scripts that begin some trees take. -/
def runLength : List Shape → Nat
  | [] => 0
  | [marker] => if marker.isNamed "loud" then 1 else 0
  | marker :: following :: rest =>
    if marker.isNamed "loud" then
      match following.content? with
      | some _ => runLength rest + 2
      | none => runLength (following :: rest) + 1
    else 0

/-- What is left of a text, with the scripts after it. -/
def writeText (erb : Bool) (text : List Char) (rest : List Shape) (level : Nat)
    (escapeSpecial : Bool) : List Char :=
  if isBlank text then []
  else
    textLines (escapeInterpolation (htmlEscape text) ++ if erb then spliced rest else []) level
      escapeSpecial

/-- How an element stands to the text after it. -/
inductive Tie where
  /-- White space or no text follows. -/
  | loose
  /-- Text stands right before and right after the element. -/
  | nuked
  /-- A word stands right after the element. -/
  | succeeded (word rest : List Char)
  deriving DecidableEq, Repr

/-- How an element stands to the text after it. -/
def tie (glued : Bool) (rest : List Shape) : Tie :=
  match rest.head?.bind Shape.content? with
  | none => .loose
  | some text =>
    if !(text.head?.any (!isSpace ·)) then .loose
    else if glued then .nuked
    else .succeeded (text.takeWhile (!isSpace ·)) (text.dropWhile (!isSpace ·))

/-- How an element is written. -/
inductive Manner where
  /-- As a filter. -/
  | filtered (filter : Filter)
  /-- Not at all, but its content is. -/
  | opened
  /-- As a script. -/
  | script (silent : Bool)
  /-- With a header. -/
  | tag
  deriving DecidableEq, Repr

/-- How an element is written. -/
def manner (erb : Bool) (name : String) (attributes : List Attribute) : Manner :=
  match Filter.forElement? name attributes with
  | some filter => .filtered filter
  | none =>
    if erb && name == "block" then .opened
    else if erb && (name == "loud" || name == "silent") then .script (name == "silent")
    else .tag

/-- The trees that are written already after the next one. -/
def Spot.nextSkip (spot : Spot) (erb : Bool) (tree : Shape) (rest : List Shape) : Nat :=
  match spot.skip with
  | skip + 1 => skip
  | 0 =>
    match tree with
    | .leaf (.text content) =>
      if erb && !isBlank (spot.held.getD content.toList) then runLength rest else 0
    | _ => 0

/-- What is left of the text after the next tree. -/
def Spot.nextHeld (spot : Spot) (erb : Bool) (tree : Shape) (rest : List Shape) :
    Option (List Char) :=
  match spot.skip, tree with
  | 0, .branch (.element name attributes _) _ =>
    match manner erb name attributes, tie spot.glued rest with
    | .tag, .succeeded _ left => some left
    | _, _ => none
  | _, _ => none

/-- The place after the next tree. -/
def Spot.next (spot : Spot) (erb : Bool) (tree : Shape) (rest : List Shape) : Spot where
  glued :=
    match spot.text? tree with
    | none => false
    | some text => text.getLast?.any (!isSpace ·) || (isBlank text && spot.first)
  first := false
  skip := spot.nextSkip erb tree rest
  held := spot.nextHeld erb tree rest

/-- What some trees come to at a level, below an element that is a `pre` or not. -/
abbrev WriteRow := (inPre : Bool) → (level : Nat) → List Shape → Except Failure (List Char)

/-- The body of the filter for an element. -/
def filterShapes (erb : Bool) (children : List Shape) : List Char :=
  let text := Shape.textAll children
  interpolateMarkers erb
    (if children.any Shape.isCdata || hasCdataFraming text then stripCdataFraming text
    else Entity.unescape text)

/-- Whether a script over several lines stands next. -/
def separates (rest : List Shape) : Bool :=
  rest.head?.any fun next => next.isNamed "loud" && isMultiline next.innerText

/-- The lines of a script. -/
def scriptLines (silent : Bool) (text : List Char) (rest : List Shape) : List (List Char) :=
  if silent then silentLines text
  else
    let lines := loudSourceLines text
    alignLoudLines lines ++ (if 1 < lines.length && separates rest then [['-', '#']] else [])

/-- Whether the white space inside an element counts. -/
def preserves (name : String) (inPre : Bool) : Bool :=
  name == "pre" || name == "textarea" || (name == "code" && inPre)

/-- The content of an element after its header. -/
def writeBody (erb : Bool) (row : WriteRow) (inPre : Bool) (name : String) (level : Nat)
    (children : List Shape) : Except Failure (List Char) :=
  match children with
  | [child] =>
    match child.content? with
    | some text =>
      if !hasLineFeed text then .ok (inlineText (writeText erb text [] (level + 1) false))
      else if preserves name inPre then .ok ('\n' :: preserveBlock text (level + 1))
      else (row (name == "pre") (level + 1) children).map ('\n' :: ·)
    | none =>
      if erb && child.isNamed "loud" then (row (name == "pre") (level + 1) children).map
        inlineScript
      else (row (name == "pre") (level + 1) children).map ('\n' :: ·)
  | _ => (row (name == "pre") (level + 1) children).map ('\n' :: ·)

/-- An element with a header of its own. -/
def writeTag (options : Options) (row : WriteRow) (inPre glued : Bool) (name : String)
    (attributes : List Attribute) (selfClosing : Bool) (level : Nat) (children rest : List Shape) :
    Except Failure (List Char) :=
  let short := Shorthand.of (entries attributes options.erb)
  let tag (nuked : Bool) := header options.style name.toList short nuked selfClosing
  match tie glued rest with
  | .loose =>
    (writeBody options.erb row inPre name level children).map (indentation level ++ tag false ++ ·)
  | .nuked =>
    (writeBody options.erb row inPre name level children).map (indentation level ++ tag true ++ ·)
  | .succeeded word _ =>
    (writeBody options.erb row inPre name (level + 1) children).map
      (indentation level ++ succeedLine word ++ indentation (level + 1) ++ tag false ++ ·)

/-- A leaf. -/
def writeLeaf (erb : Bool) (spot : Spot) (level : Nat) (rest : List Shape) :
    Leaf → Except Failure (List Char)
  | .text content => .ok (writeText erb (spot.held.getD content.toList) rest level true)
  | .comment content => .ok (commentBlock content.toList level)
  | .cdata content =>
    .ok (indentation level ++ ':' :: Filter.cdata.name.toList ++ '\n' ::
      textLines (interpolateMarkers erb (stripCdataFraming content.toList)) (level + 1) true)
  | .doctype _ externalId _ =>
    (doctype (externalId.map String.toList)).map fun line => indentation level ++ line ++ ['\n']
  | .instruction _ => .ok (indentation level ++ "!!! XML\n".toList)

/-- The next tree of a row. -/
def writeShape (options : Options) (row : WriteRow) (inPre : Bool) (level : Nat) (spot : Spot)
    (rest : List Shape) : Shape → Except Failure (List Char)
  | .leaf leaf => writeLeaf options.erb spot level rest leaf
  | .branch (.element name attributes selfClosing) children =>
    match manner options.erb name attributes with
    | .filtered filter => .ok (filterBlock filter (filterShapes options.erb children) level)
    | .opened => row (name == "pre") (level + 1) children
    | .script silent =>
      .ok (indentedLines level (scriptLines silent (Shape.textAll children) rest))
    | .tag => writeTag options row inPre spot.glued name attributes selfClosing level children rest
  | .branch _ children => row false 0 children

/-- The next tree of a row, unless it is written already. -/
def writeNext (options : Options) (row : WriteRow) (inPre : Bool) (level : Nat) (spot : Spot)
    (rest : List Shape) (tree : Shape) : Except Failure (List Char) :=
  if spot.skip = 0 then writeShape options row inPre level spot rest tree else .ok []

/-- A row of trees from a place on, given what rows below it come to. -/
def writeFrom (options : Options) (row : WriteRow) (inPre : Bool) (level : Nat) :
    Spot → List Shape → Except Failure (List Char)
  | _, [] => .ok []
  | spot, tree :: rest => do
    let first ← writeNext options row inPre level spot rest tree
    let more ← writeFrom options row inPre level (spot.next options.erb tree rest) rest
    .ok (first ++ more)

/-- A row of trees, if at most `depth` levels of them are needed. -/
def writeRow (options : Options) : (depth : Nat) → WriteRow
  | 0, _, _, trees => if trees.isEmpty then .ok [] else .error (.tooDeep options.maxDepth)
  | depth + 1, inPre, level, trees =>
    writeFrom options (writeRow options depth) inPre level {} trees

section Answers

variable {options : Options}

/-- Text around an answer is text around a text. -/
theorem exists_of_map_eq_ok {α β : Type} {answer : Except Failure α} {f : α → β} {b : β}
    (h : answer.map f = .ok b) : ∃ a, answer = .ok a ∧ f a = b := by
  cases answer with
  | error failure => cases h
  | ok a =>
    cases h
    exact ⟨a, rfl, rfl⟩

/-- A row that comes to a text comes to the text of its first tree and that of the others. -/
theorem exists_of_writeFrom_cons {row : WriteRow} {inPre : Bool} {level : Nat} {spot : Spot}
    {tree : Shape} {rest : List Shape} {text : List Char}
    (h : writeFrom options row inPre level spot (tree :: rest) = .ok text) :
    ∃ first more, writeNext options row inPre level spot rest tree = .ok first ∧
      writeFrom options row inPre level (spot.next options.erb tree rest) rest = .ok more ∧
      first ++ more = text := by
  rw [writeFrom] at h
  cases hw : writeNext options row inPre level spot rest tree with
  | error failure =>
    rw [hw] at h
    cases h
  | ok first =>
    rw [hw] at h
    obtain ⟨more, hm, he⟩ := exists_of_map_eq_ok h
    exact ⟨first, more, rfl, hm, he⟩

/-- What rows come to has a property if a row has it whenever the rows below it have it. -/
theorem writeRow_invariant {P : Bool → Nat → List Shape → List Char → Prop}
    (hnil : ∀ inPre level, P inPre level [] [])
    (hstep : ∀ {row : WriteRow},
      (∀ inPre level trees text, row inPre level trees = .ok text → P inPre level trees text) →
      ∀ inPre level trees text, writeFrom options row inPre level {} trees = .ok text →
        P inPre level trees text) (depth : Nat) :
    ∀ inPre level trees text, writeRow options depth inPre level trees = .ok text →
      P inPre level trees text := by
  induction depth with
  | zero =>
    intro inPre level trees text h
    cases trees with
    | nil =>
      cases h
      exact hnil inPre level
    | cons tree rest => cases h
  | succ depth ih => exact hstep ih

end Answers

end HtmlToHaml.Haml
