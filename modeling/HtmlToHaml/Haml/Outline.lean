import HtmlToHaml.Haml.CommentBlock
import HtmlToHaml.Haml.Header
import HtmlToHaml.Haml.Prologue
import HtmlToHaml.Haml.ScriptLines
import HtmlToHaml.Log
import HtmlToHaml.DocTree.Walk

/-!
# Writing a tree as Haml

One pass over the tree, depth first and from left to right. A node may be written ahead of its turn,
as part of a sibling before it; the pass keeps the set of nodes that are done, and the rest of those
texts whose first word went into the line of the element before them. The tree itself never changes.
-/

namespace HtmlToHaml.Haml

open Text DocTree

/-- What a pass remembers. -/
structure Pass where
  /-- For each node, whether it is done. -/
  consumed : Array Bool
  /-- What is left of texts that gave up their first word, the latest first. -/
  truncated : List (NodeId × List Char) := []
  /-- What happened, in order. -/
  events : Array Log.Event := #[]
  deriving DecidableEq, Repr

namespace Pass

/-- Whether a node is done; a number that stands for no node counts as done. -/
def isConsumed (pass : Pass) (id : NodeId) : Bool :=
  pass.consumed[id]?.getD true

/-- The pass with a node done. -/
def consume (pass : Pass) (id : NodeId) : Pass :=
  { pass with consumed := pass.consumed.setIfInBounds id true }

/-- The pass with all of some nodes done. -/
def consumeAll (pass : Pass) (ids : List NodeId) : Pass :=
  ids.foldl consume pass

/-- The pass with a node and everything below it done. -/
def consumeSubtree (pass : Pass) (store : Store) (id : NodeId) : Pass :=
  pass.consumeAll (id :: store.descendants id)

/-- The pass in which a text has only a rest left. -/
def truncate (pass : Pass) (id : NodeId) (rest : List Char) : Pass :=
  { pass with truncated := (id, rest) :: pass.truncated }

/-- The pass with one more event. -/
def tell (pass : Pass) (event : Log.Event) : Pass :=
  { pass with events := pass.events.push event }

/-- What is left of a text node. -/
def textOf? (pass : Pass) (store : Store) (id : NodeId) : Option (List Char) :=
  match pass.truncated.lookup id with
  | some rest => some rest
  | none => (store.text? id).map String.toList

end Pass

/-- A step of a pass: it may fail, and what it remembers outlives a failure. -/
abbrev Step (α : Type) := ExceptT Failure (StateM Pass) α

/-- The siblings after a node. -/
def followingSiblings (store : Store) (id : NodeId) : List NodeId :=
  store.chain (store.size + 1) (store.nextSibling? id)

/-- The script of a printed marker as an interpolation. -/
def splicedScript (store : Store) (marker : NodeId) : List Char :=
  interpolation (collapseScript (Entity.unescape (store.innerText marker)))

/-- The text that is joined to a text: what is left of it, escaped. -/
def splicedText (pass : Pass) (store : Store) (id : NodeId) : List Char :=
  escapeInterpolation (htmlEscape ((pass.textOf? store id).getD []))

/-- The printed scripts that begin a row of siblings, each with a text right after it, as one text;
all of these nodes are done afterwards. -/
def spliceMarkers (store : Store) (pass : Pass) : List NodeId → List Char × Pass
  | [] => ([], pass)
  | [marker] =>
    if store.isElementNamed marker "loud" then
      (splicedScript store marker, pass.consumeSubtree store marker)
    else ([], pass)
  | marker :: following :: rest =>
    if store.isElementNamed marker "loud" then
      let pass := pass.consumeSubtree store marker
      if store.isText following then
        let (more, last) := spliceMarkers store (pass.consume following) rest
        (splicedScript store marker ++ splicedText pass store following ++ more, last)
      else
        let (more, last) := spliceMarkers store pass (following :: rest)
        (splicedScript store marker ++ more, last)
    else ([], pass)

/-- A text node at a level, with the printed scripts that follow it. -/
def renderText (store : Store) (erb : Bool) (id : NodeId) (level : Nat) (escapeSpecial : Bool)
    (pass : Pass) : List Char × Pass :=
  if pass.isConsumed id then ([], pass)
  else
    let pass := pass.consume id
    match pass.textOf? store id with
    | none => ([], pass)
    | some content =>
      if isBlank content then ([], pass)
      else
        let (spliced, pass) :=
          if erb then spliceMarkers store pass (followingSiblings store id) else ([], pass)
        (textLines (escapeInterpolation (htmlEscape content) ++ spliced) level escapeSpecial, pass)

/-- How an element stands to the text after it. -/
inductive Glue where
  /-- White space or no text follows. -/
  | loose
  /-- Text stands right before and right after the element. -/
  | nuked
  /-- A word stands right after the element in the text `next`. -/
  | succeeded (next : NodeId) (word rest : List Char)
  deriving DecidableEq, Repr

/-- Whether an element begins a line of text: it is the first child, stands right after a word, or
has only leading white space before it. -/
def isGluedBefore (store : Store) (pass : Pass) (id : NodeId) : Bool :=
  match store.prevSibling? id with
  | none => true
  | some prev =>
    match pass.textOf? store prev with
    | none => false
    | some text =>
      (text.getLast?.any (!isSpace ·)) ||
        (isBlank text && (store.prevSibling? prev).isNone)

/-- How an element stands to the text after it. -/
def glue (store : Store) (pass : Pass) (id : NodeId) : Glue :=
  match store.nextSibling? id with
  | none => .loose
  | some next =>
    match (if store.isText next then pass.textOf? store next else none) with
    | none => .loose
    | some text =>
      if !(text.head?.any (!isSpace ·)) then .loose
      else if isGluedBefore store pass id then .nuked
      else .succeeded next (text.takeWhile (!isSpace ·)) (text.dropWhile (!isSpace ·))

/-- The line that puts what is below it in front of a word. -/
def succeedLine (word : List Char) : List Char :=
  "= succeed ".toList ++ rubyString word ++ " do\n".toList

/-- Whether the white space inside an element counts. -/
def preservesSpace (store : Store) (id : NodeId) (name : String) : Bool :=
  name == "pre" || name == "textarea" ||
    (name == "code" && (store.parent? id).any (store.isElementNamed · "pre"))

/-- A line of preserved text: an empty one has no indentation. -/
def preservedLine (level : Nat) (line : List Char) : List Char :=
  (if line.isEmpty then [] else indentation level ++ line) ++ ['\n']

/-- The text of an element as a block whose white space counts. -/
def preserveBlock (text : List Char) (level : Nat) : List Char :=
  indentation level ++ ':' :: Filter.preserve.name.toList ++
    '\n' :: (contentLines text).flatMap (preservedLine (level + 1))

/-- Whether a character data section is a child of a node. -/
def hasCdataChild (store : Store) (id : NodeId) : Bool :=
  (store.children id).any fun child =>
    match store.data? child with
    | some (.cdata _) => true
    | _ => false

/-- The body of the filter for an element. -/
def filterContent (store : Store) (erb : Bool) (id : NodeId) : List Char :=
  let text := store.innerText id
  interpolateMarkers erb
    (if hasCdataChild store id || hasCdataFraming text then stripCdataFraming text
    else Entity.unescape text)

/-- Lines at a level. -/
def indentedLines (level : Nat) (lines : List (List Char)) : List Char :=
  lines.flatMap fun line => indentation level ++ line ++ ['\n']

/-- A line between two scripts over several lines, whose bars would run together without it. -/
def separatesScripts (store : Store) (id : NodeId) : Bool :=
  (store.nextSibling? id).any fun next =>
    store.isElementNamed next "loud" && isMultiline (store.innerText next)

/-- The lines of a printed script, or none if it is empty. -/
def loudLines (store : Store) (id : NodeId) : List (List Char) :=
  let lines := loudSourceLines (store.innerText id)
  alignLoudLines lines ++
    (if 1 < lines.length && separatesScripts store id then [['-', '#']] else [])

/-- A printed or silent script at a level. -/
def renderScript (store : Store) (silent : Bool) (id : NodeId) (level : Nat) (pass : Pass) :
    List Char × Pass :=
  let pass := pass.consumeSubtree store id
  if silent then (indentedLines level (silentLines (store.innerText id)), pass)
  else
    let lines := loudLines store id
    (indentedLines level lines, if lines.isEmpty then pass.tell .emptyScript else pass)

/-- A step that gives an answer and a new state. -/
def Step.ofPure {α : Type} (f : Pass → α × Pass) : Step α :=
  ExceptT.mk (StateT.mk fun pass => let (a, pass) := f pass; pure (.ok a, pass))

/-- The texts of nodes, one after the other. -/
def renderAll (render : NodeId → Step (List Char)) : List NodeId → Step (List Char)
  | [] => pure []
  | id :: rest => do
    let first ← render id
    let more ← renderAll render rest
    pure (first ++ more)

/-- How the content of an element is written. -/
inductive Body where
  /-- One line of text, which may stand in the header. -/
  | inline (child : NodeId)
  /-- Text whose white space counts. -/
  | preserved (child : NodeId)
  /-- A printed script, which may stand in the header. -/
  | script (child : NodeId)
  /-- Lines of their own. -/
  | block (children : List NodeId)
  deriving DecidableEq, Repr

/-- How the content of an element is written. -/
def bodyOf (store : Store) (erb : Bool) (pass : Pass) (id : NodeId) (name : String) : Body :=
  match store.children id with
  | [child] =>
    if store.isText child then
      if (pass.textOf? store child).any (!hasLineFeed ·) then .inline child
      else if preservesSpace store id name then .preserved child
      else .block [child]
    else if erb && store.isElementNamed child "loud" then .script child
    else .block [child]
  | children => .block children

/-- One line of text after a header, or below it if it became more than one. -/
def inlineText (text : List Char) : List Char :=
  let inline := trimStart text
  if inline.isEmpty then ['\n']
  else if hasLineFeed (trimEndBy (· == '\n') inline) then '\n' :: text
  else ' ' :: inline

/-- A script after a header. -/
def inlineScript (script : List Char) : List Char :=
  let script := trimStart script
  if script.isEmpty then ['\n'] else script

/-- The content of an element whose header has been written; `renderChild` writes a child at a
level. -/
def renderBody (store : Store) (erb : Bool) (renderChild : NodeId → Nat → Step (List Char))
    (id : NodeId) (level : Nat) : Body → Step (List Char)
  | .inline child => do
    let text ← Step.ofPure (renderText store erb child (level + 1) false)
    pure (inlineText text)
  | .preserved child => do
    modify (·.consume child)
    pure ('\n' :: preserveBlock (store.innerText id) (level + 1))
  | .script child => do
    let script ← renderChild child (level + 1)
    pure (inlineScript script)
  | .block children => do
    let text ← renderAll (renderChild · (level + 1)) children
    pure ('\n' :: text)

/-- An element with a header of its own. -/
def renderTag (store : Store) (options : Options)
    (renderChild : NodeId → Nat → Step (List Char)) (id : NodeId) (name : String)
    (attributes : List Attribute) (selfClosing : Bool) (level : Nat) : Step (List Char) := do
  let glued := glue store (← get) id
  let short := Shorthand.of (entries attributes options.erb)
  let tag (nuked : Bool) := header options.style name.toList short nuked selfClosing
  let finish (level : Nat) : Step (List Char) := do
    renderBody store options.erb renderChild id level (bodyOf store options.erb (← get) id name)
  match glued with
  | .loose => do
    let body ← finish level
    pure (indentation level ++ tag false ++ body)
  | .nuked => do
    modify (·.tell (.nuked id))
    let body ← finish level
    pure (indentation level ++ tag true ++ body)
  | .succeeded next word rest => do
    modify fun pass => (pass.tell (.succeeded id word)).truncate next rest
    let body ← finish (level + 1)
    pure (indentation level ++ succeedLine word ++ indentation (level + 1) ++ tag false ++ body)

/-- An element: a filter, a script marker, or a tag. -/
def renderElement (store : Store) (options : Options)
    (renderChild : NodeId → Nat → Step (List Char)) (id : NodeId) (name : String)
    (attributes : List Attribute) (selfClosing : Bool) (level : Nat) : Step (List Char) := do
  if (← get).isConsumed id then pure []
  else
    modify (·.consume id)
    match Filter.forElement? name attributes with
    | some filter =>
      modify fun pass => (pass.tell (.filtered name filter)).consumeSubtree store id
      pure (filterBlock filter (filterContent store options.erb id) level)
    | none =>
      if options.erb && name == "block" then
        renderAll (renderChild · (level + 1)) (store.children id)
      else if options.erb && (name == "loud" || name == "silent") then
        Step.ofPure (renderScript store (name == "silent") id level)
      else renderTag store options renderChild id name attributes selfClosing level

/-- A node that cannot hold others, at a level. -/
def renderLeaf (store : Store) (erb : Bool) (id : NodeId) (level : Nat) :
    Leaf → Step (List Char)
  | .text _ => Step.ofPure (renderText store erb id level true)
  | .comment content => do
    modify (·.consume id)
    pure (commentBlock content.toList level)
  | .cdata content => do
    modify (·.consume id)
    pure (indentation level ++ ':' :: Filter.cdata.name.toList ++ '\n' ::
      textLines (interpolateMarkers erb (stripCdataFraming content.toList)) (level + 1) true)
  | .doctype _ externalId _ => do
    modify (·.consume id)
    let line ← ExceptT.mk (pure (doctype (externalId.map String.toList)))
    pure (indentation level ++ line ++ ['\n'])
  | .instruction _ => do
    modify (·.consume id)
    pure (indentation level ++ "!!! XML\n".toList)

/-- A node at a level, if at most `depth` levels of the tree are needed, its own included. -/
def renderNode (store : Store) (options : Options) : (depth : Nat) → NodeId → (level : Nat) →
    Step (List Char)
  | 0, _, _ => throw (.tooDeep options.maxDepth)
  | depth + 1, id, level =>
    match store.data? id with
    | none => pure []
    | some (.leaf leaf) => renderLeaf store options.erb id level leaf
    | some (.element name attributes selfClosing) =>
      renderElement store options (renderNode store options depth) id name attributes selfClosing
        level
    | some .document | some .fragment => do
      modify (·.consume id)
      renderAll (renderNode store options depth · 0) (store.children id)

/-- The state in which a pass over a tree begins. -/
def Pass.start (store : Store) (options : Options) : Pass :=
  { consumed := Array.replicate store.size false
    events := #[.rendering store.size options.erb options.style] }

/-- A whole pass over a tree: its answer and its final state. -/
def runPass (store : Store) (options : Options) : Except Failure (List Char) × Pass :=
  (renderNode store options (options.maxDepth + 1) store.root 0).run.run (Pass.start store options)

/-- A tree as Haml. -/
def render (store : Store) (options : Options) : Except Failure String :=
  (runPass store options).1.map String.ofList

end HtmlToHaml.Haml
