import HtmlToHaml.Haml.Outline

/-!
# The course of one node

What a pass does at a node is either an answer at once, the text of one child or a row of children,
and then something around what came out of it. `course` says which of these it is, without the
monad; the main statement is that a node is written along its course.
-/

namespace HtmlToHaml.Haml

open Text DocTree

/-- What a pass answers and remembers. -/
abbrev Result := Except Failure (List Char) × Pass

/-- What a step comes to in a state. -/
def Step.result {α : Type} (step : Step α) (pass : Pass) : Except Failure α × Pass :=
  step.run.run pass

/-- What comes next in a pass that has not failed. -/
def Result.next (result : Result) (f : List Char → Pass → Result) : Result :=
  match result with
  | (.ok text, pass) => f text pass
  | (.error failure, pass) => (.error failure, pass)

/-- Text around an answer. -/
def Result.finish (result : Result) (f : List Char → List Char) : Result :=
  (result.1.map f, result.2)

section Results

variable {α β : Type} {pass : Pass}

@[simp] theorem Step.result_pure (a : α) : Step.result (pure a) pass = (.ok a, pass) :=
  rfl

@[simp] theorem Step.result_bind (step : Step α) (f : α → Step β) :
    Step.result (step >>= f) pass =
      match step.result pass with
      | (.ok a, pass) => (f a).result pass
      | (.error failure, pass) => (.error failure, pass) := by
  simp only [Step.result, ExceptT.run_bind, StateT.run_bind]
  cases h : (step.run.run pass : Except Failure α × Pass) with
  | mk answer pass => cases answer <;> rfl

@[simp] theorem Step.result_modify (f : Pass → Pass) :
    Step.result (modify f) pass = (.ok ⟨⟩, f pass) :=
  rfl

@[simp] theorem Step.result_get : Step.result get pass = (.ok pass, pass) :=
  rfl

@[simp] theorem Step.result_ofPure (f : Pass → α × Pass) :
    Step.result (Step.ofPure f) pass = (.ok (f pass).1, (f pass).2) :=
  rfl

end Results

/-- What is left to do at a node once its own part is done. -/
inductive Course where
  /-- Nothing: the answer and the state are known. -/
  | answered (answer : Except Failure (List Char)) (pass : Pass)
  /-- The text of the only child, and text around it. -/
  | inline (child : NodeId) (level : Nat) (pass : Pass) (finish : List Char → List Char)
  /-- A row of children, and text around them. -/
  | row (children : List NodeId) (level : Nat) (pass : Pass) (finish : List Char → List Char)

/-- The state in which a course goes on. -/
def Course.pass : Course → Pass
  | .answered _ pass => pass
  | .inline _ _ pass _ => pass
  | .row _ _ pass _ => pass

/-- The result of a course, given what rows of children come to. -/
def Course.run (store : Store) (erb : Bool) (row : List NodeId → Nat → Pass → Result) :
    Course → Result
  | .answered answer pass => (answer, pass)
  | .inline child level pass finish =>
    let (text, pass) := renderText store erb child level false pass
    (.ok (finish text), pass)
  | .row children level pass finish => (row children level pass).finish finish

/-- The course of the content of an element, with text around it. -/
def bodyCourse (store : Store) (erb : Bool) (id : NodeId) (name : String) (level : Nat)
    (pass : Pass) (finish : List Char → List Char) : Course :=
  match bodyOf store erb pass id name with
  | .inline child => .inline child (level + 1) pass fun text => finish (inlineText text)
  | .preserved child =>
    .answered (.ok (finish ('\n' :: preserveBlock (store.innerText id) (level + 1))))
      (pass.consume child)
  | .script child => .row [child] (level + 1) pass fun text => finish (inlineScript text)
  | .block children => .row children (level + 1) pass fun text => finish ('\n' :: text)

/-- The course of an element with a header of its own. -/
def tagCourse (store : Store) (options : Options) (id : NodeId) (name : String)
    (attributes : List Attribute) (selfClosing : Bool) (level : Nat) (pass : Pass) : Course :=
  let short := Shorthand.of (entries attributes options.erb)
  let tag (nuked : Bool) := header options.style name.toList short nuked selfClosing
  match glue store pass id with
  | .loose =>
    bodyCourse store options.erb id name level pass fun body =>
      indentation level ++ tag false ++ body
  | .nuked =>
    bodyCourse store options.erb id name level (pass.tell (.nuked id)) fun body =>
      indentation level ++ tag true ++ body
  | .succeeded next word rest =>
    bodyCourse store options.erb id name (level + 1)
      ((pass.tell (.succeeded id word)).truncate next rest) fun body =>
        indentation level ++ succeedLine word ++ indentation (level + 1) ++ tag false ++ body

/-- The course of an element. -/
def elementCourse (store : Store) (options : Options) (id : NodeId) (name : String)
    (attributes : List Attribute) (selfClosing : Bool) (level : Nat) (pass : Pass) : Course :=
  if pass.isConsumed id then .answered (.ok []) pass
  else
    match Filter.forElement? name attributes with
    | some filter =>
      .answered (.ok (filterBlock filter (filterContent store options.erb id) level))
        (((pass.consume id).tell (.filtered name filter)).consumeSubtree store id)
    | none =>
      if options.erb && name == "block" then
        .row (store.children id) (level + 1) (pass.consume id) fun text => text
      else if options.erb && (name == "loud" || name == "silent") then
        let (text, pass) := renderScript store (name == "silent") id level (pass.consume id)
        .answered (.ok text) pass
      else tagCourse store options id name attributes selfClosing level (pass.consume id)

/-- What a node that cannot hold others comes to. -/
def leafResult (store : Store) (erb : Bool) (id : NodeId) (level : Nat) (pass : Pass) :
    Leaf → Result
  | .text _ =>
    let (text, pass) := renderText store erb id level true pass
    (.ok text, pass)
  | .comment content => (.ok (commentBlock content.toList level), pass.consume id)
  | .cdata content =>
    (.ok (indentation level ++ ':' :: Filter.cdata.name.toList ++ '\n' ::
      textLines (interpolateMarkers erb (stripCdataFraming content.toList)) (level + 1) true),
      pass.consume id)
  | .doctype _ externalId _ =>
    ((doctype (externalId.map String.toList)).map fun line => indentation level ++ line ++ ['\n'],
      pass.consume id)
  | .instruction _ => (.ok (indentation level ++ "!!! XML\n".toList), pass.consume id)

/-- The course of a node. -/
def course (store : Store) (options : Options) (id : NodeId) (level : Nat) (pass : Pass) : Course :=
  match store.data? id with
  | none => .answered (.ok []) pass
  | some (.leaf leaf) =>
    let (answer, pass) := leafResult store options.erb id level pass leaf
    .answered answer pass
  | some (.element name attributes selfClosing) =>
    elementCourse store options id name attributes selfClosing level pass
  | some .document | some .fragment => .row (store.children id) 0 (pass.consume id) fun text => text

/-- What a row of nodes at a level comes to. -/
def rowResult (store : Store) (options : Options) (depth : Nat) (ids : List NodeId) (level : Nat)
    (pass : Pass) : Result :=
  (renderAll (renderNode store options depth · level) ids).result pass

variable {store : Store} {options : Options} {depth : Nat} {id : NodeId} {level : Nat} {pass : Pass}

/-- An empty row writes nothing. -/
@[simp] theorem rowResult_nil : rowResult store options depth [] level pass = (.ok [], pass) :=
  rfl

/-- A row writes its first node, then the others. -/
theorem rowResult_cons {rest : List NodeId} :
    rowResult store options depth (id :: rest) level pass =
      Result.next ((renderNode store options depth id level).result pass) fun first pass =>
        (rowResult store options depth rest level pass).finish (first ++ ·) := by
  rw [rowResult, renderAll, Step.result_bind]
  rcases (renderNode store options depth id level).result pass with ⟨answer | first, pass⟩
  · rfl
  · simp only [Result.next, Result.finish, Step.result_bind, rowResult]
    rcases (renderAll (renderNode store options depth · level) rest).result pass with
      ⟨answer | more, pass⟩ <;> rfl

/-- Text around a step is text around its answer. -/
theorem result_bind_pure (step : Step (List Char)) (f : List Char → List Char) :
    Step.result (step >>= fun text => pure (f text)) pass = Result.finish (step.result pass) f := by
  rw [Step.result_bind]
  rcases step.result pass with ⟨failure | text, pass⟩ <;> rfl

/-- A row of one node writes that node. -/
theorem rowResult_singleton :
    rowResult store options depth [id] level pass =
      (renderNode store options depth id level).result pass := by
  rw [rowResult_cons]
  rcases (renderNode store options depth id level).result pass with ⟨failure | text, pass⟩
  · rfl
  · simp [Result.next, Result.finish, Except.map]

/-- The content of an element is written along its course. -/
theorem renderBody_result {name : String} {finish : List Char → List Char} :
    Result.finish ((renderBody store options.erb (renderNode store options depth) id level
        (bodyOf store options.erb pass id name)).result pass) finish =
      (bodyCourse store options.erb id name level pass finish).run store options.erb
        (rowResult store options depth) := by
  rw [bodyCourse]
  cases bodyOf store options.erb pass id name with
  | inline child => rfl
  | preserved child => rfl
  | script child =>
    simp only [renderBody, Course.run, result_bind_pure, rowResult_singleton]
    rcases (renderNode store options depth child (level + 1)).result pass with
      ⟨failure | text, pass⟩ <;> rfl
  | block children =>
    simp only [renderBody, Course.run, result_bind_pure]
    change Result.finish
      (Result.finish (rowResult store options depth children (level + 1) pass) _) _ = _
    rcases rowResult store options depth children (level + 1) pass with
      ⟨failure | text, pass⟩ <;> rfl

/-- An element with a header is written along its course. -/
theorem renderTag_result {name : String} {attributes : List Attribute} {selfClosing : Bool} :
    (renderTag store options (renderNode store options depth) id name attributes selfClosing
        level).result pass =
      (tagCourse store options id name attributes selfClosing level pass).run store options.erb
        (rowResult store options depth) := by
  simp only [renderTag, tagCourse, Step.result_bind, Step.result_get]
  cases glue store pass id with
  | loose =>
    simp only [← renderBody_result, ← result_bind_pure, Step.result_bind, Step.result_get]
  | nuked =>
    simp only [← renderBody_result, ← result_bind_pure, Step.result_bind, Step.result_get,
      Step.result_modify]
  | succeeded next word rest =>
    simp only [← renderBody_result, ← result_bind_pure, Step.result_bind, Step.result_get,
      Step.result_modify]

/-- An element is written along its course. -/
theorem renderElement_result {name : String} {attributes : List Attribute} {selfClosing : Bool} :
    (renderElement store options (renderNode store options depth) id name attributes selfClosing
        level).result pass =
      (elementCourse store options id name attributes selfClosing level pass).run store options.erb
        (rowResult store options depth) := by
  simp only [renderElement, elementCourse, Step.result_bind, Step.result_get]
  by_cases hc : pass.isConsumed id = true
  · simp [hc, Course.run]
  · simp only [hc, if_false, Step.result_bind, Step.result_modify, Bool.false_eq_true]
    cases Filter.forElement? name attributes with
    | some filter => rfl
    | none =>
      dsimp only
      split
      · simp only [Course.run, Result.finish]
        change rowResult store options depth (store.children id) (level + 1) (pass.consume id) = _
        rcases rowResult store options depth (store.children id) (level + 1) (pass.consume id) with
          ⟨failure | text, pass⟩ <;> rfl
      · split
        · rfl
        · exact renderTag_result

/-- A leaf is written at once. -/
theorem renderLeaf_result {erb : Bool} {leaf : Leaf} :
    (renderLeaf store erb id level leaf).result pass = leafResult store erb id level pass leaf := by
  cases leaf with
  | doctype name externalId systemId =>
    simp only [renderLeaf, leafResult, Step.result_bind, Step.result_modify]
    cases doctype (externalId.map String.toList) <;> rfl
  | text content => rfl
  | comment content => rfl
  | cdata content => rfl
  | instruction content => rfl

/-- **A node is written along its course.** -/
theorem renderNode_result :
    (renderNode store options (depth + 1) id level).result pass =
      (course store options id level pass).run store options.erb
        (rowResult store options depth) := by
  rw [renderNode, course]
  cases hd : store.data? id with
  | none => rfl
  | some data =>
    cases data with
    | leaf leaf => exact renderLeaf_result
    | branch kind =>
      cases kind with
      | element name attributes selfClosing => exact renderElement_result
      | document =>
        simp only [Course.run, Result.finish, Step.result_bind, Step.result_modify]
        change rowResult store options depth (store.children id) 0 (pass.consume id) = _
        rcases rowResult store options depth (store.children id) 0 (pass.consume id) with
          ⟨failure | text, pass⟩ <;> rfl
      | fragment =>
        simp only [Course.run, Result.finish, Step.result_bind, Step.result_modify]
        change rowResult store options depth (store.children id) 0 (pass.consume id) = _
        rcases rowResult store options depth (store.children id) 0 (pass.consume id) with
          ⟨failure | text, pass⟩ <;> rfl

/-- Without a level left, a node is refused. -/
@[simp] theorem renderNode_zero_result :
    (renderNode store options 0 id level).result pass =
      (.error (.tooDeep options.maxDepth), pass) :=
  rfl

/-- A whole pass is the result of the root. -/
theorem runPass_eq :
    runPass store options =
      (renderNode store options (options.maxDepth + 1) store.root 0).result
        (Pass.start store options) :=
  rfl

end HtmlToHaml.Haml
