import HtmlToHaml.Proofs.Forest.Built
import HtmlToHaml.Proofs.Haml.HeaderParts
import HtmlToHaml.Proofs.Outline.Course

/-!
# Headers of an outline

What a pass without scripts writes for an element begins with its header, behind the indentation or,
where a word stands right after the element, behind the line with that word. White space or a line
feed follows the header. So the header can be read there, and what the element is and has is got
back from it.
-/

namespace HtmlToHaml.Haml

open Text DocTree

/-- What stands in front of the header of an element. -/
def headerLead (level : Nat) : Glue → List Char
  | .loose | .nuked => indentation level
  | .succeeded _ word _ => indentation level ++ succeedLine word ++ indentation (level + 1)

variable {store : Store} {options : Options} {depth : Nat} {id : NodeId} {level : Nat}
  {pass after : Pass} {name : String} {attributes : List Attribute} {selfClosing : Bool}
  {text : List Char}

/-- Text after a header begins with white space. -/
theorem headIn_inlineText (s : List Char) : HeadIn [' ', '\n'] (inlineText s) := by
  rw [inlineText]
  split
  · simp [HeadIn]
  · split <;> simp [HeadIn]

/-- Without scripts no content is a script. -/
theorem bodyOf_ne_script (child : NodeId) : bodyOf store false pass id name ≠ .script child := by
  rw [bodyOf]
  split
  · split
    · split
      · exact nofun
      · split <;> exact nofun
    · exact nofun
  · exact nofun

/-- Without scripts the content of an element begins with white space. -/
theorem headIn_of_bodyCourse {row : List NodeId → Nat → Pass → Result}
    {finish : List Char → List Char}
    (h : (bodyCourse store false id name level pass finish).run store false row =
      (.ok text, after)) :
    ∃ body, text = finish body ∧ HeadIn [' ', '\n'] body := by
  rw [bodyCourse] at h
  cases hbody : bodyOf store false pass id name with
  | inline child =>
    rw [hbody] at h
    cases h
    exact ⟨_, rfl, headIn_inlineText _⟩
  | preserved child =>
    rw [hbody] at h
    cases h
    exact ⟨_, rfl, by simp [HeadIn]⟩
  | script child => exact absurd hbody (bodyOf_ne_script child)
  | block children =>
    rw [hbody] at h
    simp only [Course.run, Result.finish] at h
    cases hrow : (row children (level + 1) pass).1 with
    | error failure =>
      rw [hrow] at h
      cases h
    | ok inner =>
      rw [hrow] at h
      cases h
      exact ⟨_, rfl, by simp [HeadIn]⟩

/-- An element begins with its header, and the content follows. -/
theorem exists_body (hd : store.data? id = some (.branch (.element name attributes selfClosing)))
    (hopen : pass.isConsumed id = false) (herb : options.erb = false)
    (hfilter : Filter.forElement? name attributes = none)
    (hr : (renderNode store options depth id level).result pass = (.ok text, after)) :
    ∃ body, text = headerLead level (glue store (pass.consume id) id) ++
        header options.style name.toList (Shorthand.of (entries attributes false))
          (glue store (pass.consume id) id == .nuked) selfClosing ++ body ∧
      HeadIn [' ', '\n'] body := by
  cases depth with
  | zero => cases hr
  | succ depth =>
    rw [renderNode_result, course, hd] at hr
    dsimp only at hr
    rw [elementCourse, hopen, hfilter, herb] at hr
    simp only [Bool.false_eq_true, if_false, Bool.false_and] at hr
    rw [tagCourse, herb] at hr
    dsimp only at hr
    cases hglue : glue store (pass.consume id) id with
    | loose =>
      rw [hglue] at hr
      obtain ⟨body, rfl, hbody⟩ := headIn_of_bodyCourse hr
      exact ⟨body, rfl, hbody⟩
    | nuked =>
      rw [hglue] at hr
      obtain ⟨body, rfl, hbody⟩ := headIn_of_bodyCourse hr
      exact ⟨body, rfl, hbody⟩
    | succeeded next word rest =>
      rw [hglue] at hr
      obtain ⟨body, rfl, hbody⟩ := headIn_of_bodyCourse hr
      exact ⟨body, rfl, hbody⟩

/-- **The header of an element can be read, and the element is got back from it.** -/
theorem read_element (hd : store.data? id = some (.branch (.element name attributes selfClosing)))
    (hopen : pass.isConsumed id = false) (herb : options.erb = false)
    (hfilter : Filter.forElement? name attributes = none)
    (hname : isCssIdentifier name.toList = true) (hn : (attributes.map (·.name)).Nodup)
    (hr : (renderNode store options depth id level).result pass = (.ok text, after)) :
    let around := glue store (pass.consume id) id
    let parts := HeaderParts.of name.toList attributes (around == .nuked) selfClosing
    ∃ body read, text = headerLead level around ++ (parts.text options.style ++ body) ∧
      readHeader options.style (parts.text options.style ++ body) = some (read, body) ∧
      read = { parts with block := parts.block.mergeSort fun a b => byteLe a.name b.name } ∧
      read.Describes name.toList attributes := by
  intro around parts
  obtain ⟨body, htext, hbody⟩ := exists_body hd hopen herb hfilter hr
  have hshown : parts.Shown := shown_of hname attributes _ selfClosing
  refine ⟨body, _, ?_, readHeader_text hshown hbody, rfl,
    describes_of_perm hn (List.mergeSort_perm _ _)⟩
  rw [htext, header_eq_text hn, List.append_assoc]

/-- A division in front of a word, with an `id` that has no short form and a class that has none. -/
def labelled : Store :=
  Shape.build .fragment [.leaf (.text "say "),
    .branch (.element "div"
      [⟨"title", "(a)"⟩, ⟨"class", "one t/wo three"⟩, ⟨"id", "not short"⟩] false)
      [.leaf (.text "text")],
    .leaf (.text "word")]

/-- The division is got back from its header, which stands below the line with the word. -/
theorem read_element_labelled :
    ∃ text header body read,
      ((renderNode labelled {} 2 2 0).result (Pass.start labelled {})).1 = .ok text ∧
        text = "= succeed \"word\" do\n  ".toList ++ (header ++ body) ∧
        readHeader .symbol (header ++ body) = some (read, body) ∧
        read.elementName = "div".toList ∧ read.elementId = some "not short".toList ∧
        read.elementClasses.Perm ["one".toList, "t/wo".toList, "three".toList] ∧
        read.elementOthers.Perm [⟨"title".toList, .static "(a)".toList⟩] := by
  have hd : labelled.data? 2 = some (.branch (.element "div"
      [⟨"title", "(a)"⟩, ⟨"class", "one t/wo three"⟩, ⟨"id", "not short"⟩] false)) := by
    decide +kernel
  have hok : ((renderNode labelled {} 2 2 0).result (Pass.start labelled {})).1.isOk = true := by
    decide +kernel
  have hglue : glue labelled ((Pass.start labelled {}).consume 2) 2 =
      .succeeded 4 "word".toList [] := by
    decide +kernel
  cases hr : (renderNode labelled {} 2 2 0).result (Pass.start labelled {}) with
  | mk answer after =>
    rw [hr] at hok
    cases answer with
    | error failure => cases hok
    | ok text =>
      obtain ⟨body, read, htext, hread, -, hsays⟩ :=
        read_element hd (by decide +kernel) rfl (by decide) (by decide) (by decide) hr
      rw [hglue] at htext
      exact ⟨text, _, body, read, rfl, htext, hread, hsays.name, hsays.id, hsays.classes,
        hsays.others⟩

end HtmlToHaml.Haml
