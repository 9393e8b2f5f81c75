import HtmlToHaml.Proofs.Forest.Regular
import HtmlToHaml.Proofs.Haml.TextReading
import HtmlToHaml.Proofs.Outline.Nesting
import HtmlToHaml.Proofs.Outline.Visits

/-!
# Text whose white space counts

An element whose white space counts carries its only text in one of two forms. A text with a line
break stands in a block below the header, line by line, and loses nothing but the carriage returns
of its line breaks. A text on one line stands behind the header, and there the white space at its
ends is lost; a blank one leaves the header bare.
-/

namespace HtmlToHaml.Haml

open Text DocTree

variable {store : Store} {options : Options} {depth : Nat} {id n : NodeId} {level : Nat}
  {pass : Pass} {s line rest : List Char} {name : String} {attributes : List Attribute}
  {selfClosing : Bool} {trees : List Shape} {text : String}

section Lines

/-- The text without the carriage returns that stand in front of a line feed. -/
def unixBreaks : List Char → List Char
  | '\r' :: '\n' :: s => '\n' :: unixBreaks s
  | c :: s => c :: unixBreaks s
  | [] => []

/-- A text on one line stays as it is. -/
theorem unixBreaks_of_not_mem (hn : '\n' ∉ s) : unixBreaks s = s := by
  fun_induction unixBreaks s with
  | case1 s => simp at hn
  | case2 c s hbreak ih => rw [ih fun hm => hn (List.mem_cons_of_mem _ hm)]
  | case3 => rfl

/-- The carriage return of a line break belongs to the line before it. -/
theorem unixBreaks_append_newline (hn : '\n' ∉ line) :
    unixBreaks (line ++ '\n' :: rest) = dropCarriageReturn line ++ '\n' :: unixBreaks rest := by
  induction line with
  | nil => rfl
  | cons c line ih =>
    rw [List.mem_cons, not_or] at hn
    cases line with
    | nil =>
      by_cases hc : c = '\r'
      · rw [hc]
        rfl
      · have hdrop : dropCarriageReturn [c] = [c] := by simp [dropCarriageReturn, hc]
        rw [hdrop, List.singleton_append, unixBreaks.eq_2 _ _ fun _ he => absurd he hc]
        rfl
    | cons d line =>
      have hd : d ≠ '\n' := fun he => hn.2 (he ▸ List.mem_cons_self)
      have hdrop : dropCarriageReturn (c :: d :: line) = c :: dropCarriageReturn (d :: line) := by
        rw [dropCarriageReturn, dropCarriageReturn, List.getLast?_cons_cons]
        split <;> rfl
      have hcons : unixBreaks (c :: (d :: line ++ '\n' :: rest)) =
          c :: unixBreaks (d :: line ++ '\n' :: rest) :=
        unixBreaks.eq_2 _ _ fun _ _ he => hd (List.cons.inj he).1
      rw [hdrop, List.cons_append, hcons, ih hn.2, List.cons_append]

/-- Lines that make up a text, up to the carriage returns in front of its line feeds and a line feed
at the end. -/
structure AreLines (s : List Char) (lines : List (List Char)) : Prop where
  /-- Each of them is one line. -/
  single : ∀ line ∈ lines, '\n' ∉ line
  /-- Together they are the text. -/
  joined : unlines lines = unixBreaks s ∨ unlines lines = unixBreaks s ++ ['\n']

/-- The lines of a text make it up. -/
theorem areLines_contentLines (s : List Char) : AreLines s (contentLines s) := by
  refine ⟨fun _ => newline_not_mem_of_mem_contentLines, ?_⟩
  induction hl : s.length using Nat.strong_induction_on generalizing s with
  | _ n ih =>
    subst hl
    by_cases hn : '\n' ∈ s
    · -- The first line is ended by a line feed, and what follows it is shorter.
      obtain ⟨line, rest, rfl, hline⟩ := List.eq_append_cons_of_mem hn
      have hfirst : contentLines (line ++ '\n' :: rest) =
          dropCarriageReturn line :: contentLines rest := by
        obtain ⟨piece, more, hpieces⟩ := List.exists_cons_of_ne_nil (List.splitOn_ne_nil '\n' rest)
        rw [contentLines, contentLines, splitLines, splitLines,
          List.splitOn_append_cons_self_of_not_mem hline, hpieces]
        rfl
      have hunlines : unlines (contentLines (line ++ '\n' :: rest)) =
          dropCarriageReturn line ++ '\n' :: unlines (contentLines rest) := by
        rw [hfirst, unlines, unlines, List.flatMap_cons, List.append_assoc, List.singleton_append]
      rw [hunlines, unixBreaks_append_newline hline]
      rcases ih rest.length (by simp; omega) rest rfl with hrest | hrest
      · exact Or.inl (by rw [hrest])
      · exact Or.inr (by rw [hrest, List.append_assoc, List.cons_append])
    · rw [unixBreaks_of_not_mem hn, contentLines, splitLines, List.splitOn_eq_singleton hn,
        endedLines]
      cases s with
      | nil => exact Or.inl rfl
      | cons c s => exact Or.inr (List.append_nil _)

end Lines

section Forms

/-- A text below a header at a level, as a block whose rows are indented by four spaces more than
the header; an empty row has no indentation. -/
def IsPreserved (level : Nat) (s body : List Char) : Prop :=
  ∃ rows, body = '\n' :: indentation (level + 1) ++ ":preserve\n".toList ++ unlines rows ∧
    (∀ row ∈ rows, row = [] ∨ indentation (level + 2) <+: row) ∧
    AreLines s (rows.map fun row => row.drop (indentation (level + 2)).length)

/-- A text behind a header, on the same line and with its escapes. -/
def IsInline (s body : List Char) : Prop :=
  ∃ line, '\n' ∉ line ∧ body = ' ' :: line ++ ['\n'] ∧ readReferences (readInterpolations line) = s

/-- A line of preserved text without its line feed. -/
def preservedRow (level : Nat) (line : List Char) : List Char :=
  if line.isEmpty then [] else indentation level ++ line

/-- A row of preserved text is empty or indented. -/
theorem preservedRow_cases (level : Nat) (line : List Char) :
    preservedRow level line = [] ∨ indentation level <+: preservedRow level line := by
  rw [preservedRow]
  split
  · exact Or.inl rfl
  · exact Or.inr (List.prefix_append _ _)

/-- A row without its indentation is the line. -/
theorem drop_preservedRow (level : Nat) (line : List Char) :
    (preservedRow level line).drop (indentation level).length = line := by
  rw [preservedRow]
  split
  · rename_i he
    rw [List.isEmpty_iff.1 he, List.drop_nil]
  · exact List.drop_left

/-- A block of preserved text is the text below its header. -/
theorem isPreserved_preserveBlock (level : Nat) (s : List Char) :
    IsPreserved level s ('\n' :: preserveBlock s (level + 1)) := by
  have hrows : (contentLines s).flatMap (preservedLine (level + 2)) =
      unlines ((contentLines s).map (preservedRow (level + 2))) := by
    rw [unlines, List.flatMap_map]
    rfl
  refine ⟨(contentLines s).map (preservedRow (level + 2)), ?_, fun row hr => ?_, ?_⟩
  · rw [preserveBlock, hrows]
    simp [Filter.name]
  · obtain ⟨line, -, rfl⟩ := List.mem_map.1 hr
    exact preservedRow_cases (level + 2) line
  · have hlines : ((contentLines s).map (preservedRow (level + 2))).map
        (fun row => row.drop (indentation (level + 2)).length) = contentLines s := by
      rw [List.map_map]
      exact (List.map_congr_left fun line _ => drop_preservedRow (level + 2) line).trans
        (List.map_id _)
    rw [hlines]
    exact areLines_contentLines s

/-- A text that is trimmed once stays. -/
theorem trim_trim (s : List Char) : trim (trim s) = trim s := by
  cases hb : isBlank s with
  | true =>
    rw [trim_of_isBlank hb]
    rfl
  | false =>
    obtain ⟨c, rest, hs, hc⟩ := trim_eq_cons hb
    have hend : trimEnd (trim s) = trim s := List.rdropWhile_idempotent isSpace (trimStart s)
    rw [trim_eq, hs, trimStart_cons hc, ← hs, hend]

/-- A text on one line is the trimmed text behind its header, and nothing if it is blank. -/
theorem inlineText_writeText (hn : '\n' ∉ s) (level : Nat) :
    (isBlank s = false → IsInline (trim s) (inlineText (writeText false s [] level false))) ∧
      (isBlank s = true → inlineText (writeText false s [] level false) = ['\n']) := by
  constructor
  · intro hb
    have hblank : isBlank (escapeInterpolation (htmlEscape s)) = false := by
      rw [isBlank_escapeInterpolation, isBlank_htmlEscape, hb]
    refine ⟨escapeInterpolation (htmlEscape (trim s)), ?_, ?_, ?_⟩
    · exact newline_not_mem_escape fun hm => hn (mem_of_mem_trimBy hm)
    · simp only [writeText, hb, Bool.false_eq_true, if_false, List.append_nil]
      rw [inlineText_textLines (newline_not_mem_escape hn), hblank, trim_escape, trim_escape,
        trim_trim]
      rfl
    · rw [readInterpolations_escapeInterpolation, readReferences_htmlEscape]
  · intro hb
    rw [writeText, if_pos hb]
    rfl

end Forms

section Calls

/-- Nothing within a node is done, and no text below it is cut. -/
structure Untouched (store : Store) (pass : Pass) (id : NodeId) : Prop where
  /-- Nothing within it is done. -/
  fresh : ∀ n, store.Within n id → pass.isConsumed n = false
  /-- No text below it is cut. -/
  uncut : ∀ n, store.Within n id → n ≠ id → pass.truncated.lookup n = none

/-- What is within a node does not stand right after it. -/
theorem nextSibling?_ne_of_within (h : store.Consistent) (hn : store.Within n id) :
    store.nextSibling? id ≠ some n := by
  intro he
  obtain ⟨parent, before, after, hk⟩ := h.exists_neighbours he
  exact not_within_of_mem_after h hk List.mem_cons_self .refl hn

/-- Without script mode, no node is touched before a pass comes to it. -/
theorem handedOn_untouched (h : store.Forest) (herb : options.erb = false) :
    HandedOn store options (Untouched store) := by
  constructor
  · intro pass id hu n hn hc
    rw [hu.fresh n hn] at hc
    cases hc
  · intro pass id child level hu hchild he
    have hbelow : ∀ n, store.Within n child → n ≠ id ∧ store.Within n id := by
      intro n hn
      refine ⟨?_, hn.tail hchild⟩
      rintro rfl
      exact h.consistent.not_within hchild hn
    refine ⟨fun n hn => ?_, fun n hn _ => ?_⟩
    · obtain ⟨hne, hw⟩ := hbelow n hn
      rw [Bool.eq_false_iff, Ne, he n, not_or, hu.fresh n hw]
      exact ⟨hne, Bool.false_ne_true⟩
    · obtain ⟨hne, hw⟩ := hbelow n hn
      rw [lookup_course (nextSibling?_ne_of_within h.consistent hw)]
      exact hu.uncut n hw hne
  · intro pass pass' parent before id rest other level hk ho hu hf
    refine ⟨fun n hn => ?_, fun n hn hne => ?_⟩
    · rw [Bool.eq_false_iff, Ne, hf.isConsumed_behind h.consistent hk ho hn, hu.fresh n hn, herb]
      simp [Splices]
    · rw [hf.lookup_behind h.consistent hk ho hn
        (nextSibling?_ne_of_below h.consistent hk ho hn hne)]
      exact hu.uncut n hn hne

/-- **Without script mode, a pass comes to every node before anything within it is done or cut.** -/
theorem untouched_visits (h : store.Forest) {kind : Branch}
    (hkind : store.data? store.root = some (.branch kind)) (herb : options.erb = false)
    (hvisit : Visit.call depth id level pass ∈
      visits store options (options.maxDepth + 1) store.root 0 (Pass.start store options)) :
    Untouched store pass id := by
  have hroot : store.root < store.size := Store.lt_size_of_data? hkind
  have hstart : Untouched store (Pass.start store options) store.root :=
    ⟨fun n hn => isConsumed_start (h.consistent.lt_size_of_within hn hroot), fun _ _ _ => rfl⟩
  exact ((handedOn_untouched h herb).calls h hroot hstart hvisit).2

/-- An element with a header that is not done takes the course of its tag. -/
theorem course_eq_tagCourse
    (hd : store.data? id = some (.branch (.element name attributes selfClosing)))
    (hmanner : manner options.erb name attributes = .tag) (hopen : pass.isConsumed id = false) :
    course store options id level pass =
      tagCourse store options id name attributes selfClosing level (pass.consume id) := by
  rw [course, hd]
  simp only [elementCourse, hopen, Bool.false_eq_true, if_false]
  rw [manner] at hmanner
  cases hf : Filter.forElement? name attributes with
  | some filter =>
    rw [hf] at hmanner
    cases hmanner
  | none =>
    rw [hf] at hmanner
    dsimp only at hmanner ⊢
    split at hmanner
    · cases hmanner
    · rename_i hblock
      split at hmanner
      · cases hmanner
      · rename_i hscript
        rw [if_neg hblock, if_neg hscript]

/-- An untouched element with a header that nothing follows is written as its header
and its content. -/
theorem renderNode_of_untouched (h : store.Forest)
    (hs : store.Shows id (.branch (.element name attributes selfClosing) trees))
    (hmanner : manner options.erb name attributes = .tag) (hnext : store.nextSibling? id = none)
    (hu : Untouched store pass id) :
    ((renderNode store options (depth + 1) id level).result pass).1 =
      (writeBody options.erb (writeRow options depth)
        ((store.parent? id).any (store.isElementNamed · "pre")) name level trees).map
          (indentation level ++ header options.style name.toList
            (Shorthand.of (entries attributes options.erb)) false selfClosing ++ ·) := by
  have hready := ready_children h.consistent entered_consume hu.fresh hu.uncut
  have hname : store.isElementNamed id "pre" = (name == "pre") := Store.isElementNamed_of_shows hs
  have hglue : glue store (pass.consume id) id = .loose := by rw [glue, hnext]
  have hrow : ∀ level,
      (rowResult store options depth (store.children id) level (pass.consume id)).1 =
      writeRow options depth (name == "pre") level trees := by
    intro level
    rw [← hname]
    rw [Store.Shows] at hs
    exact rowsAgree h options depth hs.2 hready
  have hcourse : course store options id level pass =
      tagCourse store options id name attributes selfClosing level (pass.consume id) := by
    rw [Store.Shows] at hs
    exact course_eq_tagCourse hs.1 hmanner (hu.fresh id .refl)
  rw [renderNode_result, hcourse, tagCourse]
  simp only [hglue]
  exact bodyCourse_answer h.consistent hs hready rfl hrow

end Calls

/-- What keeps white space: a `pre`, a `textarea`, or a `code` that is a child of a `pre`. -/
def KeepsSpace (store : Store) (id : NodeId) (name : String) : Prop :=
  name = "pre" ∨ name = "textarea" ∨
    name = "code" ∧ ∃ parent, store.parent? id = some parent ∧
      store.isElementNamed parent "pre" = true

/-- An element that keeps white space has a header without script mode, and preserves its text. -/
theorem KeepsSpace.manner_and_preserves (h : KeepsSpace store id name) :
    manner false name [] = .tag ∧
      preserves name ((store.parent? id).any (store.isElementNamed · "pre")) = true := by
  obtain rfl | rfl | ⟨rfl, parent, hparent, hpre⟩ := h
  · exact ⟨by decide, rfl⟩
  · exact ⟨by decide, rfl⟩
  · refine ⟨by decide, ?_⟩
    rw [hparent, Option.any_some, hpre]
    rfl

/-- **An element that keeps white space carries the lines of its text below its header if the
text has a line break, and otherwise the trimmed text behind its header, or nothing if the
text is blank.** -/
theorem renderNode_keepsSpace (h : store.Forest) {kind : Branch}
    (hkind : store.data? store.root = some (.branch kind)) (herb : options.erb = false)
    (hvisit : Visit.call (depth + 1) id level pass ∈
      visits store options (options.maxDepth + 1) store.root 0 (Pass.start store options))
    (hs : store.Shows id (.branch (.element name [] selfClosing) [.leaf (.text text)]))
    (hname : KeepsSpace store id name) (hnext : store.nextSibling? id = none) :
    ∃ body, ((renderNode store options (depth + 1) id level).result pass).1 =
        .ok (indentation level ++ ('%' :: name.toList ++ (if selfClosing then ['/'] else [])) ++
          body) ∧
      ('\n' ∈ text.toList → IsPreserved level text.toList body) ∧
      ('\n' ∉ text.toList → isBlank text.toList = false → IsInline (trim text.toList) body) ∧
      ('\n' ∉ text.toList → isBlank text.toList = true → body = ['\n']) := by
  obtain ⟨hmanner, hpreserves⟩ := hname.manner_and_preserves
  rw [← herb] at hmanner
  have hcontent : (Shape.leaf (.text text)).content? = some text.toList := rfl
  rw [renderNode_of_untouched h hs hmanner hnext (untouched_visits h hkind herb hvisit), herb,
    header_plain, writeBody, hcontent]
  dsimp only
  by_cases hbreak : '\n' ∈ text.toList
  · have hfeed : hasLineFeed text.toList = true := List.contains_iff_mem.2 hbreak
    simp only [hfeed, Bool.not_true, Bool.false_eq_true, if_false, hpreserves, if_true]
    exact ⟨_, rfl, fun _ => isPreserved_preserveBlock level text.toList, fun hn => absurd hbreak hn,
      fun hn => absurd hbreak hn⟩
  · have hfeed : hasLineFeed text.toList = false :=
      Bool.eq_false_iff.2 fun hc => hbreak (List.contains_iff_mem.1 hc)
    obtain ⟨hinline, hbare⟩ := inlineText_writeText hbreak (level + 1)
    simp only [hfeed, Bool.not_false, if_true]
    exact ⟨_, rfl, fun hm => absurd hm hbreak, fun _ => hinline, fun _ => hbare⟩

/-- A `code` with two line breaks in a `pre`. -/
def codeInPre : Store :=
  Shape.build .fragment [.branch (.element "pre" [] false)
    [.branch (.element "code" [] false) [.leaf (.text " a < b\r\n\n  c ")]]]

/-- The lines of the code stand below its header. -/
theorem renderNode_keepsSpace_codeInPre :
    codeInPre.Forest ∧ codeInPre.data? codeInPre.root = some .fragment ∧
      Visit.call 511 2 1 (((Pass.start codeInPre {}).consume 0).consume 1) ∈
        visits codeInPre {} 513 codeInPre.root 0 (Pass.start codeInPre {}) ∧
      codeInPre.Shows 2 (.branch (.element "code" [] false) [.leaf (.text " a < b\r\n\n  c ")]) ∧
      KeepsSpace codeInPre 2 "code" ∧ codeInPre.nextSibling? 2 = none ∧
      ∃ body, ((renderNode codeInPre {} 511 2 1).result
          (((Pass.start codeInPre {}).consume 0).consume 1)).1 = .ok ("  %code".toList ++ body) ∧
        IsPreserved 1 " a < b\r\n\n  c ".toList body := by
  have hforest : codeInPre.Forest := (Store.forest_build _ _).1
  have hkind : codeInPre.data? codeInPre.root = some .fragment := rfl
  have hvisit : Visit.call 511 2 1 (((Pass.start codeInPre {}).consume 0).consume 1) ∈
      visits codeInPre {} 513 codeInPre.root 0 (Pass.start codeInPre {}) :=
    List.mem_cons_of_mem _ (List.mem_cons_of_mem _ List.mem_cons_self)
  have hs : codeInPre.Shows 2
      (.branch (.element "code" [] false) [.leaf (.text " a < b\r\n\n  c ")]) := by
    have hroot : codeInPre.Shows codeInPre.root _ := Store.shows_build .fragment rfl
    simp only [Store.Shows] at hroot ⊢
    exact hroot.2.1.2.1
  have hname : KeepsSpace codeInPre 2 "code" := Or.inr (Or.inr ⟨rfl, 1, rfl, rfl⟩)
  obtain ⟨body, hwritten, hblock, -, -⟩ :=
    renderNode_keepsSpace hforest hkind rfl hvisit hs hname rfl
  exact ⟨hforest, hkind, hvisit, hs, hname, rfl, body, hwritten, hblock (by decide)⟩

/-- A `pre` with a text between two spaces. -/
def spacedPre : Store :=
  Shape.build .fragment [.branch (.element "pre" [] false) [.leaf (.text " x ")]]

/-- The spaces around a text on one line are lost, though its element keeps white space: it carries
the text neither below its header nor behind it. -/
theorem not_carried_spacedPre :
    spacedPre.Forest ∧ spacedPre.data? spacedPre.root = some .fragment ∧
      Visit.call 512 1 0 ((Pass.start spacedPre {}).consume 0) ∈
        visits spacedPre {} 513 spacedPre.root 0 (Pass.start spacedPre {}) ∧
      spacedPre.Shows 1 (.branch (.element "pre" [] false) [.leaf (.text " x ")]) ∧
      KeepsSpace spacedPre 1 "pre" ∧ spacedPre.nextSibling? 1 = none ∧
      ∃ body, ((renderNode spacedPre {} 512 1 0).result ((Pass.start spacedPre {}).consume 0)).1 =
          .ok ("%pre".toList ++ body) ∧
        ¬ IsPreserved 0 " x ".toList body ∧ ¬ IsInline " x ".toList body := by
  have hforest : spacedPre.Forest := (Store.forest_build _ _).1
  have hs : spacedPre.Shows 1 (.branch (.element "pre" [] false) [.leaf (.text " x ")]) := by
    have hroot : spacedPre.Shows spacedPre.root _ := Store.shows_build .fragment rfl
    simp only [Store.Shows] at hroot ⊢
    exact hroot.2.1
  refine ⟨hforest, rfl, List.mem_cons_of_mem _ List.mem_cons_self, hs, Or.inl rfl, rfl,
    " x\n".toList, rfl, ?_, ?_⟩
  · rintro ⟨rows, he, -⟩
    cases he
  · rintro ⟨line, -, he, hread⟩
    have hline : line ++ ['\n'] = ['x'] ++ ['\n'] := (List.cons.inj he).2.symm
    rw [List.append_cancel_right hline] at hread
    exact absurd hread (by decide)

end HtmlToHaml.Haml
