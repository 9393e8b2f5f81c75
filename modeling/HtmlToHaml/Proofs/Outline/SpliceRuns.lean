import HtmlToHaml.Proofs.Haml.Count
import HtmlToHaml.Proofs.Haml.Shift
import HtmlToHaml.Proofs.Outline.Splice

/-!
# The run of scripts behind a text

With scripts on, a text takes the longest run of printed scripts right behind it into its lines, and
with each script the text right behind that. The main statement is that it takes these once and in
order, that their scripts are on one line, so that all line breaks are those of texts, and that
nothing else is done: neither another node nor what is left of any text changes.
-/

namespace HtmlToHaml.Haml

open Text DocTree

variable {store : Store} {pass : Pass} {id n : NodeId} {siblings rest : List NodeId} {level : Nat}
  {s t text : List Char} {escapeSpecial : Bool}

/-- A printed script that a text takes into its lines, with the text right behind the script if
there is one. -/
structure Splice where
  /-- The script. -/
  marker : NodeId
  /-- The text right behind it. -/
  text : Option NodeId
  deriving DecidableEq, Repr

namespace Splice

/-- The siblings of a splice. -/
def nodes (splice : Splice) : List NodeId :=
  splice.marker :: splice.text.toList

/-- The nodes of a splice: its script with all below it, and its text. -/
def done (store : Store) (splice : Splice) : List NodeId :=
  splice.marker :: store.descendants splice.marker ++ splice.text.toList

/-- What is left of the text of a splice. -/
def content (store : Store) (pass : Pass) (splice : Splice) : List Char :=
  (splice.text.bind (pass.textOf? store)).getD []

/-- The script of a splice on one line. -/
def script (store : Store) (splice : Splice) : List Char :=
  collapseScript (Entity.unescape (store.innerText splice.marker))

/-- A splice as it is written: the interpolation of its script, and its text. -/
def written (store : Store) (pass : Pass) (splice : Splice) : List Char :=
  interpolation (splice.script store) ++
    escapeInterpolation (htmlEscape (splice.content store pass))

end Splice

/-- The splices that begin a row of siblings. -/
def splices (store : Store) : List NodeId → List Splice
  | [] => []
  | [marker] => if store.isElementNamed marker "loud" then [⟨marker, none⟩] else []
  | marker :: following :: rest =>
    if store.isElementNamed marker "loud" then
      if store.isText following then ⟨marker, some following⟩ :: splices store rest
      else ⟨marker, none⟩ :: splices store (following :: rest)
    else []

/-- The splices of a text: those that begin the siblings behind it. -/
def textRun (store : Store) (id : NodeId) : List Splice :=
  splices store (followingSiblings store id)

/-- The longest run of printed scripts, each with at most one text behind it, that
begins some siblings. -/
structure IsRun (store : Store) (siblings : List NodeId) (run : List Splice) (rest : List NodeId) :
    Prop where
  /-- The run comes first. -/
  split : siblings = run.flatMap Splice.nodes ++ rest
  /-- The scripts are printed scripts. -/
  scripts : ∀ splice ∈ run, store.isElementNamed splice.marker "loud" = true
  /-- The texts are texts. -/
  texts : ∀ splice ∈ run, ∀ text ∈ splice.text, store.isText text = true
  /-- No such run is longer. -/
  longest : ∀ row, IsMarkerRow store row → row <+: siblings → row <+: run.flatMap Splice.nodes

section Runs

/-- The splices that begin some siblings stand in the longest row of scripts there. -/
theorem flatMap_nodes_splices (store : Store) (siblings : List NodeId) :
    (splices store siblings).flatMap Splice.nodes = markerRun store siblings := by
  induction siblings using markerRun.induct store with
  | case1 => rfl
  | case2 marker hm =>
    rw [splices, markerRun, if_pos hm, if_pos hm]
    rfl
  | case3 marker hm =>
    rw [splices, markerRun, if_neg hm, if_neg hm]
    rfl
  | case4 marker following rest hm hf ih =>
    rw [splices, markerRun, if_pos hm, if_pos hm, if_pos hf, if_pos hf, List.flatMap_cons, ih]
    rfl
  | case5 marker following rest hm hf ih =>
    rw [splices, markerRun, if_pos hm, if_pos hm, if_neg hf, if_neg hf, List.flatMap_cons, ih]
    rfl
  | case6 marker following rest hm =>
    rw [splices, markerRun, if_neg hm, if_neg hm]
    rfl

/-- A splice is a printed script, with a text if there is one. -/
theorem splices_kinds : ∀ splice ∈ splices store siblings,
    store.isElementNamed splice.marker "loud" = true ∧
      ∀ text ∈ splice.text, store.isText text = true := by
  induction siblings using markerRun.induct store with
  | case1 => exact List.forall_mem_nil _
  | case2 marker hm =>
    rw [splices, if_pos hm]
    exact List.forall_mem_singleton.2 ⟨hm, by simp⟩
  | case3 marker hm =>
    rw [splices, if_neg hm]
    exact List.forall_mem_nil _
  | case4 marker following rest hm hf ih =>
    rw [splices, if_pos hm, if_pos hf]
    refine List.forall_mem_cons.2 ⟨⟨hm, ?_⟩, ih⟩
    simpa using hf
  | case5 marker following rest hm hf ih =>
    rw [splices, if_pos hm, if_neg hf]
    exact List.forall_mem_cons.2 ⟨⟨hm, by simp⟩, ih⟩
  | case6 marker following rest hm =>
    rw [splices, if_neg hm]
    exact List.forall_mem_nil _

/-- The splices that begin some siblings are the longest run. -/
theorem exists_isRun_splices (store : Store) (siblings : List NodeId) :
    ∃ rest, IsRun store siblings (splices store siblings) rest := by
  have hnodes := flatMap_nodes_splices store siblings
  obtain ⟨-, ⟨rest, hrest⟩, hlongest⟩ := @markerRun_longest store siblings
  refine ⟨rest, ?_, fun splice hs => (splices_kinds splice hs).1,
    fun splice hs => (splices_kinds splice hs).2, ?_⟩
  · rw [hnodes, hrest]
  · rw [hnodes]
    exact hlongest

end Runs

section Writing

/-- Nodes are done one group after the other. -/
theorem Pass.consumeAll_append (pass : Pass) (ids more : List NodeId) :
    pass.consumeAll (ids ++ more) = (pass.consumeAll ids).consumeAll more :=
  List.foldl_append

/-- A script alone is done with all below it. -/
theorem Pass.consumeAll_done_alone (pass : Pass) (marker : NodeId) (more : List NodeId) :
    pass.consumeAll (Splice.done store ⟨marker, none⟩ ++ more) =
      (pass.consumeSubtree store marker).consumeAll more := by
  rw [consumeAll_append, Splice.done, Option.toList_none, List.append_nil, consumeSubtree]

/-- A script is done with all below it, and the text behind it as well. -/
theorem Pass.consumeAll_done_text (pass : Pass) (marker following : NodeId) (more : List NodeId) :
    pass.consumeAll (Splice.done store ⟨marker, some following⟩ ++ more) =
      ((pass.consumeSubtree store marker).consume following).consumeAll more := by
  rw [consumeAll_append, Splice.done, consumeAll_append, ← consumeSubtree]
  rfl

/-- A script alone is written as its interpolation. -/
theorem Splice.written_alone (pass : Pass) (marker : NodeId) :
    Splice.written store pass ⟨marker, none⟩ = splicedScript store marker :=
  List.append_nil _

/-- A script is written with the text behind it. -/
theorem Splice.written_text (pass : Pass) (marker following : NodeId) :
    Splice.written store pass ⟨marker, some following⟩ =
      splicedScript store marker ++ splicedText pass store following :=
  rfl

/-- What a splice comes to depends on what is left of the texts only. -/
theorem Splice.written_congr {pass' : Pass} (h : pass'.truncated = pass.truncated) :
    Splice.written store pass' = Splice.written store pass := by
  funext splice
  have htext : pass'.textOf? store = pass.textOf? store :=
    funext fun id => Pass.textOf?_congr (congrArg (List.lookup id) h)
  rw [written, written, content, content, htext]

/-- **Splicing writes the run of scripts behind a text, and does its nodes.** -/
theorem spliceMarkers_eq (store : Store) (pass : Pass) (siblings : List NodeId) :
    spliceMarkers store pass siblings =
      ((splices store siblings).flatMap (Splice.written store pass),
        pass.consumeAll ((splices store siblings).flatMap (Splice.done store))) := by
  induction siblings using markerRun.induct store generalizing pass with
  | case1 => rfl
  | case2 marker hm =>
    rw [splices, spliceMarkers, if_pos hm, if_pos hm, List.flatMap_singleton,
      List.flatMap_singleton, Splice.written_alone, ← List.append_nil (Splice.done store _),
      Pass.consumeAll_done_alone]
    rfl
  | case3 marker hm =>
    rw [splices, spliceMarkers, if_neg hm, if_neg hm]
    rfl
  | case4 marker following rest hm hf ih =>
    have hcut : ((pass.consumeSubtree store marker).consume following).truncated = pass.truncated :=
      Pass.truncated_consumeSubtree
    rw [splices, if_pos hm, if_pos hf, spliceMarkers_text hm hf, ih, List.flatMap_cons,
      List.flatMap_cons, Pass.consumeAll_done_text, Splice.written_text, Splice.written_congr hcut,
      splicedText,
      Pass.textOf?_congr (congrArg (List.lookup following) Pass.truncated_consumeSubtree),
      ← splicedText]
  | case5 marker following rest hm hf ih =>
    have hcut : (pass.consumeSubtree store marker).truncated = pass.truncated :=
      Pass.truncated_consumeSubtree
    rw [splices, if_pos hm, if_neg hf, spliceMarkers_script hm hf, ih, List.flatMap_cons,
      List.flatMap_cons, Pass.consumeAll_done_alone, Splice.written_alone,
      Splice.written_congr hcut]
  | case6 marker following rest hm =>
    rw [splices, spliceMarkers, if_neg hm, if_neg hm]
    rfl

/-- A text that is not done is written with the run of scripts behind it, and does itself and the
nodes of the run. -/
theorem renderText_eq (hopen : pass.isConsumed id = false) (ht : pass.textOf? store id = some text)
    (hb : isBlank text = false) (level : Nat) (escapeSpecial : Bool) :
    renderText store true id level escapeSpecial pass =
      (textLines (escapeInterpolation (htmlEscape text) ++
          (textRun store id).flatMap (Splice.written store pass)) level escapeSpecial,
        pass.consumeAll (id :: (textRun store id).flatMap (Splice.done store))) := by
  have hleft : (pass.consume id).textOf? store id = some text := ht
  have hcut : (pass.consume id).truncated = pass.truncated := rfl
  rw [renderText, hopen]
  simp only [Bool.false_eq_true, if_false, hleft, hb, if_true]
  rw [spliceMarkers_eq, Splice.written_congr hcut]
  rfl

end Writing

section LineBreaks

/-- A text has one piece more than line feeds. -/
theorem length_splitLines (s : List Char) : (splitLines s).length = lineFeeds s + 1 := by
  induction hl : s.length using Nat.strong_induction_on generalizing s with
  | _ n ih =>
    subst hl
    have hone : ∀ {line : List Char}, '\n' ∉ line →
        (splitLines line).length = lineFeeds line + 1 := by
      intro line hn
      rw [splitLines, List.splitOn_eq_singleton hn, lineFeeds, List.count_eq_zero.2 hn]
      rfl
    rcases lastLine_cases s with hn | ⟨front, line, rfl, hn⟩
    · exact hone hn
    · rw [splitLines_append_newline, List.length_append, hone hn,
        ih front.length (by simp) front rfl, lineFeeds, lineFeeds, lineFeeds, List.count_append,
        List.count_cons_self]
      omega

/-- The escapes bring no line break. -/
theorem lineFeeds_escape (s : List Char) :
    lineFeeds (escapeInterpolation (htmlEscape s)) = lineFeeds s := by
  rw [lineFeeds, count_escapeInterpolation (by decide), count_htmlEscape (by decide), lineFeeds]

/-- The lines of a text are ended by a line break, and the others are those between its lines. -/
theorem lineFeeds_textLines (hb : isBlank s = false) (level : Nat) (escapeSpecial : Bool) :
    lineFeeds (textLines s level escapeSpecial) = lineFeeds (trim s) + 1 := by
  have hline : ∀ line ∈ splitLines (trim s),
      (textLine level escapeSpecial (trim line)).count '\n' = 1 := by
    intro line hl
    have hmark : (if escapeSpecial && needsEscape (trim line) then ['\\'] else []).count '\n' =
        0 := by
      split <;> rfl
    have htrim : (trim line).count '\n' = 0 := List.count_eq_zero.2 fun hm =>
      newline_not_mem_of_mem_splitLines hl (mem_of_mem_trimBy hm)
    have hindent : (indentation level).count '\n' = 0 :=
      List.count_eq_zero.2 newline_not_mem_indentation
    rw [textLine, List.count_append, List.count_append, List.count_append, hindent, hmark, htrim]
    rfl
  have hones : (splitLines (trim s)).map (List.count '\n' ∘ fun line => textLine level escapeSpecial
      (trim line)) = List.replicate (splitLines (trim s)).length 1 :=
        List.map_eq_replicate_iff.2 hline
  rw [textLines, if_neg (Bool.eq_false_iff.1 hb), lineFeeds, List.count_flatMap,
    ← length_splitLines, hones, List.sum_replicate_nat, Nat.mul_one]

/-- The line breaks of a splice are those of its text. -/
theorem lineFeeds_written (splice : Splice) :
    lineFeeds (splice.written store pass) = lineFeeds (splice.content store pass) := by
  have hscript : (interpolation (splice.script store)).count '\n' = 0 := by
    rw [List.count_eq_zero, interpolation]
    have hn := newline_not_mem_collapseScript (Entity.unescape (store.innerText splice.marker))
    simpa [Splice.script] using hn
  rw [Splice.written, lineFeeds, List.count_append, hscript, Nat.zero_add, ← lineFeeds,
    lineFeeds_escape]

/-- The line breaks of a run are those of its texts. -/
theorem lineFeeds_flatMap_written (store : Store) (pass : Pass) (run : List Splice) :
    lineFeeds (run.flatMap (Splice.written store pass)) =
      lineFeeds (run.flatMap (Splice.content store pass)) := by
  induction run with
  | nil => rfl
  | cons splice run ih =>
    have hfirst := @lineFeeds_written store pass splice
    rw [lineFeeds] at hfirst ih ⊢
    rw [List.flatMap_cons, List.flatMap_cons, List.count_append, hfirst, ih]
    exact List.count_append.symm

end LineBreaks

section Siblings

/-- A node of a splice is within one of its siblings. -/
theorem Splice.within_of_mem_done (h : store.Forest) {splice : Splice}
    (hn : n ∈ splice.done store) :
    ∃ top ∈ splice.nodes, store.Within n top := by
  rw [done, List.mem_append] at hn
  rcases hn with hn | hn
  · exact ⟨splice.marker, List.mem_cons_self, h.consistent.mem_cons_descendants.1 hn⟩
  · exact ⟨n, List.mem_cons_of_mem _ hn, .refl⟩

/-- What is within the siblings behind a run is neither the text in front of the run nor a
node of it. -/
theorem IsRun.not_mem_done {run : List Splice} (h : store.Forest)
    (hr : IsRun store (followingSiblings store id) run rest) {sibling : NodeId}
    (hs : sibling ∈ rest) (hn : store.Within n sibling) :
    n ∉ id :: run.flatMap (Splice.done store) := by
  have hsibling : sibling ∈ followingSiblings store id := hr.split ▸ List.mem_append_right _ hs
  cases ho : store.parent? id with
  | none =>
    rw [followingSiblings, (h.consistent.loose ho).2] at hsibling
    cases hsibling
  | some parent =>
    obtain ⟨before, after, hk⟩ := List.append_of_mem (h.consistent.parent.2 ho)
    have hafter := (siblings_of_children h.consistent hk).2.2
    rw [hafter] at hsibling
    have hchild : ∀ {node}, node ∈ after → node ∈ store.children parent := fun hm => by
      rw [hk]
      simp [hm]
    have hnodup := h.consistent.nodup parent
    rw [hk, List.nodup_append, List.nodup_cons] at hnodup
    rw [List.mem_cons, not_or]
    constructor
    · rintro rfl
      obtain rfl := h.consistent.eq_of_within_sibling (h.consistent.parent.2 ho)
        (hchild hsibling) hn
      exact hnodup.2.1.1 hsibling
    · intro hdone
      obtain ⟨splice, hsplice, hmem⟩ := List.mem_flatMap.1 hdone
      have hnodes : ∀ top ∈ splice.nodes, top ∈ run.flatMap Splice.nodes := fun top ht =>
        List.mem_flatMap.2 ⟨splice, hsplice, ht⟩
      have hin : ∀ top ∈ splice.nodes, top ∈ after := fun top ht => by
        rw [← hafter, hr.split]
        exact List.mem_append_left _ (hnodes top ht)
      obtain ⟨top, htop, hw⟩ := Splice.within_of_mem_done h hmem
      obtain rfl := h.consistent.sibling_unique (hchild (hin top htop)) (hchild hsibling) hw hn
      -- A sibling stands in the run or behind it, not in both places.
      rw [← hafter, hr.split, List.nodup_append] at hnodup
      exact hnodup.2.1.2.2.2 top (hnodes top htop) top hs rfl

end Siblings

/-- **A text is written once with the longest run of scripts behind it, whose scripts stand on one
line, and it does itself and the run and nothing else.** -/
theorem renderText_run (hopen : pass.isConsumed id = false)
    (ht : pass.textOf? store id = some text) (hb : isBlank text = false) (level : Nat)
    (escapeSpecial : Bool) :
    let joined := escapeInterpolation (htmlEscape text) ++
      (textRun store id).flatMap (Splice.written store pass)
    let result := renderText store true id level escapeSpecial pass
    ∃ rest, IsRun store (followingSiblings store id) (textRun store id) rest ∧
      result.1 = textLines joined level escapeSpecial ∧
      (∀ splice ∈ textRun store id, '\n' ∉ splice.script store) ∧
      lineFeeds result.1 = lineFeeds (trim joined) + 1 ∧
      lineFeeds joined =
        lineFeeds (text ++ (textRun store id).flatMap (Splice.content store pass)) ∧
      (∀ n, result.2.isConsumed n = true ↔ pass.isConsumed n = true ∨ n = id ∨
        ∃ splice ∈ textRun store id, n ∈ splice.done store) ∧
      (store.Forest → ∀ sibling ∈ rest, ∀ n, store.Within n sibling →
        result.2.isConsumed n = pass.isConsumed n) ∧
      ∀ n, result.2.textOf? store n = pass.textOf? store n := by
  intro joined result
  have hresult : result = (textLines joined level escapeSpecial,
      pass.consumeAll (id :: (textRun store id).flatMap (Splice.done store))) :=
    renderText_eq hopen ht hb level escapeSpecial
  have hjoined : isBlank joined = false := by
    rw [isBlank, List.all_append, ← isBlank, isBlank_escapeInterpolation, isBlank_htmlEscape, hb,
      Bool.false_and]
  have hconsumed : ∀ n, result.2.isConsumed n = true ↔
      n ∈ id :: (textRun store id).flatMap (Splice.done store) ∨ pass.isConsumed n = true := by
    intro n
    rw [hresult, Pass.isConsumed_consumeAll]
  obtain ⟨rest, hrun⟩ := exists_isRun_splices store (followingSiblings store id)
  refine ⟨rest, hrun, by rw [hresult], fun splice _ => newline_not_mem_collapseScript _, ?_, ?_,
    fun n => ?_, fun h sibling hs n hn => ?_, fun n => ?_⟩
  · rw [hresult]
    exact lineFeeds_textLines hjoined level escapeSpecial
  · have htext := lineFeeds_escape text
    have hrun := lineFeeds_flatMap_written store pass (textRun store id)
    rw [lineFeeds] at htext hrun ⊢
    rw [List.count_append, htext, hrun]
    exact List.count_append.symm
  · rw [hconsumed, List.mem_cons, List.mem_flatMap, or_comm]
  · rw [Bool.eq_iff_iff, hconsumed]
    exact or_iff_right (hrun.not_mem_done h hs hn)
  · apply Pass.textOf?_congr
    rw [hresult, Pass.truncated_consumeAll]

/-- A text with two scripts behind it, the second one with a text of its own, and one more text. -/
def scriptedRow : Store :=
  Shape.build .fragment [.leaf (.text "a\nb "),
    .branch (.element "loud" [] false) [.leaf (.text "f(&#10;  1)")],
    .branch (.element "loud" [] false) [.leaf (.text " y ")], .leaf (.text " & c\nd"),
    .leaf (.text "e")]

/-- The text takes both scripts and the text behind them, and leaves the last text alone. -/
theorem renderText_run_scriptedRow :
    (Pass.start scriptedRow {}).isConsumed 1 = false ∧
      (Pass.start scriptedRow {}).textOf? scriptedRow 1 = some "a\nb ".toList ∧
      isBlank "a\nb ".toList = false ∧ scriptedRow.Forest ∧
      IsRun scriptedRow [2, 4, 6, 7] [⟨2, none⟩, ⟨4, some 6⟩] [7] ∧
      (renderText scriptedRow true 1 0 true (Pass.start scriptedRow {})).1 =
        "a\nb \x23\x7bf( 1)\x7d\x23\x7by\x7d &amp; c\nd\n".toList ∧
      (renderText scriptedRow true 1 0 true (Pass.start scriptedRow {})).2.isConsumed 7 =
        false := by
  have hopen : (Pass.start scriptedRow {}).isConsumed 1 = false := by decide +kernel
  have ht : (Pass.start scriptedRow {}).textOf? scriptedRow 1 = some "a\nb ".toList := by
    decide +kernel
  have hb : isBlank "a\nb ".toList = false := by decide
  have hforest : scriptedRow.Forest := (Store.forest_build _ _).1
  have hsiblings : followingSiblings scriptedRow 1 = [2, 4, 6, 7] := by decide +kernel
  have hsplices : textRun scriptedRow 1 = [⟨2, none⟩, ⟨4, some 6⟩] := by decide +kernel
  obtain ⟨rest, hrun, htext, -, -, -, -, hleft, -⟩ := renderText_run hopen ht hb 0 true
  rw [hsplices, hsiblings] at hrun
  obtain rfl : rest = [7] := by simpa [Splice.nodes] using hrun.split.symm
  refine ⟨hopen, ht, hb, hforest, hrun, ?_, ?_⟩
  · rw [htext, hsplices]
    decide +kernel
  · rw [hleft hforest 7 List.mem_cons_self 7 .refl]
    decide +kernel

end HtmlToHaml.Haml
