import HtmlToHaml.Proofs.Outline.Frame
import HtmlToHaml.Proofs.Outline.Writing

/-!
# A pass writes the shape

A pass over a forest answers what `writeRow` makes of its shape. `Ready` ties what a pass remembers
at some siblings to the spot in the row of their trees; every node that is written leads from one to
the next, and the answers agree node by node.
-/

namespace HtmlToHaml.Haml

open Text DocTree

variable {store : Store} {options : Options} {depth : Nat} {id n : NodeId} {level : Nat}
  {pass pass' : Pass} {erb : Bool} {tree : Shape} {trees : List Shape} {ids : List NodeId}

section Shown

/-- The children of a node show its sections. -/
theorem hasCdataChild_of_showsAll (hs : store.ShowsAll (store.children id) trees) :
    hasCdataChild store id = trees.any Shape.isCdata := by
  rw [hasCdataChild]
  generalize store.children id = ids at hs
  induction ids generalizing trees with
  | nil =>
    obtain rfl := Store.showsAll_nil.1 hs
    rfl
  | cons id rest ih =>
    obtain ⟨tree, more, rfl, ht, hmore⟩ := Store.showsAll_cons.1 hs
    rw [List.any_cons, List.any_cons, ih hmore]
    congr 1
    cases tree with
    | branch kind children =>
      rw [Store.Shows] at ht
      rw [ht.1]
      rfl
    | leaf leaf =>
      rw [Store.Shows] at ht
      rw [ht.1]
      cases leaf <;> rfl

end Shown

section Splicing

/-- What is no text has no content. -/
theorem content?_eq_none_of_not_isText (hs : store.Shows id tree) (h : ¬store.isText id = true) :
    tree.content? = none := by
  rwa [← Option.not_isSome_iff_eq_none, ← Store.isText_of_shows hs]

/-- The scripts that begin some nodes are as many as those that begin their trees. -/
theorem markerRun_of_showsAll (hs : store.ShowsAll ids trees) :
    markerRun store ids = ids.take (runLength trees) := by
  induction ids using markerRun.induct store generalizing trees with
  | case1 => simp [markerRun]
  | case2 marker hm =>
    obtain ⟨tree, more, rfl, ht, hmore⟩ := Store.showsAll_cons.1 hs
    obtain rfl := Store.showsAll_nil.1 hmore
    have hn : tree.isNamed "loud" = true := (Store.isElementNamed_of_shows ht).symm.trans hm
    simp [markerRun, runLength, hm, hn]
  | case3 marker hm =>
    obtain ⟨tree, more, rfl, ht, hmore⟩ := Store.showsAll_cons.1 hs
    obtain rfl := Store.showsAll_nil.1 hmore
    have hn : ¬ tree.isNamed "loud" = true := (Store.isElementNamed_of_shows ht) ▸ hm
    simp [markerRun, runLength, hm, hn]
  | case4 marker following rest hm hf ih =>
    obtain ⟨tree, more, rfl, ht, hmore⟩ := Store.showsAll_cons.1 hs
    obtain ⟨next, last, rfl, hnext, hlast⟩ := Store.showsAll_cons.1 hmore
    have hn : tree.isNamed "loud" = true := (Store.isElementNamed_of_shows ht).symm.trans hm
    obtain ⟨text, htext⟩ := Option.isSome_iff_exists.1 ((Store.isText_of_shows hnext).symm.trans hf)
    simp [markerRun, runLength, hm, hn, hf, htext, ih hlast]
  | case5 marker following rest hm hf ih =>
    obtain ⟨tree, more, rfl, ht, hmore⟩ := Store.showsAll_cons.1 hs
    obtain ⟨next, last, rfl, hnext, hlast⟩ := Store.showsAll_cons.1 hmore
    have hn : tree.isNamed "loud" = true := (Store.isElementNamed_of_shows ht).symm.trans hm
    have htext := content?_eq_none_of_not_isText hnext hf
    simp [markerRun, runLength, hm, hn, hf, htext, ih hmore]
  | case6 marker following rest hm =>
    obtain ⟨tree, more, rfl, ht, hmore⟩ := Store.showsAll_cons.1 hs
    obtain ⟨next, last, rfl, hnext, hlast⟩ := Store.showsAll_cons.1 hmore
    have hn : ¬ tree.isNamed "loud" = true := (Store.isElementNamed_of_shows ht) ▸ hm
    simp [markerRun, runLength, hm, hn]

/-- The script of a marker is that of its tree. -/
theorem splicedScript_of_shows (h : store.Consistent) (hs : store.Shows id tree) :
    splicedScript store id = splicedShape tree := by
  rw [splicedScript, splicedShape, hs.innerText h]

/-- What is left of a text that is not cut is its content. -/
theorem textOf?_of_shows (hs : store.Shows id tree) (hc : pass.truncated.lookup id = none) :
    pass.textOf? store id = tree.content? := by
  rw [Pass.textOf?, hc]
  exact Store.text?_of_shows hs

/-- Splicing draws in the text of the trees, if none of them is cut. -/
theorem spliceMarkers_of_showsAll (pass : Pass) (h : store.Consistent)
    (hs : store.ShowsAll ids trees) (hc : ∀ id ∈ ids, pass.truncated.lookup id = none) :
    (spliceMarkers store pass ids).1 = spliced trees := by
  induction ids using markerRun.induct store generalizing trees pass with
  | case1 =>
    obtain rfl := Store.showsAll_nil.1 hs
    rfl
  | case2 marker hm =>
    obtain ⟨tree, more, rfl, ht, hmore⟩ := Store.showsAll_cons.1 hs
    obtain rfl := Store.showsAll_nil.1 hmore
    have hn : tree.isNamed "loud" = true := (Store.isElementNamed_of_shows ht).symm.trans hm
    simp [spliceMarkers, spliced, hm, hn, splicedScript_of_shows h ht]
  | case3 marker hm =>
    obtain ⟨tree, more, rfl, ht, hmore⟩ := Store.showsAll_cons.1 hs
    obtain rfl := Store.showsAll_nil.1 hmore
    have hn : ¬ tree.isNamed "loud" = true := (Store.isElementNamed_of_shows ht) ▸ hm
    simp [spliceMarkers, spliced, hm, hn]
  | case4 marker following rest hm hf ih =>
    obtain ⟨tree, more, rfl, ht, hmore⟩ := Store.showsAll_cons.1 hs
    obtain ⟨next, last, rfl, hnext, hlast⟩ := Store.showsAll_cons.1 hmore
    have hn : tree.isNamed "loud" = true := (Store.isElementNamed_of_shows ht).symm.trans hm
    obtain ⟨text, htext⟩ := Option.isSome_iff_exists.1 ((Store.isText_of_shows hnext).symm.trans hf)
    have hcut : (pass.consumeSubtree store marker).truncated.lookup following = none := by
      rw [Pass.truncated_consumeSubtree]
      exact hc following (by simp)
    have hrest := ih ((pass.consumeSubtree store marker).consume following) hlast
      fun id hid => by
        rw [Pass.truncated_consume, Pass.truncated_consumeSubtree]
        exact hc id (by simp [hid])
    rw [spliceMarkers_text hm hf, spliced, if_pos hn, htext]
    simp only [hrest, splicedScript_of_shows h ht, splicedText, textOf?_of_shows hnext hcut, htext,
      Option.getD_some]
  | case5 marker following rest hm hf ih =>
    obtain ⟨tree, more, rfl, ht, hmore⟩ := Store.showsAll_cons.1 hs
    obtain ⟨next, last, rfl, hnext, hlast⟩ := Store.showsAll_cons.1 hmore
    have hn : tree.isNamed "loud" = true := (Store.isElementNamed_of_shows ht).symm.trans hm
    have htext := content?_eq_none_of_not_isText hnext hf
    have hrest := ih (pass.consumeSubtree store marker) hmore fun id hid => by
      rw [Pass.truncated_consumeSubtree]
      exact hc id (List.mem_cons_of_mem _ hid)
    rw [spliceMarkers_script hm hf, spliced, if_pos hn, htext]
    simp only [hrest, splicedScript_of_shows h ht]
  | case6 marker following rest hm =>
    obtain ⟨tree, more, rfl, ht, hmore⟩ := Store.showsAll_cons.1 hs
    obtain ⟨next, last, rfl, hnext, hlast⟩ := Store.showsAll_cons.1 hmore
    have hn : ¬ tree.isNamed "loud" = true := (Store.isElementNamed_of_shows ht) ▸ hm
    simp [spliceMarkers, spliced, hm, hn]

end Splicing

section Spots

variable {spot : Spot} {rest : List NodeId} {more : List Shape}

/-- What a pass remembers at some siblings is a spot in the row of their trees. -/
structure Ready (store : Store) (pass : Pass) (spot : Spot) (ids : List NodeId) : Prop where
  /-- The nodes that are written already are done with all below them. -/
  skipped : ∀ id ∈ ids.take spot.skip, isChecked store id = true ∧
    ∀ n, store.Within n id → pass.isConsumed n = true
  /-- Nothing is done within the others. -/
  fresh : ∀ id ∈ ids.drop spot.skip, ∀ n, store.Within n id → pass.isConsumed n = false
  /-- No text below the nodes is cut. -/
  below : ∀ id ∈ ids, ∀ n, store.Within n id → n ≠ id → pass.truncated.lookup n = none
  /-- No text after the first node is cut. -/
  uncut : ∀ id ∈ ids.tail, pass.truncated.lookup id = none
  /-- What is left of the first node. -/
  held : ∀ id ∈ ids.head?, pass.truncated.lookup id = spot.held
  /-- Only a text that is not written yet is cut. -/
  text : ∀ id ∈ ids.head?, spot.held.isSome = true → store.isText id = true ∧ spot.skip = 0
  /-- Whether an element would begin a line of text. -/
  glued : ∀ id ∈ ids.head?, isGluedBefore store pass id = spot.glued
  /-- Whether a node stands before the first. -/
  first : ∀ id ∈ ids.head?, (store.prevSibling? id).isNone = spot.first

/-- What is left of the first node is left of its tree. -/
theorem Ready.textOf? (hr : Ready store pass spot (id :: rest)) (hs : store.Shows id tree) :
    pass.textOf? store id = spot.text? tree := by
  have hheld := hr.held id (by simp)
  rw [Pass.textOf?, Spot.text?, hheld]
  cases spot.held with
  | some left => rfl
  | none => exact Store.text?_of_shows hs

/-- How an element stands to the text after it is read off the trees. -/
theorem glue_eq (hg : isGluedBefore store pass id = spot.glued)
    (hnext : store.nextSibling? id = rest.head?) (hs : store.ShowsAll rest more)
    (hcut : ∀ id ∈ rest.head?, pass.truncated.lookup id = none) :
    match tie spot.glued more with
    | .loose => glue store pass id = .loose
    | .nuked => glue store pass id = .nuked
    | .succeeded word left => ∃ next, rest.head? = some next ∧
        glue store pass id = .succeeded next word left := by
  rw [tie, glue, hnext]
  cases rest with
  | nil =>
    obtain rfl := Store.showsAll_nil.1 hs
    rfl
  | cons next rest =>
    obtain ⟨tree, last, rfl, ht, -⟩ := Store.showsAll_cons.1 hs
    have htext : (if store.isText next then pass.textOf? store next else none) = tree.content? := by
      rw [Store.isText_of_shows ht, textOf?_of_shows ht (hcut next (by simp))]
      cases tree.content? <;> rfl
    simp only [List.head?_cons, Option.bind_some, htext, hg]
    cases tree.content? with
    | none => rfl
    | some text =>
      simp only
      by_cases hh : (!(text.head?.any (!isSpace ·))) = true
      · rw [if_pos hh, if_pos hh]
      · rw [if_neg hh, if_neg hh]
        by_cases hgl : spot.glued = true
        · rw [if_pos hgl, if_pos hgl]
        · rw [if_neg hgl, if_neg hgl]
          exact ⟨next, rfl, rfl⟩

/-- At the first child of a node that has done itself a pass is at the beginning of a row. -/
theorem ready_children (h : store.Consistent) {mid : Pass} (he : Entered id pass mid)
    (hfresh : ∀ n, store.Within n id → pass.isConsumed n = false)
    (hcut : ∀ n, store.Within n id → n ≠ id → mid.truncated.lookup n = none) :
    Ready store mid {} (store.children id) := by
  have hbelow : ∀ {child n}, child ∈ store.children id → store.Within n child →
      n ≠ id ∧ store.Within n id := by
    intro child n hc hn
    refine ⟨?_, hn.tail hc⟩
    rintro rfl
    exact h.not_within hc hn
  have hhead : ∀ {child}, child ∈ (store.children id).head? → store.prevSibling? child = none := by
    intro child hc
    obtain ⟨after, hk⟩ := List.head?_eq_some_iff.1 hc
    have hcut : store.children id = [] ++ child :: after := hk
    exact (siblings_of_children h hcut).1
  refine ⟨by simp, fun child hc n hn => ?_, fun child hc n hn _ => ?_, fun child hc => ?_,
    fun child hc => ?_, by simp, fun child hc => ?_, fun child hc => ?_⟩
  · obtain ⟨hne, hw⟩ := hbelow hc hn
    rw [Bool.eq_false_iff, Ne, he n, not_or, hfresh n hw]
    exact ⟨hne, Bool.false_ne_true⟩
  · obtain ⟨hne, hw⟩ := hbelow hc hn
    exact hcut n hw hne
  · obtain ⟨hne, hw⟩ := hbelow (List.mem_of_mem_tail hc) .refl
    exact hcut child hw hne
  · obtain ⟨hne, hw⟩ := hbelow (List.mem_of_head? hc) .refl
    exact hcut child hw hne
  · rw [isGluedBefore, hhead hc]
  · rw [hhead hc]
    rfl

end Spots

section Answers

variable {spot : Spot} {rest : List NodeId} {more : List Shape} {name : String}
  {attributes : List Attribute} {selfClosing inPre : Bool} {mid : Pass}

/-- A text that is not done is written with the scripts after it. -/
theorem renderText_answer (h : store.Consistent) {text : List Char} {escapeSpecial : Bool}
    (hfresh : pass.isConsumed id = false) (ht : pass.textOf? store id = some text)
    (hfollow : followingSiblings store id = rest) (hs : store.ShowsAll rest more)
    (hc : ∀ id ∈ rest, pass.truncated.lookup id = none) :
    (renderText store erb id level escapeSpecial pass).1 =
      writeText erb text more level escapeSpecial := by
  have htext : (pass.consume id).textOf? store id = some text := ht
  simp only [renderText, hfresh, htext, writeText, Bool.false_eq_true, if_false]
  by_cases hb : isBlank text = true
  · rw [if_pos hb, if_pos hb]
  · rw [if_neg hb, if_neg hb]
    cases erb with
    | false => rfl
    | true =>
      have hsplice := spliceMarkers_of_showsAll (pass.consume id) h hs hc
      rw [hfollow]
      simp only [if_true, hsplice]

/-- Text around text around an answer. -/
theorem map_map_answer {answer : Except Failure (List Char)} {f g : List Char → List Char} :
    (answer.map f).map g = answer.map fun text => g (f text) := by
  cases answer <;> rfl

/-- The content of an element is written as that of its tree. -/
theorem bodyCourse_answer (h : store.Consistent) {kind : Branch} {finish : List Char → List Char}
    (hs : store.Shows id (.branch kind trees)) (hready : Ready store mid {} (store.children id))
    (hpre : preservesSpace store id name = preserves name inPre)
    (hrow : ∀ level, (rowResult store options depth (store.children id) level mid).1 =
      writeRow options depth (name == "pre") level trees) :
    ((bodyCourse store options.erb id name level mid finish).run store options.erb
        (rowResult store options depth)).1 =
      (writeBody options.erb (writeRow options depth) inPre name level trees).map finish := by
  have hchildren : store.ShowsAll (store.children id) trees := by
    rw [Store.Shows] at hs
    exact hs.2
  have hinner : store.innerText id = Shape.textAll trees := hs.innerText h
  have hblock : ∀ f : List Char → List Char,
      (Result.finish (rowResult store options depth (store.children id) (level + 1) mid) f).1 =
        (writeRow options depth (name == "pre") (level + 1) trees).map f := by
    intro f
    rw [Result.finish, hrow]
  rw [bodyCourse, bodyOf]
  rcases hk : store.children id with _ | ⟨child, _ | ⟨second, rest⟩⟩
  · rw [hk] at hchildren hblock
    obtain rfl := Store.showsAll_nil.1 hchildren
    simp only [Course.run, hblock, writeBody, map_map_answer]
  · rw [hk] at hchildren hblock hready
    obtain ⟨tree, more, rfl, ht, hmore⟩ := Store.showsAll_cons.1 hchildren
    obtain rfl := Store.showsAll_nil.1 hmore
    have htext : mid.textOf? store child = tree.content? := hready.textOf? ht
    simp only [Store.isText_of_shows ht, htext, writeBody]
    cases hc : tree.content? with
    | none =>
      simp only [Option.isSome_none, Bool.false_eq_true, if_false, Store.isElementNamed_of_shows ht]
      by_cases hl : (options.erb && tree.isNamed "loud") = true
      · simp only [hl, if_true, Course.run, hblock, map_map_answer]
      · simp only [hl, Bool.false_eq_true, if_false, Course.run, hblock, map_map_answer]
    | some text =>
      simp only [Option.isSome_some, if_true, Option.any_some, hpre]
      have hsay : store.innerText id = text := by
        obtain ⟨content, rfl, rfl⟩ := Shape.exists_of_content? hc
        rw [hinner]
        exact List.append_nil _
      by_cases hline : (!hasLineFeed text) = true
      · have hcut : store.children id = [] ++ child :: [] := hk
        have hanswer := @renderText_answer store child (level + 1) mid options.erb [] [] h text
          false (hready.fresh child (by simp) child .refl) (htext.trans hc)
          (siblings_of_children h hcut).2.2 hmore (by simp)
        simp only [hline, if_true, Course.run, hanswer, Except.map]
      · by_cases hkeep : preserves name inPre = true
        · simp only [hline, hkeep, Bool.false_eq_true, if_false, if_true, Course.run, hsay,
            Except.map]
        · simp only [hline, hkeep, Bool.false_eq_true, if_false, Course.run, hblock,
            map_map_answer]
  · rw [hk] at hchildren hblock
    obtain ⟨tree, more, rfl, ht, hmore⟩ := Store.showsAll_cons.1 hchildren
    obtain ⟨next, last, rfl, hnext, hlast⟩ := Store.showsAll_cons.1 hmore
    simp only [Course.run, hblock, writeBody, map_map_answer]

end Answers

end HtmlToHaml.Haml
