import HtmlToHaml.Proofs.Outline.Agreement

/-!
# From one spot to the next

A node that is not written yet answers what its tree comes to, and what a pass remembers after it is
the next spot in the row. So a row of children is written as the row of their trees, and a whole
pass as the shape of the root.
-/

namespace HtmlToHaml.Haml

open Text DocTree

variable {store : Store} {options : Options} {depth : Nat} {id n parent : NodeId} {level : Nat}
  {pass pass' : Pass} {spot : Spot} {tree : Shape} {before rest : List NodeId}
  {more trees : List Shape} {name : String} {attributes : List Attribute} {selfClosing : Bool}

/-- The rows below some depth are written as their trees, if a pass comes to them at their
beginning. -/
def RowsAgree (store : Store) (options : Options) (depth : Nat) : Prop :=
  ∀ {parent : NodeId} {trees : List Shape} {level : Nat} {pass : Pass},
    store.ShowsAll (store.children parent) trees → Ready store pass {} (store.children parent) →
      (rowResult store options depth (store.children parent) level pass).1 =
        writeRow options depth (store.isElementNamed parent "pre") level trees

section Siblings

/-- A node after a child is not below the child. -/
theorem not_within_of_mem_after (h : store.Consistent)
    (hk : store.children parent = before ++ id :: rest) {other : NodeId} (ho : other ∈ rest)
    (hn : store.Within n other) : ¬ store.Within n id := by
  intro hw
  have hself : id ∈ store.children parent := by rw [hk]; simp
  have hother : other ∈ store.children parent := by rw [hk]; simp [ho]
  obtain rfl := h.sibling_unique hself hother hw hn
  have hnodup := h.nodup parent
  rw [hk, List.nodup_append, List.nodup_cons] at hnodup
  exact hnodup.2.1.1 ho

/-- What is below a sibling after a child does not stand right after the child. -/
theorem nextSibling?_ne_of_below (h : store.Consistent)
    (hk : store.children parent = before ++ id :: rest) {other : NodeId} (ho : other ∈ rest)
    (hn : store.Within n other) (hne : n ≠ other) : store.nextSibling? id ≠ some n := by
  rw [(siblings_of_children h hk).2.1]
  intro he
  have hnext : n ∈ store.children parent := by rw [hk]; simp [List.mem_of_head? he]
  have hother : other ∈ store.children parent := by rw [hk]; simp [ho]
  exact hne (h.eq_of_within_sibling hnext hother hn)

end Siblings

section Nodes

/-- A script is written as its tree. -/
theorem renderScript_answer (h : store.Consistent) {silent : Bool} {kind : Branch}
    (hs : store.Shows id (.branch kind trees)) (hnext : store.nextSibling? id = rest.head?)
    (hm : store.ShowsAll rest more) :
    (renderScript store silent id level pass).1 =
      indentedLines level (scriptLines silent (Shape.textAll trees) more) := by
  have hinner : store.innerText id = Shape.textAll trees := hs.innerText h
  have hseparates : separatesScripts store id = separates more := by
    rw [separatesScripts, separates, hnext]
    cases rest with
    | nil =>
      obtain rfl := Store.showsAll_nil.1 hm
      rfl
    | cons next rest =>
      obtain ⟨tree, last, rfl, ht, -⟩ := Store.showsAll_cons.1 hm
      simp only [List.head?_cons, Option.any_some, Store.isElementNamed_of_shows ht, ht.innerText h]
  cases silent with
  | true => simp only [renderScript, scriptLines, if_true, hinner]
  | false =>
    simp only [renderScript, scriptLines, Bool.false_eq_true, if_false, loudLines, hinner,
      hseparates]

/-- The content of a filter is that of its tree. -/
theorem filterContent_of_shows (h : store.Consistent) {kind : Branch} (erb : Bool)
    (hs : store.Shows id (.branch kind trees)) :
    filterContent store erb id = filterShapes erb trees := by
  have hinner : store.innerText id = Shape.textAll trees := hs.innerText h
  rw [Store.Shows] at hs
  rw [filterContent, filterShapes, hinner, hasCdataChild_of_showsAll hs.2]

/-- An element with a header is written as its tree. -/
theorem tagCourse_answer (h : store.Consistent) (hrow : RowsAgree store options depth)
    (hk : store.children parent = before ++ id :: rest)
    (hs : store.Shows id (.branch (.element name attributes selfClosing) trees))
    (hm : store.ShowsAll rest more) (hready : Ready store pass spot (id :: rest))
    (hskip : spot.skip = 0) :
    ((tagCourse store options id name attributes selfClosing level (pass.consume id)).run store
        options.erb (rowResult store options depth)).1 =
      writeTag options (writeRow options depth) (store.isElementNamed parent "pre") spot.glued name
        attributes selfClosing level trees more := by
  have hself : id ∈ store.children parent := by rw [hk]; simp
  have hfresh : ∀ n, store.Within n id → pass.isConsumed n = false :=
    hready.fresh id (by simp [hskip])
  have hpre : preservesSpace store id name =
      preserves name (store.isElementNamed parent "pre") := by
    rw [preservesSpace, preserves, h.parent.1 hself]
    rfl
  have hname : store.isElementNamed id "pre" = (name == "pre") := Store.isElementNamed_of_shows hs
  have hbody : ∀ {mid : Pass} {level : Nat} {finish : List Char → List Char}, Entered id pass mid →
      (∀ n, store.Within n id → n ≠ id → mid.truncated.lookup n = none) →
        ((bodyCourse store options.erb id name level mid finish).run store options.erb
            (rowResult store options depth)).1 =
          (writeBody options.erb (writeRow options depth) (store.isElementNamed parent "pre") name
            level trees).map finish := by
    intro mid level finish he hcut
    have hchildren := ready_children h he hfresh hcut
    apply bodyCourse_answer h hs hchildren hpre
    intro level
    rw [← hname]
    rw [Store.Shows] at hs
    exact hrow hs.2 hchildren
  have hbelow : ∀ n, store.Within n id → n ≠ id → pass.truncated.lookup n = none :=
    hready.below id (by simp)
  have hglue := @glue_eq store id (pass.consume id) spot rest more (hready.glued id (by simp))
    (siblings_of_children h hk).2.1 hm fun next hn => hready.uncut next (List.mem_of_head? hn)
  rw [tagCourse, writeTag]
  cases ht : tie spot.glued more with
  | loose =>
    rw [ht] at hglue
    simp only [hglue]
    exact hbody entered_consume hbelow
  | nuked =>
    rw [ht] at hglue
    simp only [hglue]
    exact hbody entered_consume hbelow
  | succeeded word left =>
    rw [ht] at hglue
    obtain ⟨next, hhead, hglue⟩ := hglue
    simp only [hglue]
    refine hbody entered_consume fun n hn hne => ?_
    have hnext : n ≠ next := by
      rintro rfl
      exact not_within_of_mem_after h hk (List.mem_of_head? hhead) .refl hn
    exact (Pass.lookup_truncate_of_ne hnext).trans (hbelow n hn hne)

/-- An element that is not written yet answers what its tree comes to. -/
theorem elementCourse_answer (h : store.Consistent) (hrow : RowsAgree store options depth)
    (hk : store.children parent = before ++ id :: rest)
    (hs : store.Shows id (.branch (.element name attributes selfClosing) trees))
    (hm : store.ShowsAll rest more) (hready : Ready store pass spot (id :: rest))
    (hskip : spot.skip = 0) :
    ((elementCourse store options id name attributes selfClosing level pass).run store options.erb
        (rowResult store options depth)).1 =
      writeShape options (writeRow options depth) (store.isElementNamed parent "pre") level spot
        more (.branch (.element name attributes selfClosing) trees) := by
  have hfresh : ∀ n, store.Within n id → pass.isConsumed n = false :=
    hready.fresh id (by simp [hskip])
  have hchildren := ready_children h entered_consume hfresh (hready.below id (by simp))
  have hname : store.isElementNamed id "pre" = (name == "pre") := Store.isElementNamed_of_shows hs
  simp only [elementCourse, hfresh id .refl, Bool.false_eq_true, if_false, writeShape, manner]
  cases Filter.forElement? name attributes with
  | some filter =>
    simp only [Course.run, filterContent_of_shows h options.erb hs]
  | none =>
    by_cases hblock : (options.erb && name == "block") = true
    · have hall := hs
      rw [Store.Shows] at hall
      have hanswer := @hrow id _ (level + 1) _ hall.2 hchildren
      rw [hname] at hanswer
      simp only [hblock, if_true, Course.run, Result.finish, hanswer]
      cases writeRow options depth _ _ _ <;> rfl
    · by_cases hscript : (options.erb && (name == "loud" || name == "silent")) = true
      · simp only [hblock, hscript, Bool.false_eq_true, if_false, if_true, Course.run,
          renderScript_answer h hs (siblings_of_children h hk).2.1 hm]
      · simp only [hblock, hscript, Bool.false_eq_true, if_false]
        exact tagCourse_answer h hrow hk hs hm hready hskip

/-- **A node that is not written yet answers what its tree comes to.** -/
theorem renderNode_answer (h : store.Consistent) (hrow : RowsAgree store options depth)
    (hk : store.children parent = before ++ id :: rest) (hs : store.Shows id tree)
    (hm : store.ShowsAll rest more) (hready : Ready store pass spot (id :: rest))
    (hskip : spot.skip = 0) :
    ((renderNode store options (depth + 1) id level).result pass).1 =
      writeShape options (writeRow options depth)
        (store.isElementNamed parent "pre") level spot more tree := by
  have hfresh : ∀ n, store.Within n id → pass.isConsumed n = false :=
    hready.fresh id (by simp [hskip])
  have hside := siblings_of_children h hk
  have hbelow : ∀ n, store.Within n id → n ≠ id → pass.truncated.lookup n = none :=
    hready.below id (by simp)
  have hchildren := ready_children h entered_consume hfresh hbelow
  rw [renderNode_result, course]
  cases tree with
  | leaf leaf =>
    have htext := hready.textOf? hs
    rw [Store.Shows] at hs
    rw [hs.1]
    cases leaf with
    | text content =>
      have hleft : pass.textOf? store id = some (spot.held.getD content.toList) := by
        rw [htext, Spot.text?, Shape.content?]
        cases spot.held <;> rfl
      have hanswer := @renderText_answer store id level pass options.erb rest more h _ true
        (hfresh id .refl) hleft hside.2.2 hm hready.uncut
      simp only [leafResult, Course.run, hanswer, writeShape, writeLeaf]
    | comment _ | cdata _ | doctype _ _ _ | instruction _ => rfl
  | branch kind =>
    have hall := hs
    rw [Store.Shows] at hs
    rw [hs.1]
    cases kind with
    | document | fragment =>
      have hname : store.isElementNamed id "pre" = false := Store.isElementNamed_of_shows hall
      have hanswer := @hrow id _ 0 _ hs.2 hchildren
      rw [hname] at hanswer
      simp only [Course.run, Result.finish, hanswer, writeShape]
      cases writeRow options depth false 0 _ <;> rfl
    | element name attributes selfClosing =>
      exact elementCourse_answer h hrow hk hall hm hready hskip

end Nodes

section Steps

/-- Whatever is done below the nodes a pass comes to is done with all below it. -/
theorem Ready.doneBelow {ids : List NodeId} (hready : Ready store pass spot ids)
    (hi : id ∈ ids) : DoneBelow store pass id := by
  intro n hn hc m hm
  rw [← List.take_append_drop spot.skip ids, List.mem_append] at hi
  rcases hi with hi | hi
  · exact (hready.skipped id hi).2 m (hm.trans hn)
  · rw [hready.fresh id hi n hn] at hc
    cases hc

/-- The scripts and texts that a text draws into its lines are texts and elements. -/
theorem isChecked_of_mem_markerRun {ids : List NodeId} (hn : n ∈ markerRun store ids) :
    isChecked store n = true := by
  have hloud : ∀ {marker}, store.isElementNamed marker "loud" = true →
      isChecked store marker = true := by
    intro marker hm
    rw [Store.isElementNamed] at hm
    cases he : store.elementName? marker with
    | none => simp [he] at hm
    | some name => simp [isChecked, he]
  induction ids using markerRun.induct store with
  | case1 => exact absurd hn List.not_mem_nil
  | case2 marker hm =>
    rw [markerRun, if_pos hm, List.mem_singleton] at hn
    exact hn ▸ hloud hm
  | case3 marker hm =>
    rw [markerRun, if_neg hm] at hn
    exact absurd hn List.not_mem_nil
  | case4 marker following rest hm hf ih =>
    rw [markerRun, if_pos hm, if_pos hf, List.mem_cons, List.mem_cons] at hn
    rcases hn with rfl | rfl | hn
    · exact hloud hm
    · simp [isChecked, hf]
    · exact ih hn
  | case5 marker following rest hm hf ih =>
    rw [markerRun, if_pos hm, if_neg hf, List.mem_cons] at hn
    rcases hn with rfl | hn
    · exact hloud hm
    · exact ih hn
  | case6 marker following rest hm =>
    rw [markerRun, if_neg hm] at hn
    exact absurd hn List.not_mem_nil

/-- What is left of the text after an element with a header is what is left of it after its tree. -/
theorem lookup_tagCourse_next (h : store.Consistent)
    (hk : store.children parent = before ++ id :: rest) (hm : store.ShowsAll rest more)
    (hready : Ready store pass spot (id :: rest)) (hnext : n ∈ rest.head?)
    (hskip : spot.skip = 0) (htag : manner options.erb name attributes = .tag) :
    (tagCourse store options id name attributes selfClosing level
        (pass.consume id)).pass.truncated.lookup n =
      spot.nextHeld options.erb (.branch (.element name attributes selfClosing) trees) more := by
  have huncut : pass.truncated.lookup n = none := hready.uncut n (List.mem_of_head? hnext)
  have hglue := @glue_eq store id (pass.consume id) spot rest more (hready.glued id (by simp))
    (siblings_of_children h hk).2.1 hm fun next hn => hready.uncut next (List.mem_of_head? hn)
  simp only [tagCourse, Spot.nextHeld, hskip, htag]
  cases ht : tie spot.glued more with
  | loose =>
    rw [ht] at hglue
    simp only [hglue, truncated_bodyCourse]
    exact huncut
  | nuked =>
    rw [ht] at hglue
    simp only [hglue, truncated_bodyCourse]
    exact huncut
  | succeeded word left =>
    rw [ht] at hglue
    obtain ⟨next, hhead, hglue⟩ := hglue
    obtain rfl : n = next := Option.some.inj ((Option.mem_def.1 hnext).symm.trans hhead)
    simp only [hglue, truncated_bodyCourse, Pass.truncate, List.lookup_cons, beq_self_eq_true]

/-- What is left of the text after an element is what is left of it after its tree. -/
theorem lookup_elementCourse_next (h : store.Consistent)
    (hk : store.children parent = before ++ id :: rest) (hm : store.ShowsAll rest more)
    (hready : Ready store pass spot (id :: rest)) (hnext : n ∈ rest.head?)
    (hskip : spot.skip = 0) :
    (elementCourse store options id name attributes selfClosing level
        pass).pass.truncated.lookup n =
      spot.nextHeld options.erb (.branch (.element name attributes selfClosing) trees) more := by
  have huncut : pass.truncated.lookup n = none := hready.uncut n (List.mem_of_head? hnext)
  have hfresh : pass.isConsumed id = false := hready.fresh id (by simp [hskip]) id .refl
  simp only [elementCourse, hfresh, Bool.false_eq_true, if_false]
  cases hfilter : Filter.forElement? name attributes with
  | some filter =>
    simp only [Spot.nextHeld, hskip, manner, hfilter]
    exact (congrArg (List.lookup n) Pass.truncated_consumeSubtree).trans huncut
  | none =>
    by_cases hblock : (options.erb && name == "block") = true
    · simp only [Spot.nextHeld, hskip, manner, hfilter, hblock, if_true]
      exact huncut
    · by_cases hscript : (options.erb && (name == "loud" || name == "silent")) = true
      · simp only [Spot.nextHeld, hskip, manner, hfilter, hblock, hscript, Bool.false_eq_true,
          if_false, if_true]
        exact (congrArg (List.lookup n) renderScript_frame.2).trans huncut
      · simp only [hblock, hscript, Bool.false_eq_true, if_false]
        exact lookup_tagCourse_next h hk hm hready hnext hskip
          (by simp only [manner, hfilter, hblock, hscript, Bool.false_eq_true, if_false])

/-- What is left of the text after a node is what is left of it after its tree. -/
theorem lookup_course_next (h : store.Consistent)
    (hk : store.children parent = before ++ id :: rest) (hs : store.Shows id tree)
    (hm : store.ShowsAll rest more) (hready : Ready store pass spot (id :: rest))
    (hnext : n ∈ rest.head?) :
    (course store options id level pass).pass.truncated.lookup n =
      spot.nextHeld options.erb tree more := by
  have huncut : pass.truncated.lookup n = none := hready.uncut n (List.mem_of_head? hnext)
  cases hskip : spot.skip with
  | succ skip =>
    have hdone := hready.skipped id (by simp [hskip])
    rw [course_of_isConsumed hdone.1 (hdone.2 id .refl)]
    simp only [Spot.nextHeld, hskip]
    exact huncut
  | zero =>
    cases tree with
    | leaf leaf =>
      rw [Store.Shows] at hs
      simp only [course, hs.1, Spot.nextHeld, hskip]
      cases leaf with
      | text content => exact (congrArg (List.lookup n) truncated_renderText).trans huncut
      | comment _ | cdata _ | doctype _ _ _ | instruction _ => exact huncut
    | branch kind =>
      rw [Store.Shows] at hs
      simp only [course, hs.1]
      cases kind with
      | document | fragment =>
        simp only [Spot.nextHeld, hskip]
        exact huncut
      | element name attributes selfClosing =>
        exact lookup_elementCourse_next h hk hm hready hnext hskip

/-- What is left of a text node that is a text is left of its content. -/
theorem Ready.textOf?_text {content : String} (hready : Ready store pass spot (id :: rest))
    (hs : store.Shows id (.leaf (.text content))) :
    pass.textOf? store id = some (spot.held.getD content.toList) := by
  rw [hready.textOf? hs, Spot.text?, Shape.content?]
  cases spot.held <;> rfl

/-- The trees that are written already after a node stand for the nodes that it draws into its
lines. -/
theorem splices_iff {erb : Bool} (hs : store.Shows id tree) (hm : store.ShowsAll rest more)
    (hfollow : followingSiblings store id = rest) (hready : Ready store pass spot (id :: rest))
    (hskip : spot.skip = 0) :
    Splices store erb pass id n ↔
      ∃ top ∈ rest.take (spot.nextSkip erb tree more), store.Within n top := by
  have hfresh : pass.isConsumed id = false := hready.fresh id (by simp [hskip]) id .refl
  have hplain : store.isText id = false → spot.nextSkip erb tree more = 0 →
      (Splices store erb pass id n ↔
        ∃ top ∈ rest.take (spot.nextSkip erb tree more), store.Within n top) := by
    intro ht hz
    simp [Splices, ht, hz]
  have htext := Store.isText_of_shows hs
  cases tree with
  | branch kind => exact hplain htext (by simp only [Spot.nextSkip, hskip])
  | leaf leaf =>
    cases leaf with
    | text content =>
      have hleft := hready.textOf?_text hs
      simp only [Splices, Spot.nextSkip, hskip, htext, hfresh, hleft, hfollow,
        markerRun_of_showsAll hm, Shape.content?, Option.isSome_some, true_and, Option.some.injEq,
        exists_eq_left']
      cases erb <;> cases isBlank (spot.held.getD content.toList) <;> simp
    | comment _ | cdata _ | doctype _ _ _ | instruction _ =>
      exact hplain htext (by simp only [Spot.nextSkip, hskip])

/-- The nodes that are written already after a node are texts and elements. -/
theorem isChecked_of_mem_take {erb : Bool} (hm : store.ShowsAll rest more) (hskip : spot.skip = 0)
    (hn : n ∈ rest.take (spot.nextSkip erb tree more)) : isChecked store n = true := by
  have hcases : spot.nextSkip erb tree more = runLength more ∨ spot.nextSkip erb tree more = 0 := by
    simp only [Spot.nextSkip, hskip]
    split
    · split
      · exact Or.inl rfl
      · exact Or.inr rfl
    · exact Or.inr rfl
  rcases hcases with hl | hz
  · rw [hl, ← markerRun_of_showsAll hm] at hn
    exact isChecked_of_mem_markerRun hn
  · rw [hz] at hn
    exact absurd hn List.not_mem_nil

/-- A text that gives up its first word is a text, and is not written already. -/
theorem isText_of_nextHeld {erb : Bool} (hm : store.ShowsAll rest more)
    (hn : n ∈ rest.head?) (hheld : (spot.nextHeld erb tree more).isSome = true) :
    store.isText n = true ∧ spot.nextSkip erb tree more = 0 := by
  unfold Spot.nextHeld at hheld
  split at hheld
  · rename_i name attributes selfClosing children hskip
    have hsucc : ∃ word left, tie spot.glued more = .succeeded word left := by
      split at hheld
      · rename_i word left _ ht
        exact ⟨word, left, ht⟩
      · cases hheld
    obtain ⟨word, left, ht⟩ := hsucc
    refine ⟨?_, by simp only [Spot.nextSkip, hskip]⟩
    obtain ⟨after, rfl⟩ := List.head?_eq_some_iff.1 (Option.mem_def.1 hn)
    obtain ⟨next, last, rfl, hnext, -⟩ := Store.showsAll_cons.1 hm
    rw [Store.isText_of_shows hnext]
    rw [tie, List.head?_cons, Option.bind_some] at ht
    cases hc : next.content? with
    | none =>
      rw [hc] at ht
      cases ht
    | some text => rfl
  · cases hheld

/-- After a node is written, what stands behind it is done if it was done before, or if the node
draws it in. -/
theorem NodeFrame.isConsumed_behind {erb : Bool} {mid : Pass} {other : NodeId}
    (hf : NodeFrame store erb id pass mid pass') (h : store.Consistent)
    (hk : store.children parent = before ++ id :: rest) (ho : other ∈ rest)
    (hn : store.Within n other) :
    pass'.isConsumed n = true ↔ pass.isConsumed n = true ∨ Splices store erb pass id n := by
  rw [hf.consumed, or_iff_right (not_within_of_mem_after h hk ho hn)]

/-- After a node is written, only the text right behind it is cut. -/
theorem NodeFrame.lookup_behind {other : NodeId}
    (hf : NodeFrame store options.erb id pass (course store options id level pass).pass pass')
    (h : store.Consistent) (hk : store.children parent = before ++ id :: rest) (ho : other ∈ rest)
    (hn : store.Within n other) (hne : store.nextSibling? id ≠ some n) :
    pass'.truncated.lookup n = pass.truncated.lookup n := by
  have hafter := not_within_of_mem_after h hk ho hn
  rw [hf.truncated n fun hw => absurd hw hafter, lookup_course hne]

/-- A node that is written already draws nothing in. -/
theorem Ready.not_splices {erb : Bool} (hready : Ready store pass spot (id :: rest))
    (hskip : spot.skip ≠ 0) : ¬ Splices store erb pass id n := by
  rintro ⟨-, -, hfresh, -⟩
  obtain ⟨skip, hskip⟩ := Nat.exists_eq_succ_of_ne_zero hskip
  rw [(hready.skipped id (by simp [hskip])).2 id .refl] at hfresh
  cases hfresh

/-- What the next spot counts as written already is done with all below it. -/
theorem Ready.skipped_next {erb : Bool} {mid : Pass} {other : NodeId} (h : store.Consistent)
    (hk : store.children parent = before ++ id :: rest) (hs : store.Shows id tree)
    (hm : store.ShowsAll rest more) (hready : Ready store pass spot (id :: rest))
    (hf : NodeFrame store erb id pass mid pass')
    (ho : other ∈ rest.take (spot.nextSkip erb tree more)) :
    isChecked store other = true ∧ ∀ n, store.Within n other → pass'.isConsumed n = true := by
  have hrest := List.mem_of_mem_take ho
  cases hskip : spot.skip with
  | zero =>
    refine ⟨isChecked_of_mem_take hm hskip ho, fun n hn => ?_⟩
    rw [hf.isConsumed_behind h hk hrest hn,
      splices_iff hs hm (siblings_of_children h hk).2.2 hready hskip]
    exact Or.inr ⟨other, ho, hn⟩
  | succ skip =>
    simp only [Spot.nextSkip, hskip] at ho
    have hdone := hready.skipped other (by simp [hskip, ho])
    exact ⟨hdone.1, fun n hn => (hf.isConsumed_behind h hk hrest hn).2 (Or.inl (hdone.2 n hn))⟩

/-- Nothing is done within what the next spot leaves to be written. -/
theorem Ready.fresh_next {erb : Bool} {mid : Pass} {other : NodeId} (h : store.Consistent)
    (hk : store.children parent = before ++ id :: rest) (hs : store.Shows id tree)
    (hm : store.ShowsAll rest more) (hready : Ready store pass spot (id :: rest))
    (hf : NodeFrame store erb id pass mid pass')
    (ho : other ∈ rest.drop (spot.nextSkip erb tree more)) (hn : store.Within n other) :
    pass'.isConsumed n = false := by
  have hrest := List.mem_of_mem_drop ho
  rw [Bool.eq_false_iff, Ne, hf.isConsumed_behind h hk hrest hn, not_or]
  cases hskip : spot.skip with
  | zero =>
    constructor
    · simp [hready.fresh other (by simp [hskip, hrest]) n hn]
    · rw [splices_iff hs hm (siblings_of_children h hk).2.2 hready hskip]
      rintro ⟨top, htop, hw⟩
      have hmem : ∀ {node}, node ∈ rest → node ∈ store.children parent := by
        intro node hnode
        rw [hk]
        simp [hnode]
      obtain rfl := h.sibling_unique (hmem hrest) (hmem (List.mem_of_mem_take htop)) hn hw
      have hnodup := h.nodup parent
      rw [hk, List.nodup_append, List.nodup_cons] at hnodup
      exact List.disjoint_take_drop hnodup.2.1.2 (Nat.le_refl _) htop ho
  | succ skip =>
    simp only [Spot.nextSkip, hskip] at ho
    constructor
    · simp [hready.fresh other (by simp [hskip, ho]) n hn]
    · exact hready.not_splices (by simp [hskip])

/-- **What a pass remembers after a node is the next spot in the row.** -/
theorem Ready.next (h : store.Consistent) (hk : store.children parent = before ++ id :: rest)
    (hs : store.Shows id tree) (hm : store.ShowsAll rest more)
    (hready : Ready store pass spot (id :: rest))
    (hf : NodeFrame store options.erb id pass (course store options id level pass).pass pass') :
    Ready store pass' (spot.next options.erb tree more) rest := by
  have hside := siblings_of_children h hk
  have hnodup := h.nodup parent
  rw [hk, List.nodup_append, List.nodup_cons] at hnodup
  have hself : pass'.textOf? store id = spot.text? tree := by
    rw [← hready.textOf? hs]
    refine Pass.textOf?_congr ?_
    rw [hf.truncated id fun _ => rfl]
    apply lookup_course
    rw [hside.2.1]
    exact fun he => hnodup.2.1.1 (List.mem_of_head? he)
  have hprev : ∀ {next}, next ∈ rest.head? → store.prevSibling? next = some id := by
    intro next hn
    obtain ⟨after, hrest⟩ := List.head?_eq_some_iff.1 (Option.mem_def.1 hn)
    have hcut : store.children parent = (before ++ [id]) ++ next :: after := by
      rw [hk, hrest]
      simp
    rw [(siblings_of_children h hcut).1, List.getLast?_concat]
  refine ⟨fun other ho => hready.skipped_next h hk hs hm hf ho,
    fun other ho n hn => hready.fresh_next h hk hs hm hf ho hn, fun other ho n hn hne => ?_,
    fun other ho => ?_, fun next hn => ?_, fun next hn hheld => isText_of_nextHeld hm hn hheld,
    fun next hn => ?_, fun next hn => congrArg Option.isNone (hprev hn)⟩
  · rw [hf.lookup_behind h hk ho hn (nextSibling?_ne_of_below h hk ho hn hne)]
    exact hready.below other (List.mem_cons_of_mem _ ho) n hn hne
  · have hrest := List.mem_of_mem_tail ho
    rw [hf.lookup_behind h hk hrest .refl]
    · exact hready.uncut other hrest
    · rw [hside.2.1]
      intro he
      obtain ⟨after, rfl⟩ := List.head?_eq_some_iff.1 he
      exact (List.nodup_cons.1 hnodup.2.1.2).1 ho
  · have hafter := not_within_of_mem_after h hk (List.mem_of_head? hn) .refl
    rw [hf.truncated next fun hw => absurd hw hafter]
    exact lookup_course_next h hk hs hm hready hn
  · have hfirst := hready.first id (by simp)
    cases ht : spot.text? tree with
    | none => simp [isGluedBefore, Spot.next, hprev hn, hself, ht]
    | some text => simp [isGluedBefore, Spot.next, hprev hn, hself, ht, hfirst]

end Steps

section Rows

/-- A row of children is written from a spot on as the row of their trees. -/
theorem rowResult_answer (h : store.Forest) (hrow : RowsAgree store options depth) :
    ∀ {ids before : List NodeId} {trees : List Shape} {spot : Spot} {pass : Pass},
      store.children parent = before ++ ids → store.ShowsAll ids trees →
      Ready store pass spot ids →
        (rowResult store options (depth + 1) ids level pass).1 =
          writeFrom options (writeRow options depth) (store.isElementNamed parent "pre") level spot
            trees := by
  intro ids
  induction ids with
  | nil =>
    intro before trees spot pass _ hs _
    obtain rfl := Store.showsAll_nil.1 hs
    rfl
  | cons id rest ih =>
    intro before trees spot pass hk hs hready
    obtain ⟨tree, more, rfl, ht, hm⟩ := Store.showsAll_cons.1 hs
    have hself : id ∈ store.children parent := by rw [hk]; simp
    have hfirst : ((renderNode store options (depth + 1) id level).result pass).1 =
        writeNext options (writeRow options depth) (store.isElementNamed parent "pre") level spot
          more tree := by
      rw [writeNext]
      by_cases hskip : spot.skip = 0
      · rw [if_pos hskip]
        exact renderNode_answer h.consistent hrow hk ht hm hready hskip
      · obtain ⟨skip, hskip'⟩ := Nat.exists_eq_succ_of_ne_zero hskip
        have hdone := hready.skipped id (by simp [hskip'])
        rw [if_neg hskip, renderNode_result, course_of_isConsumed hdone.1 (hdone.2 id .refl)]
        rfl
    rw [writeFrom, ← hfirst, rowResult_cons]
    rcases hr : (renderNode store options (depth + 1) id level).result pass with
      ⟨failure | first, pass'⟩
    · rfl
    · have hf := renderNode_frame h (h.consistent.lt_size hself)
        (hready.doneBelow List.mem_cons_self) hr
      have hnext := hready.next h.consistent hk ht hm hf
      have hcut : store.children parent = (before ++ [id]) ++ rest := by simpa using hk
      simp only [Result.next, Result.finish, ih hcut hm hnext]
      cases writeFrom options (writeRow options depth) (store.isElementNamed parent "pre") level
        (spot.next options.erb tree more) more <;> rfl

/-- **Rows of children are written as the rows of their trees.** -/
theorem rowsAgree (h : store.Forest) (options : Options) (depth : Nat) :
    RowsAgree store options depth := by
  induction depth with
  | zero =>
    intro parent trees level pass hs _
    cases hk : store.children parent with
    | nil =>
      rw [hk] at hs
      obtain rfl := Store.showsAll_nil.1 hs
      rfl
    | cons id rest =>
      rw [hk] at hs
      obtain ⟨tree, more, rfl, -, -⟩ := Store.showsAll_cons.1 hs
      rfl
  | succ depth ih =>
    intro parent trees level pass hs hready
    have hcut : store.children parent = [] ++ store.children parent := rfl
    exact rowResult_answer h ih hcut hs hready

/-- **A pass writes the trees below a document or a fragment as a row.** -/
theorem render_eq_writeRow (h : store.Forest) {kind : Branch}
    (hkind : kind = .document ∨ kind = .fragment)
    (hs : store.Shows store.root (.branch kind trees)) :
    render store options = (writeRow options options.maxDepth false 0 trees).map String.ofList := by
  have hroot : store.isElementNamed store.root "pre" = false := by
    rw [Store.isElementNamed_of_shows hs]
    rcases hkind with rfl | rfl <;> rfl
  rw [Store.Shows] at hs
  have hentered : Entered store.root (Pass.start store options)
      ((Pass.start store options).consume store.root) := entered_consume
  have hfresh : ∀ n, store.Within n store.root →
      (Pass.start store options).isConsumed n = false := fun n hn =>
    isConsumed_start (h.consistent.lt_size_of_within hn (Store.lt_size_of_data? hs.1))
  have hchildren := ready_children h.consistent hentered hfresh fun _ _ _ => rfl
  have hanswer := @rowsAgree store h options options.maxDepth store.root _ 0 _ hs.2 hchildren
  rw [hroot] at hanswer
  rw [render, runPass_eq, renderNode_result, course, hs.1, ← hanswer]
  rcases hkind with rfl | rfl
  all_goals
    simp only [Course.run, Result.finish]
    cases (rowResult store options options.maxDepth (store.children store.root) 0
      ((Pass.start store options).consume store.root)).1 <;> rfl

end Rows

end HtmlToHaml.Haml
