import HtmlToHaml.Proofs.Forest.Built
import HtmlToHaml.Proofs.Outline.Frame

/-!
# The visits of a pass

A pass visits nodes: it calls itself on a node, or writes the text of an only child without a call.
`visits` lists them with the state each of them begins in, along the courses of the nodes. What a
pass has marked as done stays done, so a node that is marked at a visit is not written again, and at
every call the marks change by what the node is and nothing else.
-/

namespace HtmlToHaml.Haml

open Text DocTree

/-- A visit of a pass. -/
inductive Visit where
  /-- A call on a node. -/
  | call (depth : Nat) (id : NodeId) (level : Nat) (pass : Pass)
  /-- The text of an only child, written in the line of its parent. -/
  | inline (id : NodeId) (level : Nat) (pass : Pass)

/-- The node of a visit. -/
def Visit.id : Visit → NodeId
  | .call _ id _ _ => id
  | .inline id _ _ => id

/-- The state in which a visit begins. -/
def Visit.pass : Visit → Pass
  | .call _ _ _ pass => pass
  | .inline _ _ pass => pass

/-- The visits along a row of nodes, given those at each node and what it comes to. -/
def visitsRow (visits : NodeId → Pass → List Visit) (write : NodeId → Pass → Result) :
    List NodeId → Pass → List Visit
  | [], _ => []
  | id :: rest, pass =>
    visits id pass ++
      match write id pass with
      | (.ok _, pass) => visitsRow visits write rest pass
      | (.error _, _) => []

/-- The visits of a pass from a node on, in order. -/
def visits (store : Store) (options : Options) : (depth : Nat) → NodeId → Nat → Pass → List Visit
  | 0, id, level, pass => [.call 0 id level pass]
  | depth + 1, id, level, pass =>
    .call (depth + 1) id level pass ::
      match course store options id level pass with
      | .answered _ _ => []
      | .inline child level pass _ => [.inline child level pass]
      | .row children level pass _ =>
        visitsRow (fun id pass => visits store options depth id level pass)
          (fun id pass => (renderNode store options depth id level).result pass) children pass

/-- Whether a visit finds its text or element not done, and so writes it. -/
def Visit.passes (store : Store) : Visit → Bool
  | .call 0 _ _ _ => false
  | .call (_ + 1) id _ pass => isChecked store id && !pass.isConsumed id
  | .inline id _ pass => !pass.isConsumed id

variable {store : Store} {options : Options} {depth : Nat} {id n : NodeId} {level : Nat}
  {pass pass' : Pass} {erb : Bool} {v : Visit}

/-- All that is done in the first state is done in the second. -/
structure Pass.Le (pass pass' : Pass) : Prop where
  /-- A node that is done is done later. -/
  le : ∀ n, pass.isConsumed n = true → pass'.isConsumed n = true

namespace Pass.Le

theorem refl (pass : Pass) : pass.Le pass :=
  ⟨fun _ hn => hn⟩

theorem trans {mid : Pass} (h : pass.Le mid) (h' : mid.Le pass') : pass.Le pass' :=
  ⟨fun n hn => h'.le n (h.le n hn)⟩

theorem consume (pass : Pass) (id : NodeId) : pass.Le (pass.consume id) :=
  ⟨fun _ hn => isConsumed_consume.2 (Or.inr hn)⟩

theorem consumeSubtree (pass : Pass) (store : Store) (id : NodeId) :
    pass.Le (pass.consumeSubtree store id) :=
  ⟨fun _ hn => isConsumed_consumeAll.2 (Or.inr hn)⟩

theorem tell (pass : Pass) (event : Log.Event) : pass.Le (pass.tell event) :=
  ⟨fun _ hn => hn⟩

theorem truncate (pass : Pass) (id : NodeId) (rest : List Char) : pass.Le (pass.truncate id rest) :=
  ⟨fun _ hn => hn⟩

end Pass.Le

/-- Splicing only adds marks. -/
theorem le_spliceMarkers {ids : List NodeId} : pass.Le (spliceMarkers store pass ids).2 := by
  induction ids using markerRun.induct store generalizing pass with
  | case1 => exact .refl pass
  | case2 marker hm =>
    rw [spliceMarkers, if_pos hm]
    exact .consumeSubtree ..
  | case3 marker hm =>
    rw [spliceMarkers, if_neg hm]
    exact .refl pass
  | case4 marker following rest hm hf ih =>
    rw [spliceMarkers_text hm hf]
    exact ((Pass.Le.consumeSubtree ..).trans (.consume ..)).trans ih
  | case5 marker following rest hm hf ih =>
    rw [spliceMarkers_script hm hf]
    exact (Pass.Le.consumeSubtree ..).trans ih
  | case6 marker following rest hm =>
    rw [spliceMarkers, if_neg hm]
    exact .refl pass

/-- A text that is written is done, and only adds marks. -/
theorem le_renderText {escapeSpecial : Bool} :
    pass.Le (renderText store erb id level escapeSpecial pass).2 ∧
      (renderText store erb id level escapeSpecial pass).2.isConsumed id = true := by
  rw [renderText]
  have hself : (pass.consume id).isConsumed id = true := Pass.isConsumed_consume.2 (Or.inl rfl)
  by_cases hc : pass.isConsumed id = true
  · rw [if_pos hc]
    exact ⟨.refl pass, hc⟩
  · rw [if_neg hc]
    dsimp only
    split
    · exact ⟨.consume .., hself⟩
    · split
      · exact ⟨.consume .., hself⟩
      · split
        · exact ⟨(Pass.Le.consume ..).trans le_spliceMarkers, le_spliceMarkers.le _ hself⟩
        · exact ⟨.consume .., hself⟩

/-- The course of the content of an element only adds marks. -/
theorem le_bodyCourse {name : String} {finish : List Char → List Char} :
    pass.Le (bodyCourse store erb id name level pass finish).pass := by
  rw [bodyCourse]
  split
  · exact .refl pass
  · exact .consume ..
  · exact .refl pass
  · exact .refl pass

/-- The course of a node only adds marks, and marks a text or an element itself. -/
theorem le_course (store : Store) (options : Options) (id : NodeId) (level : Nat) (pass : Pass) :
    pass.Le (course store options id level pass).pass ∧
      (isChecked store id = true →
        (course store options id level pass).pass.isConsumed id = true) := by
  have hself : (pass.consume id).isConsumed id = true := Pass.isConsumed_consume.2 (Or.inl rfl)
  have hle : ∀ {c : Course}, (pass.consume id).Le c.pass →
      pass.Le c.pass ∧ (isChecked store id = true → c.pass.isConsumed id = true) := fun hc =>
    ⟨(Pass.Le.consume ..).trans hc, fun _ => hc.le id hself⟩
  rw [course]
  cases hd : store.data? id with
  | none =>
    refine ⟨.refl pass, fun hcheck => ?_⟩
    simp [isChecked, Store.isText, Store.text?_eq, Store.elementName?, hd] at hcheck
  | some data =>
    cases data with
    | leaf leaf =>
      cases leaf with
      | text content => exact ⟨le_renderText.1, fun _ => le_renderText.2⟩
      | comment content => exact hle (.refl _)
      | cdata content => exact hle (.refl _)
      | doctype name externalId systemId => exact hle (.refl _)
      | instruction content => exact hle (.refl _)
    | branch kind =>
      cases kind with
      | document => exact hle (.refl _)
      | fragment => exact hle (.refl _)
      | element name attributes selfClosing =>
        dsimp only
        rw [elementCourse]
        by_cases hc : pass.isConsumed id = true
        · rw [if_pos hc]
          exact ⟨.refl pass, fun _ => hc⟩
        · rw [if_neg hc]
          split
          · exact hle ((Pass.Le.tell ..).trans (.consumeSubtree ..))
          · split
            · exact hle (.refl _)
            · split
              · refine hle ⟨fun n hn => (renderScript_frame.1 n).trans ?_⟩
                exact (Pass.Le.consumeSubtree ..).le n hn
              · apply hle
                rw [tagCourse]
                split
                · exact le_bodyCourse
                · exact (Pass.Le.tell ..).trans le_bodyCourse
                · exact ((Pass.Le.tell ..).trans (.truncate ..)).trans le_bodyCourse

/-- A row only adds marks, if its nodes do. -/
theorem le_rowResult (hnode : ∀ id pass,
      Pass.Le pass ((renderNode store options depth id level).result pass).2) :
    ∀ ids pass, Pass.Le pass (rowResult store options depth ids level pass).2 := by
  intro ids
  induction ids with
  | nil => exact fun pass => .refl pass
  | cons id rest ih =>
    intro pass
    rw [rowResult_cons]
    have hfirst := hnode id pass
    rcases hr : (renderNode store options depth id level).result pass with ⟨failure | first, mid⟩
    · rw [hr] at hfirst
      exact hfirst
    · rw [hr] at hfirst
      exact hfirst.trans (ih mid)

/-- A course that goes on only adds marks, if its nodes do. -/
theorem le_run (hnode : ∀ id level pass,
      Pass.Le pass ((renderNode store options depth id level).result pass).2) (c : Course) :
    c.pass.Le (c.run store options.erb (rowResult store options depth)).2 := by
  cases c with
  | answered answer mid => exact .refl mid
  | inline child level mid finish => exact le_renderText.1
  | row children level mid finish => exact le_rowResult (fun id => hnode id level) children mid

/-- **What is done stays done.** -/
theorem le_renderNode (store : Store) (options : Options) :
    ∀ depth id level pass,
      Pass.Le pass ((renderNode store options depth id level).result pass).2 := by
  intro depth
  induction depth with
  | zero => exact fun _ _ pass => .refl pass
  | succ depth ih =>
    intro id level pass
    rw [renderNode_result]
    exact (le_course ..).1.trans (le_run ih _)

/-- A row of visits keeps what each of its nodes keeps: the marks grow along it, and a node that is
written at a visit is done from then on. -/
structure Marked (store : Store) (pass pass' : Pass) (vs : List Visit) : Prop where
  /-- What is done at the start is done at every visit. -/
  start : ∀ v ∈ vs, pass.Le v.pass
  /-- What a visit writes is done in the end. -/
  done : ∀ v ∈ vs, v.passes store = true → pass'.isConsumed v.id = true
  /-- What a visit writes is done at every later visit. -/
  later : vs.Pairwise fun v w => v.passes store = true → w.pass.isConsumed v.id = true

/-- Rows of visits follow each other. -/
theorem Marked.append {mid : Pass} {vs ws : List Visit} (hv : Marked store pass mid vs)
    (hw : Marked store mid pass' ws) (hs : pass.Le mid) (hl : mid.Le pass') :
    Marked store pass pass' (vs ++ ws) := by
  refine ⟨fun v hm => ?_, fun v hm hp => ?_, ?_⟩
  · rcases List.mem_append.1 hm with hm | hm
    · exact hv.start v hm
    · exact hs.trans (hw.start v hm)
  · rcases List.mem_append.1 hm with hm | hm
    · exact hl.le _ (hv.done v hm hp)
    · exact hw.done v hm hp
  · rw [List.pairwise_append]
    exact ⟨hv.later, hw.later, fun v hm w hn hp => (hw.start w hn).le _ (hv.done v hm hp)⟩

/-- The visits along a row are marked, if those at its nodes are. -/
theorem marked_visitsRow
    (hnode : ∀ id pass,
      Marked store pass ((renderNode store options depth id level).result pass).2
        (visits store options depth id level pass)) :
    ∀ ids pass,
      Marked store pass (rowResult store options depth ids level pass).2
        (visitsRow (fun id pass => visits store options depth id level pass)
          (fun id pass => (renderNode store options depth id level).result pass) ids pass) := by
  intro ids
  induction ids with
  | nil => exact fun pass => ⟨by simp [visitsRow], by simp [visitsRow], List.Pairwise.nil⟩
  | cons id rest ih =>
    intro pass
    have hfirst := hnode id pass
    have hle := le_renderNode store options depth id level pass
    rw [rowResult_cons, visitsRow]
    rcases hr : (renderNode store options depth id level).result pass with ⟨failure | first, mid⟩
    · rw [hr] at hfirst
      rw [List.append_nil]
      exact hfirst
    · rw [hr] at hfirst hle
      exact hfirst.append (ih mid) hle
        (le_rowResult (fun id => le_renderNode store options depth id level) rest mid)

/-- **What a visit writes is done from then on.** -/
theorem marked_visits (store : Store) (options : Options) :
    ∀ depth id level pass,
      Marked store pass ((renderNode store options depth id level).result pass).2
        (visits store options depth id level pass) := by
  intro depth
  induction depth with
  | zero =>
    intro id level pass
    refine ⟨fun v hv => ?_, fun v hv hp => ?_, List.pairwise_singleton ..⟩
    · obtain rfl := List.mem_singleton.1 hv
      exact .refl pass
    · obtain rfl := List.mem_singleton.1 hv
      simp [Visit.passes] at hp
  | succ depth ih =>
    intro id level pass
    rw [renderNode_result, visits]
    obtain ⟨hle, hself⟩ := le_course store options id level pass
    have hrun := le_run (le_renderNode store options depth) (course store options id level pass)
    have hhead : Marked store pass (course store options id level pass).pass
        [.call (depth + 1) id level pass] := by
      refine ⟨fun v hv => ?_, fun v hv hp => ?_, List.pairwise_singleton ..⟩
      · obtain rfl := List.mem_singleton.1 hv
        exact .refl pass
      · obtain rfl := List.mem_singleton.1 hv
        simp only [Visit.passes, Bool.and_eq_true] at hp
        exact hself hp.1
    rw [← List.singleton_append]
    refine hhead.append ?_ hle hrun
    cases course store options id level pass with
    | answered answer mid => exact ⟨by simp, by simp, List.Pairwise.nil⟩
    | inline child level mid finish =>
      refine ⟨fun v hv => ?_, fun v hv _ => ?_, List.pairwise_singleton ..⟩
      · obtain rfl := List.mem_singleton.1 hv
        exact .refl mid
      · obtain rfl := List.mem_singleton.1 hv
        exact le_renderText.2
    | row children level mid finish =>
      exact marked_visitsRow (fun id => ih id level) children mid

/-- No visit writes a node that an earlier one has written. -/
theorem nodup_passing_visits :
    (((visits store options depth id level pass).filter (Visit.passes store)).map
      Visit.id).Nodup := by
  have hlater := (marked_visits store options depth id level pass).later
  rw [List.Nodup, List.pairwise_map, List.pairwise_filter]
  apply hlater.imp
  intro v w hvw hv hw he
  have hdone := hvw hv
  rw [he] at hdone
  cases w with
  | call depth id level pass =>
    cases depth with
    | zero => simp [Visit.passes] at hw
    | succ depth => simp_all [Visit.passes, Visit.id, Visit.pass]
  | inline id level pass => simp_all [Visit.passes, Visit.id, Visit.pass]

section Calls

variable {parent : NodeId} {mid : Pass}

/-- A property of nodes that a pass hands on, to the children of a node that has done its own part
and past a child that is written. -/
structure HandedOn (store : Store) (options : Options) (P : Pass → NodeId → Prop) : Prop where
  /-- What is done within a node with the property is done with all below it. -/
  doneBelow : ∀ {pass id}, P pass id → DoneBelow store pass id
  /-- It goes on to the children of a node that has done its own part. -/
  child : ∀ {pass id child level}, P pass id → child ∈ store.children id →
    Entered id pass (course store options id level pass).pass →
      P (course store options id level pass).pass child
  /-- It stays with the siblings after a child that is written. -/
  behind : ∀ {pass pass' parent before id rest other level},
    store.children parent = before ++ id :: rest → other ∈ rest → P pass other →
      NodeFrame store options.erb id pass (course store options id level pass).pass pass' →
        P pass' other

namespace HandedOn

variable {P : Pass → NodeId → Prop}

/-- What is handed on holds at the calls along a row of children, if it does at those
of each child. -/
theorem calls_row (hP : HandedOn store options P) (h : store.Forest)
    (hnode : ∀ {id : NodeId} {pass : Pass}, id < store.size → P pass id →
      ∀ {depth' id' level' pass'},
        Visit.call depth' id' level' pass' ∈ visits store options depth id level pass →
          id' < store.size ∧ P pass' id') :
    ∀ {ids before : List NodeId} {pass : Pass}, store.children parent = before ++ ids →
      (∀ id ∈ ids, P pass id) → ∀ {depth' id' level' pass'},
        Visit.call depth' id' level' pass' ∈
          visitsRow (fun id pass => visits store options depth id level pass)
            (fun id pass => (renderNode store options depth id level).result pass) ids pass →
          id' < store.size ∧ P pass' id' := by
  intro ids
  induction ids with
  | nil =>
    intro before pass _ _ depth' id' level' pass' hv
    exact absurd hv List.not_mem_nil
  | cons id rest ih =>
    intro before pass hk hids depth' id' level' pass' hv
    have hm : id ∈ store.children parent := by rw [hk]; simp
    have hi := h.consistent.lt_size hm
    have hself := hids id List.mem_cons_self
    rw [visitsRow, List.mem_append] at hv
    rcases hv with hv | hv
    · exact hnode hi hself hv
    · rcases hr : (renderNode store options depth id level).result pass with ⟨failure | text, mid⟩
      · rw [hr] at hv
        exact absurd hv List.not_mem_nil
      · rw [hr] at hv
        have hframe := renderNode_frame h hi (hP.doneBelow hself) hr
        have hcut : store.children parent = (before ++ [id]) ++ rest := by simpa using hk
        refine ih hcut (fun other ho => ?_) hv
        exact hP.behind hk ho (hids other (List.mem_cons_of_mem _ ho)) hframe

/-- **What is handed on holds at every call.** -/
theorem calls (hP : HandedOn store options P) (h : store.Forest) :
    ∀ {depth : Nat} {id : NodeId} {level : Nat} {pass : Pass}, id < store.size →
      P pass id → ∀ {depth' id' level' pass'},
        Visit.call depth' id' level' pass' ∈ visits store options depth id level pass →
          id' < store.size ∧ P pass' id' := by
  intro depth
  induction depth with
  | zero =>
    intro id level pass hi hself depth' id' level' pass' hv
    cases List.mem_singleton.1 hv
    exact ⟨hi, hself⟩
  | succ depth ih =>
    intro id level pass hi hself depth' id' level' pass' hv
    have hfits := course_fits h hi (hP.doneBelow hself) options level
    have hchild : ∀ child ∈ store.children id,
        Entered id pass (course store options id level pass).pass →
          P (course store options id level pass).pass child := fun _ hm => hP.child hself hm
    rw [visits, List.mem_cons] at hv
    rcases hv with hv | hv
    · cases hv
      exact ⟨hi, hself⟩
    · cases hc : course store options id level pass with
      | answered answer mid =>
        rw [hc] at hv
        exact absurd hv List.not_mem_nil
      | inline child level mid finish =>
        rw [hc] at hv
        exact absurd (List.mem_singleton.1 hv) (by simp)
      | row children level mid finish =>
        rw [hc] at hv hfits hchild
        obtain ⟨he, -, rfl⟩ := hfits
        have hcut : store.children id = [] ++ store.children id := rfl
        exact hP.calls_row h ih hcut (fun child hm => hchild child hm he) hv

end HandedOn

/-- Every call begins where everything done within its node is done with all below it. -/
theorem ready_visits (h : store.Forest) :
    ∀ {depth : Nat} {id : NodeId} {level : Nat} {pass : Pass}, id < store.size →
      DoneBelow store pass id → ∀ {depth' id' level' pass'},
        Visit.call depth' id' level' pass' ∈ visits store options depth id level pass →
          id' < store.size ∧ DoneBelow store pass' id' := by
  have hdone : HandedOn store options (DoneBelow store) :=
    ⟨id, fun hd hm he => he.doneBelow h.consistent hd hm, fun _ _ hd hf => hf.doneBelow hd⟩
  intro depth id level pass hi hd
  exact hdone.calls h hi hd

/-- A call on a text or an element that is done does nothing. -/
theorem renderNode_of_isConsumed {text : List Char} (hcheck : isChecked store id = true)
    (hc : pass.isConsumed id = true)
    (hr : (renderNode store options depth id level).result pass = (.ok text, pass')) :
    text = [] ∧ pass' = pass := by
  cases depth with
  | zero => cases hr
  | succ depth =>
    rw [renderNode_result, course_of_isConsumed hcheck hc] at hr
    cases hr
    exact ⟨rfl, rfl⟩

/-- **Every call that succeeds marks its node, all below it and the scripts it draws into its lines,
and nothing else; a call on a text or an element that is done does nothing. So a pass that succeeds
has marked just the nodes within the root, and no text or element is written twice.** -/
theorem consumption (h : store.Forest) {kind : Branch}
    (hkind : store.data? store.root = some (.branch kind)) (options : Options) :
    (∀ depth id level pass text pass',
      Visit.call depth id level pass ∈ visits store options (options.maxDepth + 1) store.root 0
        (Pass.start store options) →
      (renderNode store options depth id level).result pass = (.ok text, pass') →
        (∀ n, pass'.isConsumed n = true ↔
          pass.isConsumed n = true ∨ store.Within n id ∨ Splices store options.erb pass id n) ∧
        (isChecked store id = true → pass.isConsumed id = true → text = [] ∧ pass' = pass)) ∧
    (∀ text pass', runPass store options = (.ok text, pass') →
      ∀ n < store.size, (pass'.isConsumed n = true ↔ store.Within n store.root)) ∧
    (((visits store options (options.maxDepth + 1) store.root 0
      (Pass.start store options)).filter (Visit.passes store)).map Visit.id).Nodup := by
  have hroot : store.root < store.size := Store.lt_size_of_data? hkind
  have hstart : DoneBelow store (Pass.start store options) store.root := by
    intro n hn hc
    rw [isConsumed_start (h.consistent.lt_size_of_within hn hroot)] at hc
    exact absurd hc Bool.false_ne_true
  refine ⟨fun depth id level pass text pass' hv hr => ⟨?_, ?_⟩, fun text pass' hr n hn => ?_,
    nodup_passing_visits⟩
  · obtain ⟨hi, hd⟩ := ready_visits h hroot hstart hv
    exact (renderNode_frame h hi hd hr).consumed
  · intro hcheck hc
    exact renderNode_of_isConsumed hcheck hc hr
  · rw [runPass_eq] at hr
    rw [(renderNode_frame h hroot hstart hr).consumed, isConsumed_start hn]
    simp [Splices, Store.isText, Store.text?_eq, hkind]

/-- A line of text with a printed script in it. -/
def scriptedLine : Store :=
  Shape.build .document
    [.leaf (.text "a"), .branch (.element "loud" [] false) [.leaf (.text "b")]]

/-- All nodes of a line with a printed script are done in the end, and none is written twice. -/
theorem consumption_scriptedLine :
    scriptedLine.Forest ∧ scriptedLine.data? scriptedLine.root = some .document ∧
      (∀ n < scriptedLine.size,
        ((runPass scriptedLine { erb := true }).2.isConsumed n = true ↔
          scriptedLine.Within n scriptedLine.root)) ∧
      (((visits scriptedLine { erb := true } 513 scriptedLine.root 0
        (Pass.start scriptedLine { erb := true })).filter
          (Visit.passes scriptedLine)).map Visit.id).Nodup := by
  have hforest : scriptedLine.Forest := (Store.forest_build _ _).1
  have hkind : scriptedLine.data? scriptedLine.root = some .document := rfl
  have hall := consumption hforest hkind { erb := true }
  exact ⟨hforest, hkind, hall.2.1 _ _ rfl, hall.2.2⟩

end Calls

end HtmlToHaml.Haml
