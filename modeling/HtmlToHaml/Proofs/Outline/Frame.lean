import HtmlToHaml.Proofs.Forest.Shapes
import HtmlToHaml.Proofs.Outline.Course

/-!
# What a pass marks as done

A node that is written marks itself and everything below it, and a text that draws the scripts after
it into its lines marks those as well. Nothing else is marked, and no text gives up its first word
but those below the node and the one right after it. The main statement holds at every node that a
pass comes to, because a node that is done always has everything below it done as well.
-/

namespace HtmlToHaml.Haml

open Text DocTree

variable {store : Store} {options : Options} {depth : Nat} {id n : NodeId} {level : Nat}
  {pass pass' : Pass} {erb : Bool} {tree : Shape}

namespace Pass

/-- A node that is done now was done before or has just been. -/
theorem isConsumed_consume :
    (pass.consume id).isConsumed n = true ↔ n = id ∨ pass.isConsumed n = true := by
  simp only [isConsumed, consume, Array.getElem?_setIfInBounds]
  by_cases hid : id = n
  · subst hid
    by_cases hs : id < pass.consumed.size
    · simp [hs]
    · simp [hs]
  · simp [hid, Ne.symm hid]

/-- The nodes that are done now were done before or have just been. -/
theorem isConsumed_consumeAll {ids : List NodeId} :
    (pass.consumeAll ids).isConsumed n = true ↔ n ∈ ids ∨ pass.isConsumed n = true := by
  induction ids generalizing pass with
  | nil => simp [consumeAll]
  | cons id ids ih =>
    have hstep : (pass.consumeAll (id :: ids)) = (pass.consume id).consumeAll ids := rfl
    rw [hstep, ih, isConsumed_consume, List.mem_cons, or_left_comm, or_assoc]

/-- Doing nodes cuts no text. -/
@[simp] theorem truncated_consumeAll {ids : List NodeId} :
    (pass.consumeAll ids).truncated = pass.truncated := by
  induction ids generalizing pass with
  | nil => rfl
  | cons id ids ih => exact @ih (pass.consume id)

/-- Doing a subtree does the nodes within it. -/
theorem isConsumed_consumeSubtree (h : store.Consistent) :
    (pass.consumeSubtree store id).isConsumed n = true ↔
      store.Within n id ∨ pass.isConsumed n = true := by
  rw [consumeSubtree, isConsumed_consumeAll, h.mem_cons_descendants]

@[simp] theorem truncated_consume : (pass.consume id).truncated = pass.truncated :=
  rfl

@[simp] theorem truncated_consumeSubtree :
    (pass.consumeSubtree store id).truncated = pass.truncated :=
  truncated_consumeAll

@[simp] theorem isConsumed_tell {event : Log.Event} :
    (pass.tell event).isConsumed n = pass.isConsumed n :=
  rfl

@[simp] theorem truncated_tell {event : Log.Event} :
    (pass.tell event).truncated = pass.truncated :=
  rfl

@[simp] theorem isConsumed_truncate {rest : List Char} :
    (pass.truncate id rest).isConsumed n = pass.isConsumed n :=
  rfl

/-- A cut text is looked up alone. -/
theorem lookup_truncate_of_ne {rest : List Char} (hne : n ≠ id) :
    (pass.truncate id rest).truncated.lookup n = pass.truncated.lookup n := by
  have hb : (n == id) = false := beq_false_of_ne hne
  simp only [truncate, List.lookup_cons, hb]

/-- What is left of a text depends on the cut texts only. -/
theorem textOf?_congr (h : pass'.truncated.lookup id = pass.truncated.lookup id) :
    pass'.textOf? store id = pass.textOf? store id := by
  rw [textOf?, textOf?, h]

end Pass

/-- At the start of a pass no node is done. -/
theorem isConsumed_start (hn : n < store.size) :
    (Pass.start store options).isConsumed n = false := by
  simp [Pass.start, Pass.isConsumed, hn]

/-- Whether a node is written only if it is not done. -/
def isChecked (store : Store) (id : NodeId) : Bool :=
  store.isText id || (store.elementName? id).isSome

/-- A text has the content of a text. -/
theorem isText_iff : store.isText id = true ↔ ∃ content, store.data? id = some (.text content) := by
  rw [Store.isText, Store.text?_eq, Option.isSome_iff_exists]
  constructor
  · rintro ⟨content, hc⟩
    split at hc
    · rename_i hd
      exact ⟨_, hd⟩
    · exact absurd hc (by simp)
  · rintro ⟨content, hd⟩
    exact ⟨content, by rw [hd]⟩

/-- The longest row of printed scripts, each with at most one text after it, that begins a row of
siblings. -/
def markerRun (store : Store) : List NodeId → List NodeId
  | [] => []
  | [marker] => if store.isElementNamed marker "loud" then [marker] else []
  | marker :: following :: rest =>
    if store.isElementNamed marker "loud" then
      if store.isText following then marker :: following :: markerRun store rest
      else marker :: markerRun store (following :: rest)
    else []

/-- A row of printed scripts, each with at most one text after it. -/
inductive IsMarkerRow (store : Store) : List NodeId → Prop
  /-- The row may be empty. -/
  | nil : IsMarkerRow store []
  /-- A script alone. -/
  | script {marker : NodeId} {rest : List NodeId} :
    store.isElementNamed marker "loud" = true → IsMarkerRow store rest →
      IsMarkerRow store (marker :: rest)
  /-- A script and a text. -/
  | text {marker following : NodeId} {rest : List NodeId} :
    store.isElementNamed marker "loud" = true → store.isText following = true →
      IsMarkerRow store rest → IsMarkerRow store (marker :: following :: rest)

/-- A text is not an element. -/
theorem isElementNamed_of_isText {name : String} (ht : store.isText id = true) :
    store.isElementNamed id name = false := by
  obtain ⟨content, hc⟩ := isText_iff.1 ht
  simp [Store.isElementNamed, Store.elementName?, hc]

/-- The row of scripts that begins some siblings is the longest one: it is such a row, and every
other one is a part of it. -/
theorem markerRun_longest {ids : List NodeId} :
    IsMarkerRow store (markerRun store ids) ∧ markerRun store ids <+: ids ∧
      ∀ row, IsMarkerRow store row → row <+: ids → row <+: markerRun store ids := by
  induction ids using markerRun.induct store with
  | case1 => exact ⟨.nil, List.prefix_rfl, fun _ _ hp => hp⟩
  | case2 marker hm =>
    rw [markerRun, if_pos hm]
    exact ⟨.script hm .nil, List.prefix_rfl, fun _ _ hp => hp⟩
  | case3 marker hm =>
    rw [markerRun, if_neg hm]
    refine ⟨.nil, List.nil_prefix, fun row hr hp => ?_⟩
    cases hr with
    | nil => exact List.prefix_rfl
    | script hs _ | text hs _ _ => exact absurd ((List.cons_prefix_cons.1 hp).1 ▸ hs) hm
  | case4 marker following rest hm hf ih =>
    rw [markerRun, if_pos hm, if_pos hf]
    obtain ⟨hrow, hpre, hmax⟩ := ih
    refine ⟨.text hm hf hrow, ?_, fun row hr hp => ?_⟩
    · exact List.cons_prefix_cons.2 ⟨rfl, List.cons_prefix_cons.2 ⟨rfl, hpre⟩⟩
    · cases hr with
      | nil => exact List.nil_prefix
      | script hs hr =>
        obtain ⟨rfl, hfollow⟩ := List.cons_prefix_cons.1 hp
        cases hr with
        | nil => exact List.cons_prefix_cons.2 ⟨rfl, List.nil_prefix⟩
        | script ht _ | text ht _ _ =>
          rw [(List.cons_prefix_cons.1 hfollow).1, isElementNamed_of_isText hf] at ht
          exact absurd ht Bool.false_ne_true
      | text hs ht hr =>
        obtain ⟨rfl, hfollow⟩ := List.cons_prefix_cons.1 hp
        obtain ⟨rfl, hrest⟩ := List.cons_prefix_cons.1 hfollow
        exact List.cons_prefix_cons.2 ⟨rfl, List.cons_prefix_cons.2 ⟨rfl, hmax _ hr hrest⟩⟩
  | case5 marker following rest hm hf ih =>
    rw [markerRun, if_pos hm, if_neg hf]
    obtain ⟨hrow, hpre, hmax⟩ := ih
    refine ⟨.script hm hrow, List.cons_prefix_cons.2 ⟨rfl, hpre⟩, fun row hr hp => ?_⟩
    cases hr with
    | nil => exact List.nil_prefix
    | script hs hr =>
      obtain ⟨rfl, hrest⟩ := List.cons_prefix_cons.1 hp
      exact List.cons_prefix_cons.2 ⟨rfl, hmax _ hr hrest⟩
    | text hs ht hr =>
      have hfollow := (List.cons_prefix_cons.1 hp).2
      exact absurd ((List.cons_prefix_cons.1 hfollow).1 ▸ ht) hf
  | case6 marker following rest hm =>
    rw [markerRun, if_neg hm]
    refine ⟨.nil, List.nil_prefix, fun row hr hp => ?_⟩
    cases hr with
    | nil => exact List.prefix_rfl
    | script hs _ | text hs _ _ => exact absurd ((List.cons_prefix_cons.1 hp).1 ▸ hs) hm

/-- A script with a text after it is spliced with the text. -/
theorem spliceMarkers_text {marker following : NodeId} {rest : List NodeId}
    (hm : store.isElementNamed marker "loud" = true) (hf : store.isText following = true) :
    spliceMarkers store pass (marker :: following :: rest) =
      (splicedScript store marker ++
        splicedText (pass.consumeSubtree store marker) store following ++
        (spliceMarkers store ((pass.consumeSubtree store marker).consume following) rest).1,
        (spliceMarkers store ((pass.consumeSubtree store marker).consume following) rest).2) := by
  rw [spliceMarkers, if_pos hm]
  exact if_pos hf

/-- A script without a text after it is spliced alone. -/
theorem spliceMarkers_script {marker following : NodeId} {rest : List NodeId}
    (hm : store.isElementNamed marker "loud" = true) (hf : ¬ store.isText following = true) :
    spliceMarkers store pass (marker :: following :: rest) =
      (splicedScript store marker ++
        (spliceMarkers store (pass.consumeSubtree store marker) (following :: rest)).1,
        (spliceMarkers store (pass.consumeSubtree store marker) (following :: rest)).2) := by
  rw [spliceMarkers, if_pos hm]
  exact if_neg hf

/-- Splicing does the row of printed scripts. -/
theorem isConsumed_spliceMarkers (h : store.Forest) {ids : List NodeId} :
    (spliceMarkers store pass ids).2.isConsumed n = true ↔
      pass.isConsumed n = true ∨ ∃ top ∈ markerRun store ids, store.Within n top := by
  have hsub : ∀ {pass : Pass} {id}, (pass.consumeSubtree store id).isConsumed n = true ↔
      store.Within n id ∨ pass.isConsumed n = true :=
    Pass.isConsumed_consumeSubtree h.consistent
  induction ids using markerRun.induct store generalizing pass with
  | case1 => simp [spliceMarkers, markerRun]
  | case2 marker hm => simp [spliceMarkers, markerRun, hm, hsub, or_comm]
  | case3 marker hm => simp [spliceMarkers, markerRun, hm]
  | case4 marker following rest hm hf ih =>
    obtain ⟨content, hc⟩ := isText_iff.1 hf
    have hleaf : store.Within n following ↔ n = following :=
      Store.within_of_children_eq_nil (h.bare hc)
    rw [spliceMarkers_text hm hf, markerRun, if_pos hm, if_pos hf]
    apply ih.trans
    rw [Pass.isConsumed_consume, hsub]
    simp only [List.mem_cons, exists_eq_or_imp, hleaf, or_assoc, or_left_comm]
  | case5 marker following rest hm hf ih =>
    rw [spliceMarkers_script hm hf, markerRun, if_pos hm, if_neg hf]
    apply ih.trans
    rw [hsub]
    simp only [List.mem_cons, exists_eq_or_imp, or_assoc, or_left_comm]
  | case6 marker following rest hm => simp [spliceMarkers, markerRun, hm]

section Siblings

variable {parent : NodeId} {before after : List NodeId}

/-- A child stands after those before it and before those after it. -/
theorem siblings_of_children (h : store.Consistent)
    (hk : store.children parent = before ++ id :: after) :
    store.prevSibling? id = before.getLast? ∧ store.nextSibling? id = after.head? ∧
      followingSiblings store id = after := by
  have hring := h.ring parent
  rw [hk] at hring
  refine ⟨hring.between.1, hring.between.2, ?_⟩
  have hlen := h.length_le parent
  rw [hk] at hlen
  rw [followingSiblings, hring.between.2]
  have hcut : before ++ id :: after = (before ++ [id]) ++ after := by simp
  apply hring.chain hcut
  simp at hlen
  omega

end Siblings

/-- A node is within the scripts that a text draws into its lines: with scripts on, a text that is
not done and not blank takes the row of scripts after it. -/
def Splices (store : Store) (erb : Bool) (pass : Pass) (id n : NodeId) : Prop :=
  erb = true ∧ store.isText id = true ∧ pass.isConsumed id = false ∧
    (∃ content, pass.textOf? store id = some content ∧ isBlank content = false) ∧
    ∃ top ∈ markerRun store (followingSiblings store id), store.Within n top

/-- What a node has changed once it is written, where `mid` is the state in which its course goes
on. -/
structure NodeFrame (store : Store) (erb : Bool) (id : NodeId) (pass mid pass' : Pass) : Prop where
  /-- The node is done with all below it and the scripts it draws into its lines. -/
  consumed : ∀ n, pass'.isConsumed n = true ↔
    pass.isConsumed n = true ∨ store.Within n id ∨ Splices store erb pass id n
  /-- From then on only texts below the node are cut. -/
  truncated : ∀ n, (store.Within n id → n = id) →
    pass'.truncated.lookup n = mid.truncated.lookup n

/-- What a row of nodes may have changed once it is written. -/
structure RowFrame (store : Store) (ids : List NodeId) (pass pass' : Pass) : Prop where
  /-- The nodes are done with all below them. -/
  consumed : ∀ n, pass'.isConsumed n = true ↔
    pass.isConsumed n = true ∨ ∃ id ∈ ids, store.Within n id
  /-- Only texts within the row are cut. -/
  truncated : ∀ n, (∀ id ∈ ids, ¬ store.Within n id) →
    pass'.truncated.lookup n = pass.truncated.lookup n

/-- Whatever is done within a tree is done with all below it. -/
def DoneBelow (store : Store) (pass : Pass) (top : NodeId) : Prop :=
  ∀ n, store.Within n top → pass.isConsumed n = true →
    ∀ m, store.Within m n → pass.isConsumed m = true

/-- A text does itself and the scripts it draws into its lines. -/
theorem isConsumed_renderText (h : store.Forest) (ht : store.isText id = true) (erb : Bool)
    (level : Nat) (escapeSpecial : Bool) (pass : Pass) (n : NodeId) :
    (renderText store erb id level escapeSpecial pass).2.isConsumed n = true ↔
      pass.isConsumed n = true ∨ n = id ∨ Splices store erb pass id n := by
  rw [renderText]
  by_cases hc : pass.isConsumed id = true
  · have hn : n = id → pass.isConsumed n = true := fun he => he ▸ hc
    simp only [hc, if_true, Splices, Bool.true_eq_false, false_and, and_false, or_false]
    exact ⟨Or.inl, fun ho => ho.elim (fun hd => hd) hn⟩
  · have hcf : pass.isConsumed id = false := by simpa using hc
    simp only [hc, Bool.false_eq_true, if_false]
    have htext : (pass.consume id).textOf? store id = pass.textOf? store id := rfl
    rw [htext]
    have hplain : (pass.consume id).isConsumed n = true ↔ pass.isConsumed n = true ∨ n = id := by
      rw [Pass.isConsumed_consume, or_comm]
    cases hx : pass.textOf? store id with
    | none => simp [Splices, hx, hplain]
    | some content =>
      by_cases hb : isBlank content = true
      · simp [Splices, hx, hb, hplain]
      · cases erb with
        | false => simp [Splices, hb, hplain]
        | true =>
          have hs := @isConsumed_spliceMarkers store n (pass.consume id) h
            (followingSiblings store id)
          simp only [hb, Bool.false_eq_true, if_false, if_true]
          apply hs.trans
          simp [Splices, ht, hcf, hx, hb, hplain, or_assoc]

section Cuts

/-- A script does its subtree and cuts no text. -/
theorem renderScript_frame {silent : Bool} :
    (∀ n, (renderScript store silent id level pass).2.isConsumed n =
        (pass.consumeSubtree store id).isConsumed n) ∧
      (renderScript store silent id level pass).2.truncated = pass.truncated := by
  have hcut : (pass.consumeSubtree store id).truncated = pass.truncated :=
    Pass.truncated_consumeSubtree
  rw [renderScript]
  split
  · exact ⟨fun _ => rfl, hcut⟩
  · dsimp only
    split
    · exact ⟨fun _ => rfl, hcut⟩
    · exact ⟨fun _ => rfl, hcut⟩

/-- The text that gives up its first word stands right after the element. -/
theorem nextSibling?_of_succeeded {next : NodeId} {word rest : List Char}
    (hg : glue store pass id = .succeeded next word rest) : store.nextSibling? id = some next := by
  rw [glue] at hg
  split at hg
  · cases hg
  · rename_i other ho
    split at hg
    · cases hg
    · split at hg
      · cases hg
      · split at hg
        · cases hg
        · cases hg
          exact ho

/-- The text that a body writes at once is not cut. -/
theorem truncated_bodyCourse {name : String} {finish : List Char → List Char} :
    (bodyCourse store erb id name level pass finish).pass.truncated = pass.truncated := by
  rw [bodyCourse]
  split <;> rfl

/-- Splicing cuts no text. -/
theorem truncated_spliceMarkers {ids : List NodeId} :
    (spliceMarkers store pass ids).2.truncated = pass.truncated := by
  induction ids using markerRun.induct store generalizing pass with
  | case1 => rfl
  | case2 marker hm =>
    rw [spliceMarkers, if_pos hm]
    exact Pass.truncated_consumeSubtree
  | case3 marker hm => rw [spliceMarkers, if_neg hm]
  | case4 marker following rest hm hf ih =>
    rw [spliceMarkers_text hm hf]
    exact ih.trans Pass.truncated_consumeSubtree
  | case5 marker following rest hm hf ih =>
    rw [spliceMarkers_script hm hf]
    exact ih.trans Pass.truncated_consumeSubtree
  | case6 marker following rest hm => rw [spliceMarkers, if_neg hm]

/-- Writing a text cuts none. -/
theorem truncated_renderText {escapeSpecial : Bool} :
    (renderText store erb id level escapeSpecial pass).2.truncated = pass.truncated := by
  rw [renderText]
  split
  · rfl
  · dsimp only
    split
    · rfl
    · split
      · rfl
      · split
        · exact truncated_spliceMarkers
        · rfl

/-- A node cuts no text but the one right after it. -/
theorem lookup_course (hn : store.nextSibling? id ≠ some n) :
    (course store options id level pass).pass.truncated.lookup n = pass.truncated.lookup n := by
  rw [course]
  split
  · rfl
  · rename_i leaf _
    cases leaf with
    | text content => exact congrArg (List.lookup n) truncated_renderText
    | comment _ | cdata _ | doctype _ _ _ | instruction _ => rfl
  · rename_i name attributes selfClosing _
    rw [elementCourse]
    split
    · rfl
    · split
      · exact congrArg (List.lookup n) Pass.truncated_consumeSubtree
      · split
        · rfl
        · split
          · exact congrArg (List.lookup n) renderScript_frame.2
          · rw [tagCourse]
            cases hg : glue store (pass.consume id) id with
            | loose => exact congrArg (List.lookup n) truncated_bodyCourse
            | nuked => exact congrArg (List.lookup n) truncated_bodyCourse
            | succeeded next word rest =>
              apply (congrArg (List.lookup n) truncated_bodyCourse).trans
              have hne : n ≠ next := fun he => hn (he ▸ nextSibling?_of_succeeded hg)
              exact Pass.lookup_truncate_of_ne hne
  · rfl
  · rfl

/-- Nothing is left to do at a text or an element that is done. -/
theorem course_of_isConsumed (hcheck : isChecked store id = true)
    (hc : pass.isConsumed id = true) :
    course store options id level pass = .answered (.ok []) pass := by
  rw [course]
  cases hd : store.data? id with
  | none => rfl
  | some data =>
    cases data with
    | leaf leaf =>
      cases leaf with
      | text content => simp only [leafResult, renderText, hc, if_true]
      | comment _ | cdata _ | doctype _ _ _ | instruction _ =>
        simp [isChecked, Store.isText, Store.text?_eq, Store.elementName?, hd] at hcheck
    | branch kind =>
      cases kind with
      | document | fragment =>
        simp [isChecked, Store.isText, Store.text?_eq, Store.elementName?, hd] at hcheck
      | element name attributes selfClosing => simp only [elementCourse, hc, if_true]

end Cuts

section Rows

variable {parent : NodeId} {ids : List NodeId} {text : List Char}

/-- A row that succeeds has succeeded at its first node and at the others. -/
theorem rowResult_cons_ok {rest : List NodeId}
    (hr : rowResult store options depth (id :: rest) level pass = (.ok text, pass')) :
    ∃ first mid more, (renderNode store options depth id level).result pass = (.ok first, mid) ∧
      rowResult store options depth rest level mid = (.ok more, pass') ∧ text = first ++ more := by
  rw [rowResult_cons] at hr
  rcases hn : (renderNode store options depth id level).result pass with ⟨failure | first, mid⟩
  · rw [hn] at hr
    cases hr
  · rw [hn] at hr
    rcases hm : rowResult store options depth rest level mid with ⟨failure | more, last⟩
    · simp [Result.next, Result.finish, hm, Except.map] at hr
    · simp only [Result.next, Result.finish, hm, Except.map, Prod.mk.injEq, Except.ok.injEq] at hr
      obtain ⟨rfl, rfl⟩ := hr
      exact ⟨first, mid, more, rfl, hm, rfl⟩

/-- Writing one child leaves what is done within its siblings done with all below it. -/
theorem NodeFrame.doneBelow {mid : Pass} {other : NodeId}
    (hf : NodeFrame store erb id pass mid pass')
    (hd : DoneBelow store pass other) : DoneBelow store pass' other := by
  intro n hn hc m hm
  rw [hf.consumed] at hc ⊢
  rcases hc with hc | hw | ⟨herb, htext, hfresh, hblank, top, htop, hw⟩
  · exact Or.inl (hd n hn hc m hm)
  · exact Or.inr (Or.inl (hm.trans hw))
  · exact Or.inr (Or.inr ⟨herb, htext, hfresh, hblank, top, htop, hm.trans hw⟩)

/-- The row of scripts is one of the siblings it begins. -/
theorem mem_of_mem_markerRun {ids : List NodeId} (hn : n ∈ markerRun store ids) : n ∈ ids := by
  induction ids using markerRun.induct store with
  | case1 => simp [markerRun] at hn
  | case2 marker hm => simpa [markerRun, hm] using hn
  | case3 marker hm => simp [markerRun, hm] at hn
  | case4 marker following rest hm hf ih =>
    simp only [markerRun, hm, hf, if_true, List.mem_cons] at hn ⊢
    exact hn.imp_right (Or.imp_right ih)
  | case5 marker following rest hm hf ih =>
    rw [markerRun, if_pos hm, if_neg hf, List.mem_cons] at hn
    exact List.mem_cons.2 (hn.imp_right ih)
  | case6 marker following rest hm => simp [markerRun, hm] at hn

/-- A row of children does them all, if every child does what it should. -/
theorem rowFrame_of_nodes (h : store.Forest)
    (hnode : ∀ {id pass text pass'}, id < store.size → DoneBelow store pass id →
      (renderNode store options depth id level).result pass = (.ok text, pass') →
        NodeFrame store options.erb id pass (course store options id level pass).pass pass') :
    ∀ {ids before : List NodeId} {pass : Pass} {text : List Char},
      store.children parent = before ++ ids → (∀ id ∈ ids, DoneBelow store pass id) →
      rowResult store options depth ids level pass = (.ok text, pass') →
        RowFrame store ids pass pass' := by
  intro ids
  induction ids with
  | nil =>
    intro before pass text _ _ hr
    rw [rowResult_nil, Prod.mk.injEq] at hr
    obtain ⟨-, rfl⟩ := hr
    exact ⟨by simp, fun _ _ => rfl⟩
  | cons id rest ih =>
    intro before pass text hk hd hr
    obtain ⟨first, mid, more, hfirst, hrest, -⟩ := rowResult_cons_ok hr
    have hm : id ∈ store.children parent := by rw [hk]; simp
    have hf := hnode (h.consistent.lt_size hm) (hd id List.mem_cons_self) hfirst
    have hcut : store.children parent = (before ++ [id]) ++ rest := by simpa using hk
    have hrow := ih hcut
      (fun other ho => hf.doneBelow (hd other (List.mem_cons_of_mem _ ho))) hrest
    have hside := siblings_of_children h.consistent hk
    constructor
    · intro n
      rw [hrow.consumed, hf.consumed]
      simp only [List.mem_cons, exists_eq_or_imp]
      have hsplice : Splices store options.erb pass id n →
          ∃ other ∈ rest, store.Within n other := by
        rintro ⟨-, -, -, -, top, htop, hw⟩
        rw [hside.2.2] at htop
        exact ⟨top, mem_of_mem_markerRun htop, hw⟩
      rw [or_assoc, or_assoc]
      refine or_congr_right (or_congr_right ?_)
      exact ⟨fun ho => ho.elim hsplice fun hm => hm, Or.inr⟩
    · intro n hn
      rw [hrow.truncated n fun other ho => hn other (List.mem_cons_of_mem _ ho)]
      rw [hf.truncated n fun hw => absurd hw (hn id List.mem_cons_self)]
      apply lookup_course
      intro he
      rw [hside.2.1] at he
      exact hn n (List.mem_cons_of_mem _ (List.mem_of_head? he)) .refl

end Rows

section Nodes

variable {text : List Char} {name : String} {attributes : List Attribute} {selfClosing : Bool}

/-- A body says what the children of its element are. -/
def Body.Fits (store : Store) (erb : Bool) (pass : Pass) (id : NodeId) (name : String) :
    Body → Prop
  | .inline child => store.children id = [child] ∧ store.isText child = true ∧
      (pass.textOf? store child).any (!hasLineFeed ·) = true
  | .preserved child => store.children id = [child] ∧ store.isText child = true ∧
      (pass.textOf? store child).any (!hasLineFeed ·) = false ∧ preservesSpace store id name = true
  | .script child => store.children id = [child] ∧ store.isText child = false ∧
      (erb && store.isElementNamed child "loud") = true
  | .block children => store.children id = children

/-- The body of an element fits it. -/
theorem bodyOf_fits (store : Store) (erb : Bool) (pass : Pass) (id : NodeId) (name : String) :
    (bodyOf store erb pass id name).Fits store erb pass id name := by
  rw [bodyOf]
  split
  · rename_i child hk
    by_cases ht : store.isText child = true
    · rw [if_pos ht]
      by_cases hl : (pass.textOf? store child).any (!hasLineFeed ·) = true
      · rw [if_pos hl]
        exact ⟨hk, ht, hl⟩
      · rw [if_neg hl]
        by_cases hp : preservesSpace store id name = true
        · rw [if_pos hp]
          exact ⟨hk, ht, by simpa using hl, hp⟩
        · rw [if_neg hp]
          exact hk
    · rw [if_neg ht]
      by_cases hs : (erb && store.isElementNamed child "loud") = true
      · rw [if_pos hs]
        exact ⟨hk, by simpa using ht, hs⟩
      · rw [if_neg hs]
        exact hk
  · rfl

/-- A course that only has text around a row succeeds with the row. -/
theorem finish_ok {result : Result} {f : List Char → List Char}
    (hr : result.finish f = (.ok text, pass')) :
    ∃ inner, result = (.ok inner, pass') ∧ text = f inner := by
  rcases result with ⟨failure | inner, last⟩
  · cases hr
  · simp only [Result.finish, Except.map, Prod.mk.injEq, Except.ok.injEq] at hr
    obtain ⟨rfl, rfl⟩ := hr
    exact ⟨inner, rfl, rfl⟩

/-- A node has done itself and no other one. -/
def Entered (id : NodeId) (pass mid : Pass) : Prop :=
  ∀ n, mid.isConsumed n = true ↔ n = id ∨ pass.isConsumed n = true

/-- A course that is entered as it should be: it goes on with the children of a node that has done
itself, or has done all that the node does. -/
def Course.Fits (store : Store) (erb : Bool) (id : NodeId) (pass : Pass) : Course → Prop
  | .answered answer mid => ∀ text, answer = .ok text → NodeFrame store erb id pass mid mid
  | .inline child _ mid _ => Entered id pass mid ∧ store.isText id = false ∧
      store.children id = [child] ∧ store.isText child = true
  | .row children _ mid _ => Entered id pass mid ∧ store.isText id = false ∧
      store.children id = children

/-- A node does itself. -/
theorem entered_consume : Entered id pass (pass.consume id) :=
  fun _ => Pass.isConsumed_consume

/-- A node that did itself first and then its children did what is within it. -/
theorem Entered.node {mid : Pass} (he : Entered id pass mid) (h : store.Consistent)
    (ht : store.isText id = false) (hrow : RowFrame store (store.children id) mid pass') :
    NodeFrame store erb id pass mid pass' := by
  constructor
  · intro n
    rw [hrow.consumed, he n, Store.within_iff _ id]
    simp [Splices, ht, or_assoc, or_left_comm]
  · intro n hn
    apply hrow.truncated n
    intro child hc hw
    have hself := hn (hw.tail hc)
    exact h.not_within hc (hself ▸ hw)

/-- A node that did all within it at once. -/
theorem nodeFrame_of_within (ht : store.isText id = false)
    (hc : ∀ n, pass'.isConsumed n = true ↔ store.Within n id ∨ pass.isConsumed n = true) :
    NodeFrame store erb id pass pass' pass' := by
  refine ⟨fun n => ?_, fun n _ => rfl⟩
  rw [hc]
  simp [Splices, ht, or_comm]

/-- What is done within the children of a node that has done itself is done with all below it. -/
theorem Entered.doneBelow {mid : Pass} {child : NodeId} (he : Entered id pass mid)
    (h : store.Consistent) (hd : DoneBelow store pass id) (hc : child ∈ store.children id) :
    DoneBelow store mid child := by
  intro n hn hcons m hm
  rw [he] at hcons ⊢
  rcases hcons with rfl | hcons
  · exact absurd hn (h.not_within hc)
  · exact Or.inr (hd n (hn.tail hc) hcons m hm)

/-- A text that is the only child does what a row of it should. -/
theorem rowFrame_of_onlyText {child : NodeId} {escapeSpecial : Bool} (h : store.Forest)
    (hk : store.children id = [child]) (ht : store.isText child = true) :
    RowFrame store (store.children id) pass
      (renderText store erb child level escapeSpecial pass).2 := by
  obtain ⟨content, hc⟩ := isText_iff.1 ht
  have hcut : store.children id = [] ++ child :: [] := hk
  have hside := siblings_of_children h.consistent hcut
  have hf := isConsumed_renderText h ht erb level escapeSpecial pass
  refine ⟨fun n => ?_, fun n _ => by rw [truncated_renderText]⟩
  have hsplice : ¬ Splices store erb pass child n := by
    rintro ⟨-, -, -, -, top, htop, -⟩
    rw [hside.2.2] at htop
    exact absurd htop List.not_mem_nil
  rw [hf n, hk]
  simp [hsplice, Store.within_of_children_eq_nil (h.bare hc)]

/-- The course of the content of an element fits. -/
theorem bodyCourse_fits (h : store.Forest) {mid : Pass} {finish : List Char → List Char}
    (he : Entered id pass mid) (ht : store.isText id = false) :
    (bodyCourse store erb id name level mid finish).Fits store erb id pass := by
  have hbody := bodyOf_fits store erb mid id name
  rw [bodyCourse]
  cases hb : bodyOf store erb mid id name with
  | inline child =>
    rw [hb] at hbody
    exact ⟨he, ht, hbody.1, hbody.2.1⟩
  | preserved child =>
    rw [hb] at hbody
    obtain ⟨hk, htext, -⟩ := hbody
    obtain ⟨content, hc⟩ := isText_iff.1 htext
    intro _ _
    apply nodeFrame_of_within ht
    intro n
    rw [Pass.isConsumed_consume, he n, Store.within_iff _ id, hk]
    simp [Store.within_of_children_eq_nil (h.bare hc), or_assoc, or_left_comm]
  | script child =>
    rw [hb] at hbody
    exact ⟨he, ht, hbody.1⟩
  | block children =>
    rw [hb] at hbody
    exact ⟨he, ht, hbody⟩

/-- A leaf that is written does what it should. -/
theorem leafResult_frame (h : store.Forest) {leaf : Leaf}
    (hdata : store.data? id = some (.leaf leaf))
    (hr : leafResult store erb id level pass leaf = (.ok text, pass')) :
    NodeFrame store erb id pass pass' pass' := by
  have hwithin : ∀ n, store.Within n id ↔ n = id := fun n =>
    Store.within_of_children_eq_nil (h.bare hdata)
  have hdone : store.isText id = false → pass' = pass.consume id →
      NodeFrame store erb id pass pass' pass' := by
    rintro ht rfl
    exact nodeFrame_of_within ht fun n => by rw [hwithin, Pass.isConsumed_consume]
  cases leaf with
  | text content =>
    have ht : store.isText id = true := isText_iff.2 ⟨content, hdata⟩
    have hf := isConsumed_renderText h ht erb level true pass
    simp only [leafResult, Prod.mk.injEq] at hr
    obtain ⟨-, rfl⟩ := hr
    refine ⟨fun n => ?_, fun n _ => rfl⟩
    rw [hf n, hwithin]
  | comment content =>
    exact hdone (by simp [Store.isText, Store.text?_eq, hdata]) (by cases hr; rfl)
  | cdata content => exact hdone (by simp [Store.isText, Store.text?_eq, hdata]) (by cases hr; rfl)
  | instruction content =>
    exact hdone (by simp [Store.isText, Store.text?_eq, hdata]) (by cases hr; rfl)
  | doctype docName externalId systemId =>
    refine hdone (by simp [Store.isText, Store.text?_eq, hdata]) ?_
    simp only [leafResult, Prod.mk.injEq] at hr
    exact hr.2.symm

/-- The course of an element with a header fits. -/
theorem tagCourse_fits (h : store.Forest) {mid : Pass} (he : Entered id pass mid)
    (ht : store.isText id = false) :
    (tagCourse store options id name attributes selfClosing level mid).Fits store options.erb id
      pass := by
  rw [tagCourse]
  cases glue store mid id with
  | loose => exact bodyCourse_fits h he ht
  | nuked => exact bodyCourse_fits h he ht
  | succeeded next word rest => exact bodyCourse_fits h he ht

/-- The course of an element fits. -/
theorem elementCourse_fits (h : store.Forest) (hd : DoneBelow store pass id)
    (ht : store.isText id = false) :
    (elementCourse store options id name attributes selfClosing level pass).Fits store options.erb
      id pass := by
  have he : Entered id pass (pass.consume id) := entered_consume
  have hall : ∀ {mid : Pass}, Entered id pass mid → ∀ n,
      (mid.consumeSubtree store id).isConsumed n = true ↔
        store.Within n id ∨ pass.isConsumed n = true := by
    intro mid hmid n
    rw [Pass.isConsumed_consumeSubtree h.consistent, hmid n,
      Store.within_iff _ id]
    simp [or_left_comm, or_assoc]
  rw [elementCourse]
  by_cases hc : pass.isConsumed id = true
  · rw [if_pos hc]
    intro _ _
    apply nodeFrame_of_within ht
    intro n
    exact ⟨Or.inr, fun ho => ho.elim (hd id .refl hc n) fun hn => hn⟩
  · rw [if_neg hc]
    cases Filter.forElement? name attributes with
    | some filter =>
      intro _ _
      exact nodeFrame_of_within ht (hall he)
    | none =>
      dsimp only
      split
      · exact ⟨he, ht, rfl⟩
      · split
        · intro _ _
          apply nodeFrame_of_within ht
          intro n
          rw [renderScript_frame.1, hall he]
        · exact tagCourse_fits h he ht

/-- **The course of a node fits.** -/
theorem course_fits (h : store.Forest) (hi : id < store.size) (hd : DoneBelow store pass id)
    (options : Options) (level : Nat) :
    (course store options id level pass).Fits store options.erb id pass := by
  obtain ⟨node, hnode⟩ : ∃ node, store.node? (some id) = some node :=
    ⟨store.nodes[id], Array.getElem?_eq_getElem hi⟩
  have hdata : store.data? id = some node.data := by rw [Store.data?, hnode]; rfl
  have ht : ∀ {kind}, node.data = .branch kind → store.isText id = false := by
    intro kind hk
    rw [Store.isText, Store.text?_eq, hdata, hk]
    rfl
  rw [course]
  cases hn : node.data with
  | leaf leaf =>
    rw [hn] at hdata
    rw [hdata]
    intro text htext
    exact leafResult_frame h hdata (Prod.ext htext rfl)
  | branch kind =>
    rw [hn] at hdata
    rw [hdata]
    cases kind with
    | document => exact ⟨entered_consume, ht hn, rfl⟩
    | fragment => exact ⟨entered_consume, ht hn, rfl⟩
    | element name attributes selfClosing => exact elementCourse_fits h hd (ht hn)

/-- **A node that is written marks itself, everything below it and the scripts it draws into its
lines, and nothing else.** -/
theorem renderNode_frame (h : store.Forest) :
    ∀ {depth : Nat} {id : NodeId} {level : Nat} {pass pass' : Pass} {text : List Char},
      id < store.size → DoneBelow store pass id →
      (renderNode store options depth id level).result pass = (.ok text, pass') →
        NodeFrame store options.erb id pass (course store options id level pass).pass pass' := by
  intro depth
  induction depth with
  | zero =>
    intro id level pass pass' text _ _ hr
    cases hr
  | succ depth ih =>
    intro id level pass pass' text hi hd hr
    have hfits := course_fits h hi hd options level
    rw [renderNode_result] at hr
    cases hc : course store options id level pass with
    | answered answer mid =>
      rw [hc] at hfits hr
      cases hr
      exact hfits text rfl
    | inline child level mid finish =>
      rw [hc] at hfits hr
      obtain ⟨he, ht, hk, htext⟩ := hfits
      cases hr
      exact he.node h.consistent ht (rowFrame_of_onlyText h hk htext)
    | row children level mid finish =>
      rw [hc] at hfits hr
      obtain ⟨he, ht, rfl⟩ := hfits
      obtain ⟨inner, hin, -⟩ := finish_ok hr
      have hcut : store.children id = [] ++ store.children id := rfl
      refine he.node h.consistent ht (rowFrame_of_nodes h ih hcut ?_ hin)
      exact fun _ hm => he.doneBelow h.consistent hd hm

end Nodes

end HtmlToHaml.Haml
