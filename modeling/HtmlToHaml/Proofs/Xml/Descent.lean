import HtmlToHaml.Proofs.Xml.Balance
import Mathlib.Data.List.TakeWhile

/-!
# Reading a row is reading the balanced row

A builder takes the events of a row as they come. Inside its open elements it joins to the innermost
one the trees that recursive descent reads from the balanced row, and then goes on outside that
element. By induction on the row the tree of a whole row is the one that is built out of the trees
of the balanced row; these are tidy, so the tree is regular.
-/

namespace HtmlToHaml.Xml

open DocTree Store

/-- An identifier that is present is not empty. -/
theorem presentId_presentId (id : Option String) : presentId (presentId id) = presentId id := by
  rw [presentId, presentId, Option.filter_filter]
  simp

/-- The document type of a declaration is as a tree holds it. -/
theorem normal_doctypeLeaf (content : List Char) :
    (doctypeLeaf content).normal = doctypeLeaf content := by
  simp only [doctypeLeaf, Leaf.normal, presentId_presentId]

variable {b : Builder} {event : Event} {events rest more : List Event} {name : List Char}
  {names : List (List Char)} {tag : Tag} {tree : Shape} {trees : List Shape} {store : Store}

/-- A tree of its own that comes out of an event is tidy. -/
theorem Event.tidy_of_role (hr : event.role = .piece tree) : tree.Every Shape.Tidy := by
  cases event with
  | start tag => cases hr
  | close name => cases hr
  | empty tag =>
    cases hr
    exact ⟨⟨fun _ => rfl, .nil⟩, trivial⟩
  | doctype content =>
    cases hr
    exact normal_doctypeLeaf content
  | text content | reference name | cdata content | comment content | declaration content
  | instruction content =>
    cases hr
    rfl

namespace Builder

/-- An event that is a tree of its own is joined to the parent's children. -/
theorem step_of_piece (hr : event.role = .piece tree) :
    b.step event = { b with store := tree.joinTo b.parent b.store } := by
  cases event with
  | start tag => cases hr
  | close name => cases hr
  | doctype content =>
    cases hr
    rw [Shape.joinTo_eq_addTo, addTo_leaf, normal_doctypeLeaf]
    · rfl
    · rfl
  | empty tag | text content | reference name | cdata content | comment content
  | declaration content | instruction content =>
    cases hr
    rfl

/-- An end tag closes the innermost open element of its name. -/
theorem step_of_closes (hr : event.role = .closes name) :
    b.step event = b.close (String.ofList name) := by
  cases event with
  | close name =>
    cases hr
    rfl
  | start _ | empty _ | text _ | reference _ | cdata _ | comment _ | declaration _ | instruction _
  | doctype _ => cases hr

/-- A start tag of a void element is joined as an element that closes itself. -/
theorem step_of_void (hr : event.role = .opens tag)
    (hv : isVoidElement (String.ofList tag.name) = true) :
    b.step event =
      { b with store := (Shape.branch (tag.element true) []).joinTo b.parent b.store } := by
  cases event with
  | start tag =>
    cases hr
    rw [step, addElement]
    simp only [hv, if_true]
    rfl
  | close _ | empty _ | text _ | reference _ | cdata _ | comment _ | declaration _ | instruction _
  | doctype _ => cases hr

/-- Any other start tag adds an element and opens it. -/
theorem step_of_opens (hr : event.role = .opens tag)
    (hv : isVoidElement (String.ofList tag.name) = false) :
    b.step event =
      { b with
        store := (b.store.create (.branch (tag.element false))).1.append b.parent b.store.size
        openElements := b.store.size :: b.openElements } := by
  cases event with
  | start tag =>
    cases hr
    rw [step, addElement]
    simp only [hv, Bool.false_eq_true, if_false]
    rfl
  | close _ | empty _ | text _ | reference _ | cdata _ | comment _ | declaration _ | instruction _
  | doctype _ => cases hr

/-- What end tags closed nothing makes no difference to the tree. -/
theorem store_run_congr {b' : Builder} (hs : b.store = b'.store)
    (ho : b.openElements = b'.openElements) : (b.run events).store = (b'.run events).store := by
  induction events generalizing b b' with
  | nil => exact hs
  | cons event rest ih =>
    obtain ⟨store, openElements, stray⟩ := b
    obtain ⟨store', openElements', stray'⟩ := b'
    obtain rfl : store = store' := hs
    obtain rfl : openElements = openElements' := ho
    have hstep : (step ⟨store, openElements, stray⟩ event).store =
          (step ⟨store, openElements, stray'⟩ event).store ∧
        (step ⟨store, openElements, stray⟩ event).openElements =
          (step ⟨store, openElements, stray'⟩ event).openElements := by
      cases hr : event.role with
      | piece tree =>
        rw [step_of_piece hr, step_of_piece hr]
        exact ⟨rfl, rfl⟩
      | closes name =>
        rw [step_of_closes hr, step_of_closes hr, close, close]
        dsimp only
        split <;> exact ⟨rfl, rfl⟩
      | opens tag =>
        cases hv : isVoidElement (String.ofList tag.name) with
        | true =>
          rw [step_of_void hr hv, step_of_void hr hv]
          exact ⟨rfl, rfl⟩
        | false =>
          rw [step_of_opens hr hv, step_of_opens hr hv]
          exact ⟨rfl, rfl⟩
    exact ih hstep.1 hstep.2

/-- The tree is a forest, its root may hold others, and the open elements have given names. -/
structure Opens (b : Builder) (names : List (List Char)) : Prop where
  /-- The tree is a forest. -/
  forest : b.store.Forest
  /-- The root may hold others. -/
  root : ∃ kind, b.store.data? b.store.root = some (.branch kind)
  /-- The open elements have the names. -/
  named : List.Forall₂ (fun id name => b.store.elementName? id = some (String.ofList name))
    b.openElements names

/-- A node with a name is an element. -/
theorem exists_element {id : NodeId} {name : String} (h : store.elementName? id = some name) :
    ∃ attributes selfClosing, store.data? id = some (.element name attributes selfClosing) := by
  rw [elementName?] at h
  split at h
  · rename_i found attributes selfClosing hd
    cases h
    exact ⟨attributes, selfClosing, hd⟩
  · cases h

/-- The parent of the next node may hold others. -/
theorem Opens.parent (h : b.Opens names) :
    ∃ kind, b.store.data? b.parent = some (.branch kind) := by
  have hnamed := h.named
  rw [Builder.parent]
  cases ho : b.openElements with
  | nil => exact h.root
  | cons id outer =>
    rw [ho, List.forall₂_cons_left_iff] at hnamed
    obtain ⟨name, _, hid, -⟩ := hnamed
    obtain ⟨attributes, selfClosing, hd⟩ := exists_element hid
    exact ⟨_, hd⟩

/-- The open elements keep their names as long as the branches are kept. -/
theorem Opens.of_kept (h : b.Opens names) (hk : Kept b.store store) :
    Opens { b with store } names where
  forest := hk.forest
  root := by
    obtain ⟨kind, hd⟩ := h.root
    exact ⟨kind, hk.root ▸ hk.branch hd⟩
  named := h.named.imp fun id name hid => by
    obtain ⟨attributes, selfClosing, hd⟩ := exists_element hid
    rw [elementName?, hk.branch hd]

/-- Outside the innermost open element the others are open. -/
theorem Opens.tail (h : b.Opens names) :
    Opens { b with openElements := b.openElements.tail } names.tail :=
  ⟨h.forest, h.root, by simpa using List.forall₂_drop 1 h.named⟩

/-- A new element is open with its name. -/
theorem Opens.opened (h : b.Opens names) (hr : event.role = .opens tag)
    (hv : isVoidElement (String.ofList tag.name) = false) :
    (b.step event).Opens (tag.name :: names) := by
  obtain ⟨kind, hp⟩ := h.parent
  obtain ⟨hg, hd, -⟩ := h.forest.append_create hp (.branch (tag.element false))
  have hkept := h.of_kept hg.kept
  rw [step_of_opens hr hv]
  refine ⟨hkept.forest, hkept.root, .cons ?_ hkept.named⟩
  rw [elementName?, hd]
  rfl

/-- From the innermost open element of a name on, the open elements have the names from there on. -/
theorem forall₂_dropWhile {ids : List NodeId}
    (h : List.Forall₂ (fun id name => store.elementName? id = some (String.ofList name)) ids names)
    (name : List Char) :
    List.Forall₂ (fun id name => store.elementName? id = some (String.ofList name))
      (ids.dropWhile (!store.isElementNamed · (String.ofList name)))
        (names.dropWhile (· ≠ name)) := by
  induction h with
  | nil => exact .nil
  | @cons id other ids names hid hrest ih =>
    have htest : store.isElementNamed id (String.ofList name) = decide (other = name) := by
      rw [isElementNamed, hid, Bool.eq_iff_iff]
      simp [String.ofList_inj]
    rw [List.dropWhile_cons, List.dropWhile_cons, htest]
    by_cases he : other = name
    · simpa [he] using And.intro (he ▸ hid) hrest
    · simpa [he] using ih

/-- The innermost open element has the first of the names. -/
theorem Opens.exists_cons (h : b.Opens (name :: names)) : ∃ id outer,
    b.openElements = id :: outer ∧ b.store.elementName? id = some (String.ofList name) := by
  have hnamed := h.named
  rw [List.forall₂_cons_right_iff] at hnamed
  obtain ⟨id, outer, hid, -, ho⟩ := hnamed
  exact ⟨id, outer, ho, hid⟩

/-- The end tag of the innermost open element closes it. -/
theorem Opens.close_self (h : b.Opens (name :: names)) :
    b.close (String.ofList name) = { b with openElements := b.openElements.tail } := by
  obtain ⟨id, outer, ho, hid⟩ := h.exists_cons
  have htest : (!b.store.isElementNamed id (String.ofList name)) = false := by
    rw [isElementNamed, hid, beq_self_eq_true, Bool.not_true]
  rw [close, ho, List.dropWhile_cons, htest]
  rfl

/-- An end tag of an element further out closes the innermost open element as well. -/
theorem Opens.close_outer {other : List Char} (h : b.Opens (other :: names)) (hne : other ≠ name)
    (hm : name ∈ names) : b.close (String.ofList name) =
      close { b with openElements := b.openElements.tail } (String.ofList name) := by
  obtain ⟨id, outer, ho, hid⟩ := h.exists_cons
  have htest : (!b.store.isElementNamed id (String.ofList name)) = true := by
    rw [isElementNamed, hid]
    simpa [String.ofList_inj] using hne
  have hdrop := forall₂_dropWhile h.tail.named name
  obtain ⟨first, further, hnames⟩ : ∃ first further,
      names.dropWhile (· ≠ name) = first :: further := by
    rw [← List.ne_nil_iff_exists_cons, ne_eq, List.dropWhile_eq_nil_iff]
    exact fun hall => by simpa using hall name hm
  rw [List.tail_cons, hnames, List.forall₂_cons_right_iff, ho, List.tail_cons] at hdrop
  obtain ⟨top, ids, -, -, hids⟩ := hdrop
  rw [close, close, ho, List.dropWhile_cons, htest, List.tail_cons, if_pos rfl, hids]

/-- An end tag of no open element changes nothing but the list of such tags. -/
theorem Opens.close_of_not_mem (h : b.Opens names) (hm : name ∉ names) :
    b.close (String.ofList name) = { b with stray := b.stray.push (String.ofList name) } := by
  have hdrop := forall₂_dropWhile h.named name
  have hnames : names.dropWhile (· ≠ name) = [] := by
    rw [List.dropWhile_eq_nil_iff]
    intro other ho
    simpa using fun he : other = name => hm (he ▸ ho)
  rw [hnames, List.forall₂_nil_right_iff] at hdrop
  rw [close, hdrop]

/-- The builder outside its innermost open element, with some more trees in that element. -/
def leave (b : Builder) (trees : List Shape) : Builder :=
  { b with
    store := Shape.joinAllTo b.parent b.store trees
    openElements := b.openElements.tail }

/-- A builder takes a row up to the end of its innermost open element, or as a whole if none is
open: recursive descent reads some tidy trees from the balanced row, and the builder joins those and
goes on outside the element with what is left. -/
structure Takes (b : Builder) (names : List (List Char)) (events : List Event) (trees : List Shape)
    (more : List Event) : Prop where
  /-- Recursive descent reads the trees and leaves what the rest comes to outside the element. -/
  reads : Reads names.head? (balanced names events) trees (balanced names.tail more)
  /-- The rest is no longer. -/
  length_le : more.length ≤ events.length
  /-- Outside all elements nothing is left. -/
  ended : names = [] → more = []
  /-- No two texts stand side by side. -/
  apart : Shape.Apart trees
  /-- The trees are tidy. -/
  tidy : Shape.AllEvery Shape.Tidy trees
  /-- The builder joins the trees and goes on outside the element. -/
  store : (b.run events).store = ((b.leave trees).run more).store

/-- The end of the row ends everything. -/
theorem takes_nil : b.Takes names [] [] [] where
  reads := by
    cases names with
    | nil => exact .nil
    | cons name outer => exact .closed rfl
  length_le := le_rfl
  ended _ := rfl
  apart := .nil
  tidy := trivial
  store := rfl

/-- The end tag of the innermost open element ends it. -/
theorem takes_closes (h : b.Opens (name :: names)) (hr : event.role = .closes name) :
    b.Takes (name :: names) (event :: rest) [] rest where
  reads := by
    rw [balanced, hr]
    simpa using Reads.closed hr
  length_le := Nat.le_succ _
  ended he := by cases he
  apart := .nil
  tidy := trivial
  store := by
    rw [run, List.foldl_cons, step_of_closes hr, h.close_self]
    rfl

/-- In a balanced row the innermost open element is closed before one further out. -/
theorem balanced_outer {other : List Char} (hr : event.role = .closes name) (hne : other ≠ name)
    (hm : name ∈ names) :
    balanced (other :: names) (event :: rest) = .close other :: balanced names (event :: rest) := by
  rw [balanced, balanced, hr]
  simp [hne, hm]

/-- The end tag of an element further out ends the innermost one before it is looked at again. -/
theorem takes_closes_outer {other : List Char} (h : b.Opens (other :: names))
    (hr : event.role = .closes name) (hne : other ≠ name) (hm : name ∈ names) :
    b.Takes (other :: names) (event :: rest) [] (event :: rest) where
  reads := by
    rw [balanced_outer hr hne hm]
    exact .closed rfl
  length_le := le_rfl
  ended he := by cases he
  apart := .nil
  tidy := trivial
  store := by
    rw [run, run, List.foldl_cons, List.foldl_cons, step_of_closes hr, step_of_closes hr,
      h.close_outer hne hm]
    rfl

/-- An end tag of no open element is left out. -/
theorem takes_stray (h : b.Opens names) (hr : event.role = .closes name) (hm : name ∉ names)
    (ht : Takes { b with stray := b.stray.push (String.ofList name) } names rest trees more) :
    b.Takes names (event :: rest) trees more where
  reads := by
    rw [balanced, hr]
    simpa [hm] using ht.reads
  length_le := ht.length_le.trans (Nat.le_succ _)
  ended := ht.ended
  apart := ht.apart
  tidy := ht.tidy
  store := by
    rw [run, List.foldl_cons, step_of_closes hr, h.close_of_not_mem hm]
    exact ht.store.trans (store_run_congr rfl rfl)

/-- Trees that are joined behind another one are joined with that one before them. -/
theorem Opens.leave_before (h : b.Opens names) (tree : Shape) (trees : List Shape) :
    Builder.leave { b with store := tree.joinTo b.parent b.store } trees =
      b.leave (tree.before trees) := by
  obtain ⟨kind, hp⟩ := h.parent
  have hparent : Builder.parent { b with store := tree.joinTo b.parent b.store } = b.parent :=
    congrArg b.openElements.headD (h.forest.kept_joinTo hp tree).root
  rw [leave, leave, hparent, h.forest.joinAllTo_before hp]

/-- A tree of its own is joined before what is taken after it. -/
theorem takes_piece (h : b.Opens names) (hr : event.role = .piece tree)
    (ht : Takes { b with store := tree.joinTo b.parent b.store } names rest trees more) :
    b.Takes names (event :: rest) (tree.before trees) more where
  reads := by
    rw [balanced, hr]
    exact .piece hr ht.reads
  length_le := ht.length_le.trans (Nat.le_succ _)
  ended := ht.ended
  apart := ht.apart.before tree
  tidy := ht.tidy.before (Event.tidy_of_role hr)
  store := by
    rw [run, List.foldl_cons, step_of_piece hr, ← h.leave_before]
    exact ht.store

/-- A void element is a tree of its own. -/
theorem takes_void (h : b.Opens names) (hr : event.role = .opens tag)
    (hv : isVoidElement (String.ofList tag.name) = true)
    (ht : Takes { b with store := (Shape.branch (tag.element true) []).joinTo b.parent b.store }
      names rest trees more) :
    b.Takes names (event :: rest) ((Shape.branch (tag.element true) []).before trees) more where
  reads := by
    rw [balanced, hr]
    have hempty : (Event.empty tag).role = .piece (.branch (tag.element true) []) := rfl
    simpa [hv] using Reads.piece hempty ht.reads
  length_le := ht.length_le.trans (Nat.le_succ _)
  ended := ht.ended
  apart := ht.apart.before _
  tidy := ⟨⟨⟨fun _ => rfl, .nil⟩, trivial⟩, ht.tidy⟩
  store := by
    rw [run, List.foldl_cons, step_of_void hr hv, ← h.leave_before]
    exact ht.store

/-- Outside a new element again, the element holds the trees that were joined to it. -/
theorem Opens.leave_opened {children : List Shape} (h : b.Opens names)
    (hr : event.role = .opens tag) (hv : isVoidElement (String.ofList tag.name) = false)
    (ha : Shape.Apart children) : (b.step event).leave children =
      { b with store := (Shape.branch (tag.element false) children).joinTo b.parent b.store } := by
  obtain ⟨kind, hp⟩ := h.parent
  obtain ⟨hg, hd, hk⟩ := h.forest.append_create hp (.branch (tag.element false))
  have hjoin := hg.forest.joinAllTo_eq_addAllTo hd ha (by simp [hk])
  rw [step_of_opens hr hv, leave]
  change { b with store := Shape.joinAllTo b.store.size _ children } = _
  rw [hjoin, ← addTo_branch]
  rfl

/-- An element holds what is taken up to its end, and is joined before what is taken after it. -/
theorem takes_opens {children : List Shape} {after : List Event} (h : b.Opens names)
    (hr : event.role = .opens tag) (hv : isVoidElement (String.ofList tag.name) = false)
    (hc : Takes (b.step event) (tag.name :: names) rest children after)
    (ht : Takes
      { b with store := (Shape.branch (tag.element false) children).joinTo b.parent b.store } names
      after trees more) :
    b.Takes names (event :: rest) (.branch (tag.element false) children :: trees) more where
  reads := by
    rw [balanced, hr]
    simpa [hv] using Reads.opened hr hc.reads ht.reads
  length_le := ht.length_le.trans (hc.length_le.trans (Nat.le_succ _))
  ended := ht.ended
  apart := ht.apart.before (.branch (tag.element false) children)
  tidy := ⟨⟨⟨by simp, hc.apart⟩, hc.tidy⟩, ht.tidy⟩
  store := by
    rw [run, List.foldl_cons]
    refine hc.store.trans ?_
    rw [h.leave_opened hr hv hc.apart]
    refine ht.store.trans ?_
    rw [h.leave_before]
    rfl

/-- **Whatever the row, a builder takes it up to the end of its innermost open element.** -/
theorem Opens.exists_takes (h : b.Opens names) (events : List Event) :
    ∃ trees more, b.Takes names events trees more := by
  -- on the length of the row: what an element leaves of the row is shorter than the row
  induction hlen : events.length using Nat.strong_induction_on generalizing b names events with
  | _ length ih =>
    subst hlen
    cases events with
    | nil => exact ⟨[], [], takes_nil⟩
    | cons event rest =>
      have hrest : rest.length < (event :: rest).length := Nat.lt_succ_self _
      cases hr : event.role with
      | piece tree =>
        obtain ⟨kind, hp⟩ := h.parent
        have hnext := h.of_kept (h.forest.kept_joinTo hp tree)
        obtain ⟨trees, more, ht⟩ := ih _ hrest hnext rest rfl
        exact ⟨_, more, takes_piece h hr ht⟩
      | closes name =>
        by_cases hm : name ∈ names
        · obtain ⟨other, names, rfl⟩ := List.exists_cons_of_ne_nil (List.ne_nil_of_mem hm)
          by_cases hne : other = name
          · subst hne
            exact ⟨[], rest, takes_closes h hr⟩
          · exact ⟨[], event :: rest, takes_closes_outer h hr hne
              (List.mem_of_ne_of_mem (Ne.symm hne) hm)⟩
        · have hnext : Opens { b with stray := b.stray.push (String.ofList name) } names :=
            ⟨h.forest, h.root, h.named⟩
          obtain ⟨trees, more, ht⟩ := ih _ hrest hnext rest rfl
          exact ⟨trees, more, takes_stray h hr hm ht⟩
      | opens tag =>
        obtain ⟨kind, hp⟩ := h.parent
        cases hv : isVoidElement (String.ofList tag.name) with
        | true =>
          have hnext := h.of_kept (h.forest.kept_joinTo hp (.branch (tag.element true) []))
          obtain ⟨trees, more, ht⟩ := ih _ hrest hnext rest rfl
          exact ⟨_, more, takes_void h hr hv ht⟩
        | false =>
          obtain ⟨children, after, hc⟩ := ih _ hrest (h.opened hr hv) rest rfl
          have hafter : after.length < (event :: rest).length := hc.length_le.trans_lt hrest
          have hnext := h.of_kept (h.forest.kept_joinTo hp (.branch (tag.element false) children))
          obtain ⟨trees, more, ht⟩ := ih _ hafter hnext after rfl
          exact ⟨_, more, takes_opens h hr hv hc ht⟩

/-- A builder with nothing but a root, that of a whole document or of a piece of one. -/
def start (whole : Bool) : Builder where
  store := if whole then .document else .fragment

/-- The root that a builder starts with. -/
def rootKind (whole : Bool) : Branch :=
  if whole then .document else .fragment

/-- A builder starts with the root alone. -/
theorem store_start (whole : Bool) : (start whole).store = ofRoot (.branch (rootKind whole)) := by
  cases whole <;> rfl

/-- The root that a builder starts with is a document or a piece of one. -/
theorem rootKind_cases (whole : Bool) :
    rootKind whole = .document ∨ rootKind whole = .fragment := by
  cases whole
  · exact Or.inr rfl
  · exact Or.inl rfl

/-- At the start no element is open. -/
theorem opens_start (whole : Bool) : (start whole).Opens [] := by
  refine ⟨?_, ⟨rootKind whole, ?_⟩, .nil⟩
  · rw [store_start]
    exact forest_ofRoot _
  · rw [store_start]
    rfl

/-- **The tree of a row of events is built out of the tidy trees that recursive descent reads from
the balanced row.** -/
theorem exists_nested (whole : Bool) (events : List Event) :
    ∃ trees, nested? (balanced [] events) = some trees ∧ Shape.Apart trees ∧
      Shape.AllEvery Shape.Tidy trees ∧
      ((start whole).run events).store = Shape.build (rootKind whole) trees := by
  obtain ⟨trees, more, ht⟩ := (opens_start whole).exists_takes events
  obtain rfl := ht.ended rfl
  refine ⟨trees, ht.reads.nested?, ht.apart, ht.tidy, ht.store.trans ?_⟩
  have hlinks := links_ofRoot (.branch (rootKind whole))
  have hroot : (ofRoot (.branch (rootKind whole))).data? 0 = some (.branch (rootKind whole)) := rfl
  have hjoin := (forest_ofRoot (rootKind whole)).joinAllTo_eq_addAllTo hroot ht.apart (by
    simp [hlinks.children_eq])
  rw [Shape.build, ← hjoin, ← store_start]
  cases whole <;> rfl

end Builder

end HtmlToHaml.Xml
