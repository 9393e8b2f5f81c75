import HtmlToHaml.Proofs.Entity.Unescape
import HtmlToHaml.Proofs.Forest.Depth
import HtmlToHaml.Proofs.Xml.Descent

/-!
# The tree of a row of events

The tree that is made of a row of events is the one that recursive descent makes of the balanced
row, whatever the row, and it is regular. Trees that markup can say are spelled as a balanced row,
so reading their spelling gives them back.
-/

namespace HtmlToHaml.Xml

open DocTree Store Haml

/-- The tag of an element, with references for what would end a value. -/
def Tag.saying (name : String) (attributes : List Attribute) : Tag :=
  ⟨name.toList, attributes.map fun a => (a.name.toList, htmlEscape a.value.toList)⟩

/-- The event that says a leaf other than a document type. -/
def leafSpelling : Leaf → List Event
  | .text content => [.text content.toList]
  | .comment content => [.comment content.toList]
  | .cdata content => [.cdata content.toList]
  | .instruction content => [.instruction content.toList]
  | .doctype _ _ _ => []

mutual

/-- The events that say a tree: one for an element that closes itself, and a start tag and an end
tag around the content of any other. -/
def spelling : Shape → List Event
  | .branch (.element name attributes selfClosing) children =>
    if selfClosing then [.empty (.saying name attributes)]
    else .start (.saying name attributes) :: allSpelling children ++ [.close name.toList]
  | .branch _ children => allSpelling children
  | .leaf content => leafSpelling content

/-- The events that say some trees. -/
def allSpelling : List Shape → List Event
  | [] => []
  | tree :: rest => spelling tree ++ allSpelling rest

end

/-- A part of a tree that markup can say: an element whose texts are apart, which closes itself if
it is void and holds nothing if it closes itself, or a leaf other than a document type. -/
def Sayable : Shape → Prop
  | .branch (.element name _ selfClosing) children =>
    (isVoidElement name = true → selfClosing = true) ∧ (selfClosing = true → children = []) ∧
      Shape.Apart children
  | .branch _ _ => False
  | .leaf (.doctype _ _ _) => False
  | .leaf _ => True

variable {around : Option (List Char)} {names : List (List Char)} {name : String}
  {attributes : List Attribute} {more rest : List Event} {tree : Shape} {trees forest : List Shape}

/-- The tag of an element says the element. -/
theorem element_saying (selfClosing : Bool) :
    (Tag.saying name attributes).element selfClosing = .element name attributes selfClosing := by
  have hattributes : (Tag.saying name attributes).treeAttributes = attributes := by
    rw [Tag.treeAttributes, Tag.saying, List.map_map]
    refine List.map_id'' (fun a => ?_) attributes
    simp [Entity.unescape_htmlEscape]
  rw [Tag.element, hattributes]
  simp [Tag.saying]

/-- The event of a leaf is the leaf. -/
theorem exists_leafSpelling {content : Leaf} (h : Sayable (.leaf content)) :
    ∃ event, leafSpelling content = [event] ∧ event.role = .piece (.leaf content) := by
  cases content with
  | doctype _ _ _ => exact h.elim
  | text content | comment content | cdata content | instruction content =>
    refine ⟨_, rfl, ?_⟩
    simp [Event.role]

mutual

/-- The events of a tree are balanced. -/
theorem balanced_spelling : ∀ {tree : Shape} {names : List (List Char)} {more : List Event},
    tree.Every Sayable → balanced names (spelling tree ++ more) =
      spelling tree ++ balanced names more
  | .leaf content, names, more, h => by
    obtain ⟨event, he, hr⟩ := exists_leafSpelling h
    rw [spelling, he, List.singleton_append, balanced, hr]
    rfl
  | .branch .document children, names, more, h => h.1.elim
  | .branch .fragment children, names, more, h => h.1.elim
  | .branch (.element name attributes true) children, names, more, h => by
    rw [spelling, if_pos rfl, List.singleton_append, balanced]
    rfl
  | .branch (.element name attributes false) children, names, more, h => by
    have hv : isVoidElement (String.ofList (Tag.saying name attributes).name) = false := by
      rw [Tag.saying, String.ofList_toList, Bool.eq_false_iff]
      exact fun hv => Bool.false_ne_true (h.1.1 hv)
    have hclose : balanced (name.toList :: names) (.close name.toList :: more) =
        .close name.toList :: balanced names more := by
      simp [balanced, Event.role]
    rw [spelling, if_neg Bool.false_ne_true, List.append_assoc, List.cons_append, balanced]
    simp only [Event.role, hv, Bool.false_eq_true, if_false]
    rw [Tag.saying, List.singleton_append, balanced_allSpelling h.2, hclose]
    simp

/-- The events of some trees are balanced. -/
theorem balanced_allSpelling : ∀ {trees : List Shape} {names : List (List Char)}
    {more : List Event}, Shape.AllEvery Sayable trees →
      balanced names (allSpelling trees ++ more) = allSpelling trees ++ balanced names more
  | [], names, more, _ => rfl
  | tree :: trees, names, more, h => by
    rw [allSpelling, List.append_assoc, balanced_spelling h.1, balanced_allSpelling h.2,
      List.append_assoc]

end

/-- A tree stands before others as it is, unless it is a text before a text. -/
theorem before_eq_cons (h : Shape.Apart (tree :: trees)) : tree.before trees = tree :: trees := by
  fun_cases Shape.before tree trees with
  | case1 content more rest =>
    rw [Shape.Apart, List.isChain_cons_cons] at h
    exact absurd ⟨rfl, rfl⟩ h.1
  | case2 tree trees hno => rfl

mutual

/-- Recursive descent reads a tree from its events and goes on behind them. -/
theorem reads_spelling : ∀ {tree : Shape} {around : Option (List Char)} {trees : List Shape}
    {more rest : List Event}, tree.Every Sayable → Reads around more trees rest →
      Reads around (spelling tree ++ more) (tree.before trees) rest
  | .leaf content, around, trees, more, rest, h, hmore => by
    obtain ⟨event, he, hr⟩ := exists_leafSpelling h
    rw [spelling, he]
    exact .piece hr hmore
  | .branch .document children, around, trees, more, rest, h, hmore => h.1.elim
  | .branch .fragment children, around, trees, more, rest, h, hmore => h.1.elim
  | .branch (.element name attributes true) children, around, trees, more, rest, h, hmore => by
    have hr : (Event.empty (.saying name attributes)).role =
        .piece (.branch (.element name attributes true) []) := by
      rw [Event.role, element_saying]
    rw [spelling, if_pos rfl, h.1.2.1 rfl]
    exact .piece hr hmore
  | .branch (.element name attributes false) children, around, trees, more, rest, h, hmore => by
    have hr : (Event.start (.saying name attributes)).role = .opens (.saying name attributes) := rfl
    have hclose : Reads (some name.toList) (.close name.toList :: more) [] more := .closed rfl
    have hinner := reads_allSpelling h.2 h.1.2.2 hclose
    rw [spelling, if_neg Bool.false_ne_true, List.append_assoc, ← element_saying]
    exact .opened hr hinner hmore

/-- Recursive descent reads trees from their events. -/
theorem reads_allSpelling : ∀ {trees : List Shape} {around : Option (List Char)}
    {more rest : List Event}, Shape.AllEvery Sayable trees → Shape.Apart trees →
      Reads around more [] rest → Reads around (allSpelling trees ++ more) trees rest
  | [], around, more, rest, _, _, hmore => hmore
  | tree :: trees, around, more, rest, h, ha, hmore => by
    have hrest := reads_allSpelling h.2 (List.IsChain.tail ha) hmore
    rw [allSpelling, List.append_assoc, ← before_eq_cons ha]
    exact reads_spelling h.1 hrest

end

/-- The events that say trees are balanced, and recursive descent reads the trees from them. -/
theorem nested?_allSpelling (ha : Shape.Apart trees) (h : Shape.AllEvery Sayable trees) :
    nested? (balanced [] (allSpelling trees)) = some trees := by
  have hb : balanced [] (allSpelling trees ++ []) = allSpelling trees ++ [] :=
    balanced_allSpelling h
  have hr : Reads none (allSpelling trees ++ []) trees [] := reads_allSpelling h ha .nil
  rw [← hb, List.append_nil] at hr
  exact hr.nested?

/-- The snapshot of a store that is built out of tidy trees are the trees. -/
theorem snapshot_build {kind : Branch} (h : Shape.AllEvery Shape.Tidy trees) (limit : Nat) :
    (Shape.build kind trees).snapshot limit = (Shape.branch kind trees).upTo limit (limit + 1) :=
  (shows_build kind (Shape.allNormal_of_tidy h)).snapshot limit

/-- **Reading a row of events is recursive descent on the balanced row**: both give the same tree,
whatever the row, and of the events that say some trees it is those trees. -/
theorem run_eq_nested (whole : Bool) :
    (∀ events, ∃ trees, nested? (balanced [] events) = some trees ∧
      ((Builder.start whole).run events).store = Shape.build (Builder.rootKind whole) trees ∧
      ∀ limit, ((Builder.start whole).run events).store.snapshot limit =
        (Shape.branch (Builder.rootKind whole) trees).upTo limit (limit + 1)) ∧
    ∀ trees, Shape.Apart trees → Shape.AllEvery Sayable trees →
      ∀ limit, ((Builder.start whole).run (allSpelling trees)).store.snapshot limit =
        (Shape.branch (Builder.rootKind whole) trees).upTo limit (limit + 1) := by
  have hall : ∀ events, ∃ trees, nested? (balanced [] events) = some trees ∧
      ((Builder.start whole).run events).store = Shape.build (Builder.rootKind whole) trees ∧
      ∀ limit, ((Builder.start whole).run events).store.snapshot limit =
        (Shape.branch (Builder.rootKind whole) trees).upTo limit (limit + 1) := by
    intro events
    obtain ⟨trees, hn, -, ht, hs⟩ := Builder.exists_nested whole events
    refine ⟨trees, hn, hs, fun limit => ?_⟩
    rw [hs, snapshot_build ht]
  refine ⟨hall, fun trees ha h limit => ?_⟩
  obtain ⟨trees', hn, -, hs⟩ := hall (allSpelling trees)
  rw [nested?_allSpelling ha h] at hn
  rw [hs, Option.some.inj hn]

/-- A paragraph with a line break between two texts, and a comment behind it. -/
def brokenParagraph : List Shape :=
  [.branch (.element "p" [⟨"title", "a<b"⟩] false)
      [.leaf (.text "one"), .branch (.element "br" [] true) [], .leaf (.text "two")],
    .leaf (.comment "end")]

/-- The paragraph is read from its events. -/
theorem run_eq_nested_brokenParagraph :
    allSpelling brokenParagraph =
        [.start ⟨['p'], [(['t', 'i', 't', 'l', 'e'], ['a', '&', 'l', 't', ';', 'b'])]⟩,
          .text ['o', 'n', 'e'], .empty ⟨['b', 'r'], []⟩, .text ['t', 'w', 'o'], .close ['p'],
          .comment ['e', 'n', 'd']] ∧
      ((Builder.start false).run (allSpelling brokenParagraph)).store.snapshot 2 =
        .ok (.branch .fragment brokenParagraph) := by
  refine ⟨rfl, ?_⟩
  have ha : Shape.Apart brokenParagraph := by simp [Shape.Apart, brokenParagraph, Shape.content?]
  have hs : Shape.AllEvery Sayable brokenParagraph := by
    simp [Shape.AllEvery, Shape.Every, Sayable, brokenParagraph, Shape.Apart, Shape.content?,
      isVoidElement, voidElements]
  exact (run_eq_nested false).2 brokenParagraph ha hs 2

/-- End tags that are missing are put in, one that closes nothing is left out, and a void element
closes itself. -/
example :
    balanced [] [.start ⟨['p'], []⟩, .start ⟨['b'], []⟩, .close ['i'], .close ['p'],
        .start ⟨['b', 'r'], []⟩, .start ⟨['u'], []⟩] =
      [.start ⟨['p'], []⟩, .start ⟨['b'], []⟩, .close ['b'], .close ['p'], .empty ⟨['b', 'r'], []⟩,
        .start ⟨['u'], []⟩, .close ['u']] := by
  decide

/-- **The tree of any row of events is regular.** -/
theorem regular_run (whole : Bool) (events : List Event) :
    ((Builder.start whole).run events).store.Regular := by
  obtain ⟨trees, -, ha, ht, hs⟩ := Builder.exists_nested whole events
  rw [hs]
  exact regular_build (Builder.rootKind_cases whole) ha ht

end HtmlToHaml.Xml
