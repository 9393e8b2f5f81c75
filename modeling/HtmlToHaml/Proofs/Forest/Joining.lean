import HtmlToHaml.Proofs.Forest.Refinement
import HtmlToHaml.Proofs.Forest.Regular

/-!
# Joining texts

A reader that meets a text joins it to a text that stands at the end of the parent's children, and
adds anything else as a new node. Reading a text and then some trees is therefore reading the trees
with the text joined to the one that begins them, and trees whose texts are apart are simply added.
-/

namespace HtmlToHaml.DocTree

/-- A tree in front of others; a text is joined to a text that comes next. -/
def Shape.before : Shape → List Shape → List Shape
  | .leaf (.text content), .leaf (.text more) :: rest => .leaf (.text (content ++ more)) :: rest
  | tree, trees => tree :: trees

/-- Adds a tree at the end of a parent's children; a text is joined to a text that stands there. -/
def Shape.joinTo (parent : NodeId) (store : Store) : Shape → Store
  | .leaf (.text content) => store.appendText parent content
  | tree => Shape.addTo parent store tree

/-- Adds trees at the end of a parent's children, texts joined to each other. -/
def Shape.joinAllTo (parent : NodeId) (store : Store) (trees : List Shape) : Store :=
  trees.foldl (Shape.joinTo parent) store

variable {tree : Shape} {trees : List Shape}

/-- Trees whose texts are apart stay so behind a tree that is put before them. -/
theorem Shape.Apart.before (h : Shape.Apart trees) (tree : Shape) :
    Shape.Apart (tree.before trees) := by
  fun_cases Shape.before tree trees with
  | case1 content more rest =>
    cases rest with
    | nil => exact .singleton _
    | cons next rest =>
      rw [Shape.Apart, List.isChain_cons_cons] at h ⊢
      exact h
  | case2 tree trees hno =>
    cases trees with
    | nil => exact .singleton _
    | cons next rest =>
      rw [Shape.Apart, List.isChain_cons_cons]
      refine ⟨fun htext => ?_, h⟩
      obtain ⟨text, ht⟩ := Option.isSome_iff_exists.1 htext.1
      obtain ⟨more, hnext⟩ := Option.isSome_iff_exists.1 htext.2
      obtain ⟨content, rfl, -⟩ := Shape.exists_of_content? ht
      obtain ⟨content', rfl, -⟩ := Shape.exists_of_content? hnext
      exact hno content content' rest rfl rfl

/-- Tidy trees stay so behind a tidy tree that is put before them. -/
theorem Shape.AllEvery.before (ht : tree.Every Shape.Tidy) (h : Shape.AllEvery Shape.Tidy trees) :
    Shape.AllEvery Shape.Tidy (tree.before trees) := by
  fun_cases Shape.before tree trees with
  | case1 content more rest => exact ⟨rfl, h.2⟩
  | case2 tree trees hno => exact ⟨ht, h⟩

/-- A tree is a text as a tree holds it exactly if it is one. -/
theorem Shape.content?_normal (tree : Shape) : tree.normal.content? = tree.content? := by
  cases tree with
  | branch kind children => rfl
  | leaf leaf => cases leaf <;> rfl

/-- A tree that is no text is added. -/
theorem Shape.joinTo_eq_addTo (parent : NodeId) (store : Store) (ht : tree.content? = none) :
    tree.joinTo parent store = Shape.addTo parent store tree := by
  cases tree with
  | branch kind children => rfl
  | leaf leaf =>
    cases leaf with
    | text content => cases ht
    | comment _ | cdata _ | doctype _ _ _ | instruction _ => rfl

namespace Store

variable {store store' : Store} {parent id : NodeId} {kind : Branch}

/-- Text leaves the root as it is. -/
@[simp] theorem root_appendText (more : String) :
    (store.appendText parent more).root = store.root := by
  simp only [appendText]
  split
  · exact root_modify ..
  · exact root_append

/-- **Text behind text is the joined text.** -/
theorem Consistent.appendText_append (h : store.Consistent) (hp : parent < store.size)
    (first second : String) :
    (store.appendText parent first).appendText parent second =
      store.appendText parent (first ++ second) := by
  by_cases htext : ∃ last old, (store.children parent).getLast? = some last ∧
      store.data? last = some (.text old)
  · obtain ⟨last, old, hlast, hold⟩ := htext
    obtain ⟨hl, -, hd⟩ := Links.appendText_of_text first h hlast hold
    obtain ⟨hl', -, hd'⟩ := Links.appendText_of_text (first ++ second) h hlast hold
    have hnew : (store.appendText parent first).data? last = some (.text (old ++ first)) :=
      (hd last).trans (if_pos rfl)
    obtain ⟨hl'', -, hd''⟩ := Links.appendText_of_text second hl hlast hnew
    refine Links.eq_of_data? hl' hl'' (by simp) fun id => ?_
    rw [hd', hd'', hd]
    split
    · rw [String.append_assoc]
    · rfl
  · push Not at htext
    obtain ⟨he, hl⟩ := Links.appendText_of_not_text first h hp htext
    obtain ⟨he', hl'⟩ := Links.appendText_of_not_text (first ++ second) h hp htext
    have hlast : (withKids store.children parent (store.children parent ++ [store.size])
        parent).getLast? = some store.size := by
      rw [withKids_self, List.getLast?_concat]
    have hnew : (store.appendText parent first).data? store.size = some (.text first) := by
      rw [he, data?_append, data?_create, if_pos rfl]
    obtain ⟨hl'', -, hd''⟩ := Links.appendText_of_text second hl hlast hnew
    refine Links.eq_of_data? hl' hl'' (by simp) fun id => ?_
    rw [hd'', he, he', data?_append, data?_append, data?_create, data?_create]
    split <;> rfl

/-- A store in which the branches of another one are still there. -/
structure Kept (store store' : Store) : Prop where
  /-- The new store is a forest. -/
  forest : store'.Forest
  /-- The root stays. -/
  root : store'.root = store.root
  /-- The branches are what they were. -/
  branch : ∀ {id kind}, store.data? id = some (.branch kind) → store'.data? id = some (.branch kind)

/-- Growth keeps the branches. -/
theorem Grown.kept {new : List NodeId} (h : Grown store store' parent new) : Kept store store' where
  forest := h.forest
  root := h.root
  branch hd := (h.data? _ (lt_size_of_data? hd)).trans hd

/-- Text keeps the branches. -/
theorem Forest.kept_appendText (h : store.Forest) (hp : store.data? parent = some (.branch kind))
    (more : String) : Kept store (store.appendText parent more) := by
  by_cases htext : ∃ last old, (store.children parent).getLast? = some last ∧
      store.data? last = some (.text old)
  · obtain ⟨last, old, hlast, hold⟩ := htext
    obtain ⟨hl, -, hd⟩ := Links.appendText_of_text more h.consistent hlast hold
    refine ⟨⟨hl.consistent, fun {id leaf} hleaf => ?_⟩, root_appendText more, fun {id _} hid => ?_⟩
    · rw [hl.children_eq]
      rw [hd] at hleaf
      split at hleaf
      · rename_i hid
        exact h.bare (hid ▸ hold)
      · exact h.bare hleaf
    · rw [hd, if_neg, hid]
      rintro rfl
      simp [hold] at hid
  · push Not at htext
    obtain ⟨he, -⟩ := Links.appendText_of_not_text more h.consistent (lt_size_of_data? hp) htext
    rw [he]
    exact (h.append_create hp (.text more)).1.kept

/-- A tree that is joined keeps the branches. -/
theorem Forest.kept_joinTo (h : store.Forest) (hp : store.data? parent = some (.branch kind))
    (tree : Shape) : Kept store (tree.joinTo parent store) := by
  cases ht : tree.content? with
  | none =>
    rw [Shape.joinTo_eq_addTo parent store ht]
    exact (h.addTo tree hp).1.kept
  | some text =>
    obtain ⟨content, rfl, -⟩ := Shape.exists_of_content? ht
    exact h.kept_appendText hp content

/-- **Joining a tree and then some trees is joining the trees with the first one before them.** -/
theorem Forest.joinAllTo_before (h : store.Forest) (hp : store.data? parent = some (.branch kind))
    (tree : Shape) (trees : List Shape) :
    Shape.joinAllTo parent (tree.joinTo parent store) trees =
      Shape.joinAllTo parent store (tree.before trees) := by
  fun_cases Shape.before tree trees with
  | case1 content more rest =>
    rw [Shape.joinAllTo, Shape.joinAllTo, List.foldl_cons, List.foldl_cons]
    change List.foldl _ ((store.appendText parent content).appendText parent more) rest = _
    rw [h.consistent.appendText_append (lt_size_of_data? hp)]
    rfl
  | case2 tree trees hno => rfl

/-- **Trees whose texts are apart are added when they are joined**, unless a text that begins them
comes behind a text. -/
theorem Forest.joinAllTo_eq_addAllTo (h : store.Forest)
    (hp : store.data? parent = some (.branch kind)) (ha : Shape.Apart trees)
    (hfirst : ∀ tree ∈ trees.head?, tree.content?.isSome →
      ∀ last ∈ (store.children parent).getLast?, store.isText last = false) :
    Shape.joinAllTo parent store trees = Shape.addAllTo parent store trees := by
  induction trees generalizing store with
  | nil => rfl
  | cons tree trees ih =>
    have hjoin : tree.joinTo parent store = Shape.addTo parent store tree := by
      cases ht : tree.content? with
      | none => exact Shape.joinTo_eq_addTo parent store ht
      | some text =>
        obtain ⟨content, rfl, -⟩ := Shape.exists_of_content? ht
        refine (Links.appendText_of_not_text content h.consistent (lt_size_of_data? hp) ?_).1
        intro last old hlast hold
        have hno := hfirst _ rfl rfl last hlast
        rw [isText, text?_eq, hold] at hno
        cases hno
    obtain ⟨hg, hs⟩ := h.addTo tree hp
    rw [Shape.joinAllTo, List.foldl_cons, hjoin, Shape.addAllTo]
    refine ih hg.forest ((hg.data? parent (lt_size_of_data? hp)).trans hp) (List.IsChain.tail ha) ?_
    intro next hnext htext last hlast
    obtain ⟨rest, rfl⟩ := List.head?_eq_some_iff.1 hnext
    rw [hg.children_parent, List.getLast?_concat] at hlast
    cases hlast
    rw [Shape.Apart, List.isChain_cons_cons] at ha
    rw [isText_of_shows hs, Shape.content?_normal, Bool.eq_false_iff]
    exact fun hno => ha.1 ⟨hno, htext⟩

end Store

end HtmlToHaml.DocTree
