import HtmlToHaml.Proofs.Haml.Framing
import HtmlToHaml.Proofs.Haml.MarkedText
import HtmlToHaml.Proofs.Outline.Scriptless

/-!
# Scripts in filters

The body of a filter is the text below the element, so an element that stands for a script leaves no
trace there but its text: only a script that is written out between its tags inside a text becomes
an interpolation. The two ways of writing one script are told apart by the closing braces, which
every other step of the way to a filter leaves alone.
-/

namespace HtmlToHaml.DocTree

/-- A document, or a piece of one, with one tree in it. -/
structure Store.Presents (store : Store) (tree : Shape) : Prop where
  /-- The store is a forest. -/
  forest : store.Forest
  /-- The tree is all there is below the root. -/
  shows : ∃ kind, (kind = .document ∨ kind = .fragment) ∧
    store.Shows store.root (.branch kind [tree])

/-- A tree that is built out of a piece of a document is presented. -/
theorem Store.presents_build {tree : Shape} (h : Shape.allNormal [tree] = [tree]) :
    (Shape.build .fragment [tree]).Presents tree :=
  ⟨(Store.forest_build _ _).1, .fragment, Or.inr rfl, Store.shows_build _ h⟩

end HtmlToHaml.DocTree

namespace HtmlToHaml.Haml

open Text DocTree

variable {c : Char} {s t before after script mark needle : List Char} {atStart : Bool}
  {name : String} {attributes : List Attribute} {filter : Filter} {options : Options}
  {children : List Shape}

section Searching

/-- A beginning without a character is found in front of the character or not at all. -/
theorem stripPrefix?_append_cons (hc : c ∉ mark) :
    stripPrefix? mark (s ++ c :: t) = (stripPrefix? mark s).map (· ++ c :: t) := by
  induction mark generalizing s with
  | nil => simp [stripPrefix?]
  | cons d mark ih =>
    rw [List.mem_cons, not_or] at hc
    cases s with
    | nil =>
      rw [List.nil_append, stripPrefix?.eq_3, if_neg (Ne.symm hc.1)]
      rfl
    | cons e s =>
      rw [List.cons_append, stripPrefix?, stripPrefix?, ih hc.2]
      split <;> rfl

end Searching

section Framing

/-- A framing line is found in front of an angle bracket or not at all, unless it begins there. -/
theorem framingLine?_append (hm : '<' ∉ mark.tail) (hne : mark ≠ [])
    (hno : stripPrefix? (mark ++ ['\n']) ('<' :: t) = none) :
    framingLine? mark (s ++ '<' :: t) = (framingLine? mark s).map (· ++ '<' :: t) := by
  obtain ⟨first, more, rfl⟩ := List.exists_cons_of_ne_nil hne
  have hmore : '<' ∉ more ++ ['\n'] := by simpa using hm
  rw [framingLine?, framingLine?, List.dropWhile_append]
  cases hs : s.dropWhile isIndent with
  | nil => exact hno
  | cons d rest =>
    simp only [List.isEmpty_cons, Bool.false_eq_true, if_false, List.cons_append, stripPrefix?.eq_3,
      stripPrefix?_append_cons hmore]
    split <;> rfl

/-- The lines that frame a section are left out of what stands before an angle bracket and of what
stands behind it, unless such a line begins there. -/
theorem dropFraming_append (hm : '<' ∉ mark.tail) (hne : mark ≠ [])
    (hno : stripPrefix? (mark ++ ['\n']) ('<' :: t) = none) :
    dropFraming mark atStart (s ++ '<' :: t) =
      dropFraming mark atStart s ++ '<' :: dropFraming mark false t := by
  have hfound : ∀ (atStart : Bool) (s : List Char),
      (if atStart then framingLine? mark (s ++ '<' :: t) else none) =
        (if atStart then framingLine? mark s else none).map (· ++ '<' :: t) := by
    intro atStart s
    rw [framingLine?_append hm hne hno]
    split <;> rfl
  induction atStart, s using dropFraming.induct mark with
  | case1 atStart =>
    have hfirst : framingLine? mark ('<' :: t) = none := hno
    rw [List.nil_append, dropFraming_cons, dropFraming, hfirst, ite_self]
    rfl
  | case2 atStart d s rest hf ih =>
    rw [dite_eq_ite] at hf
    rw [List.cons_append, dropFraming_cons, dropFraming_cons, ← List.cons_append, hfound, hf]
    exact ih
  | case3 atStart d s hf ih =>
    rw [dite_eq_ite] at hf
    rw [List.cons_append, dropFraming_cons, dropFraming_cons, ← List.cons_append, hfound, hf]
    exact congrArg (d :: ·) ih

/-- A text without the lines that frame a character data section, from the start of a line on or
from the middle of one. -/
def unframed (atStart : Bool) (s : List Char) : List Char :=
  dropFraming cdataClose atStart (dropFraming cdataOpen atStart s)

/-- What frames a section is left out of what stands before an angle bracket and of what stands
behind it, unless a section is opened there. -/
theorem unframed_append (hno : stripPrefix? (cdataOpen ++ ['\n']) ('<' :: t) = none) :
    unframed atStart (s ++ '<' :: t) = unframed atStart s ++ '<' :: unframed false t := by
  rw [unframed, dropFraming_append (by decide) (by decide) hno,
    dropFraming_append (by decide) (by decide) rfl]
  rfl

/-- What frames a section does not begin in the middle of a line. -/
theorem unframed_false_append (hn : '\n' ∉ s) :
    unframed false (s ++ t) = s ++ unframed false t := by
  rw [unframed, dropFraming_false_append hn, dropFraming_false_append hn]
  rfl

/-- An unframed text holds only what the text holds. -/
theorem not_mem_unframed (hc : c ∉ s) : c ∉ unframed atStart s :=
  fun hm => hc (dropFraming_sublist.subset (dropFraming_sublist.subset hm))

/-- An unframed text keeps what does not frame. -/
theorem count_unframed (hc : isSpace c = false) (hopen : c ∉ cdataOpen) (hclose : c ∉ cdataClose) :
    (unframed atStart s).count c = s.count c := by
  rw [unframed, count_dropFraming hc hclose, count_dropFraming hc hopen]

/-- Without references and sections below it, the source of a filter is the unframed text. -/
theorem filterSource_eq_unframed (hand : '&' ∉ Shape.textAll children) :
    filterSource children = unframed true (Shape.textAll children) := by
  rw [filterSource]
  split
  · rfl
  · rename_i hno
    rw [Bool.or_eq_true, not_or, hasCdataFraming, Bool.or_eq_true, not_or] at hno
    obtain ⟨-, hopen, hclose⟩ := hno
    rw [Entity.unescape_of_not_mem hand, unframed,
      dropFraming_of_not_hasFramingLine (Bool.eq_false_iff.2 hopen),
      dropFraming_of_not_hasFramingLine (Bool.eq_false_iff.2 hclose)]

end Framing

section Markers

/-- Framing lines are left out around the tags of a script. -/
theorem unframed_marked : unframed atStart (marked before script after) =
    marked (unframed atStart before) (unframed false script) (unframed false after) := by
  have hopen : ∀ t, unframed atStart (before ++ (markerOpen ++ t)) =
      unframed atStart before ++ (markerOpen ++ unframed false t) := fun t =>
    (unframed_append rfl).trans (congrArg (_ ++ '<' :: ·) (unframed_false_append (by decide)))
  have hclose : ∀ t, unframed false (script ++ (markerClose ++ t)) =
      unframed false script ++ (markerClose ++ unframed false t) := fun t =>
    (unframed_append rfl).trans (congrArg (_ ++ '<' :: ·) (unframed_false_append (by decide)))
  rw [marked, hopen, hclose, marked]

end Markers

section Bodies

/-- A text without tags and references stands in a filter with its interpolations taken back. -/
theorem filterShapes_of_plain (hs : Shape.textAll children = s) (hlt : '<' ∉ s) (hand : '&' ∉ s) :
    filterShapes true children = escapeInterpolation (unframed true s) := by
  have hopen : ¬ markerOpen <:+: unframed true s := not_isInfix_of_not_mem (not_mem_unframed hlt)
  have hnone : ∀ piece ∈ ([] : List ScriptPiece), piece.Clear := by simp
  have htext := interpolateMarkers_withMarkers hopen hnone
  rw [withMarkers, interpolated, List.flatMap_nil, List.append_nil] at htext
  rw [filterShapes_eq, filterSource_eq_unframed (hs ▸ hand), hs, htext]

/-- A script between its tags stands in a filter as an interpolation. -/
theorem filterShapes_of_marked (hs : Shape.textAll children = marked before script after)
    (hlt : '<' ∉ before ++ script ++ after) (hand : '&' ∉ before ++ script ++ after) :
    filterShapes true children = escapeInterpolation (unframed true before) ++
      interpolation (trim (escapeInterpolation (unframed false script))) ++
      escapeInterpolation (unframed false after) := by
  simp only [List.mem_append, not_or] at hlt hand
  have htext : '&' ∉ Shape.textAll children := by
    rw [hs]
    simp [marked, markerOpen, markerClose, hand]
  have hescaped : '&' ∉ escapeInterpolation (unframed false script) := by
    rw [← List.count_eq_zero, count_escapeInterpolation (by decide), List.count_eq_zero]
    exact not_mem_unframed hand.1.2
  have hscript : '&' ∉ trim (escapeInterpolation (unframed false script)) :=
    fun hm => hescaped (mem_of_mem_trimBy hm)
  have hopen : ¬ markerOpen <:+: unframed true before :=
    not_isInfix_of_not_mem (not_mem_unframed hlt.1.1)
  have hclear : ∀ piece ∈ [ScriptPiece.mk (unframed false script) (unframed false after)],
      piece.Clear :=
    List.forall_mem_singleton.2
      ⟨not_isInfix_of_not_mem (not_mem_unframed hlt.1.2),
        not_isInfix_of_not_mem (not_mem_unframed hlt.2)⟩
  have hparts := interpolateMarkers_withMarkers hopen hclear
  rw [withMarkers, withMarkers, interpolated, List.flatMap_singleton, ← trim_escapeInterpolation,
    Entity.unescape_of_not_mem hscript, ← List.append_assoc] at hparts
  rw [filterShapes_eq, filterSource_eq_unframed htext, hs, unframed_marked, hparts]

/-- A text stands in a filter with its closing braces. -/
theorem count_escape_unframed :
    (escapeInterpolation (unframed atStart s)).count '}' = s.count '}' := by
  rw [count_escapeInterpolation (by decide), count_unframed (by decide) (by decide) (by decide)]

/-- **A script between its tags brings a closing brace into a filter.** -/
theorem count_filterShapes_of_marked (hs : Shape.textAll children = marked before script after)
    (hlt : '<' ∉ before ++ script ++ after) (hand : '&' ∉ before ++ script ++ after) :
    (filterShapes true children).count '}' = (before ++ script ++ after).count '}' + 1 := by
  have hsolid : isSpace '}' = false := by decide
  rw [filterShapes_of_marked hs hlt hand, interpolation]
  simp only [List.count_append, count_escape_unframed, count_trim hsolid, List.cons_append,
    List.count_cons_of_ne (show '#' ≠ '}' by decide),
    List.count_cons_of_ne (show '{' ≠ '}' by decide), List.count_singleton_self]
  omega

end Bodies

section Documents

/-- A document that presents a filter is rendered as the block of the filter, unless it
is too deep. -/
theorem render_filtered {store : Store} {selfClosing : Bool}
    (h : store.Presents (.branch (.element name attributes selfClosing) children))
    (hfilter : Filter.forElement? name attributes = some filter) :
    render store options =
      if options.maxDepth = 0 then .error (.tooDeep 0)
      else .ok (String.ofList (filterBlock filter (filterShapes options.erb children) 0)) := by
  obtain ⟨hforest, kind, hkind, hs⟩ := h
  rw [render_eq_writeRow hforest hkind hs]
  cases hdepth : options.maxDepth with
  | zero =>
    rw [if_pos rfl, writeRow, hdepth]
    rfl
  | succ depth =>
    have hmanner : manner options.erb name attributes = .filtered filter := by rw [manner, hfilter]
    have hblock : writeNext options (writeRow options depth) false 0 {} []
        (.branch (.element name attributes selfClosing) children) =
          .ok (filterBlock filter (filterShapes options.erb children) 0) := by
      simp only [writeNext, writeShape, hmanner, if_true]
    rw [if_neg (Nat.succ_ne_zero depth), writeRow, writeFrom, hblock]
    exact congrArg (fun text => Except.ok (String.ofList text)) (List.append_nil _)

/-- An element with a script in it, as a tree between two texts. -/
def filterWithScript (name : String) (attributes : List Attribute) (before script after : String) :
    Shape :=
  .branch (.element name attributes false)
    [.leaf (.text before), .branch (.element "loud" [] false) [.leaf (.text script)],
      .leaf (.text after)]

/-- An element with a text in it. -/
def filterWithText (name : String) (attributes : List Attribute) (text : String) : Shape :=
  .branch (.element name attributes false) [.leaf (.text text)]

/-- **A script that is a tree of its own stands in a filter as a part of the text, and never as the
interpolation that the same script becomes between its tags in the text.** -/
theorem render_filterWithScript {store plain tagged : Store} {before script after : String}
    (h : store.Presents (filterWithScript name attributes before script after))
    (hplain : plain.Presents (filterWithText name attributes (before ++ script ++ after)))
    (htagged : tagged.Presents
      (filterWithText name attributes (before ++ "<loud>" ++ script ++ "</loud>" ++ after)))
    (hfilter : Filter.forElement? name attributes = some filter) (herb : options.erb = true)
    (hfree : ∀ c ∈ (before ++ script ++ after).toList, c ≠ '<' ∧ c ≠ '&') :
    render store options = render plain options ∧
      (render store options = render tagged options ↔ options.maxDepth = 0) := by
  have hlt : '<' ∉ before.toList ++ script.toList ++ after.toList :=
    fun hm => (hfree '<' (by simpa using hm)).1 rfl
  have hand : '&' ∉ before.toList ++ script.toList ++ after.toList :=
    fun hm => (hfree '&' (by simpa using hm)).2 rfl
  have hparts : filterShapes true [.leaf (.text before),
      .branch (.element "loud" [] false) [.leaf (.text script)], .leaf (.text after)] =
        escapeInterpolation (unframed true (before.toList ++ script.toList ++ after.toList)) :=
    filterShapes_of_plain (by simp [Shape.textAll, Shape.text, Leaf.characters]) hlt hand
  have htext : filterShapes true [.leaf (.text (before ++ script ++ after))] =
      escapeInterpolation (unframed true (before.toList ++ script.toList ++ after.toList)) :=
    filterShapes_of_plain (by simp [Shape.textAll, Shape.text, Leaf.characters]) hlt hand
  have hscript : (filterShapes true
      [.leaf (.text (before ++ "<loud>" ++ script ++ "</loud>" ++ after))]).count '}' =
        (before.toList ++ script.toList ++ after.toList).count '}' + 1 :=
    count_filterShapes_of_marked
      (by simp [Shape.textAll, Shape.text, Leaf.characters, marked, markerOpen, markerClose])
      hlt hand
  rw [render_filtered h hfilter, render_filtered hplain hfilter, render_filtered htagged hfilter,
    herb, hparts, htext]
  refine ⟨rfl, fun he => ?_, fun hzero => by rw [if_pos hzero, if_pos hzero]⟩
  by_contra hdepth
  rw [if_neg hdepth, if_neg hdepth, Except.ok.injEq, String.ofList_inj] at he
  have hbraces := congrArg (List.count '}') he
  have hsolid : isSpace '}' = false := by decide
  rw [count_filterBlock hsolid, count_filterBlock hsolid, count_escape_unframed, hscript] at hbraces
  omega

/-- A script of a page in which a value is printed. -/
theorem render_filterWithScript_identity :
    render (Shape.build .fragment [filterWithScript "script" [] "\n  var id = " " @id " ";\n"])
        { erb := true } ≠
      render (Shape.build .fragment [filterWithText "script" []
        ("\n  var id = " ++ "<loud>" ++ " @id " ++ "</loud>" ++ ";\n")]) { erb := true } := by
  have hfree : ∀ c ∈ ("\n  var id = " ++ " @id " ++ ";\n").toList, c ≠ '<' ∧ c ≠ '&' := by simp
  have hboth := @render_filterWithScript "script" [] .javascript { erb := true } _ _ _ _ _ _
    (Store.presents_build rfl) (Store.presents_build rfl) (Store.presents_build rfl) rfl rfl hfree
  exact fun he => absurd (hboth.2.1 he) (by decide)

/-- A script does not stand in a filter in the same way whether it is a tree or written out in the
text. -/
theorem not_render_filterWithScript_eq :
    ¬ ∀ (store tagged : Store) (options : Options) (name before script after : String),
      (name = "script" ∨ name = "style") → options.erb = true →
      (∀ c ∈ (before ++ script ++ after).toList, c ≠ '<' ∧ c ≠ '&') →
      (∀ text ∈ [before, script, after], ¬ ['#', '{'] <:+: text.toList) →
      (∃ c ∈ script.toList, isSpace c = false) →
      store.Presents (filterWithScript name [] before script after) →
      tagged.Presents
        (filterWithText name [] (before ++ "<loud>" ++ script ++ "</loud>" ++ after)) →
      render store options = render tagged options := by
  intro hall
  have he := hall _ _ { erb := true } "script" "\n  var id = " " @id " ";\n" (Or.inl rfl) rfl
    (by simp) (by decide +kernel) ⟨'@', by decide, by decide⟩ (Store.presents_build rfl)
    (Store.presents_build rfl)
  exact absurd he (by decide +kernel)

end Documents

end HtmlToHaml.Haml
