import HtmlToHaml.Proofs.Forest.Built
import HtmlToHaml.Proofs.Haml.MarkedValue
import HtmlToHaml.Proofs.Outline.Likeness

/-!
# Trees without scripts

Script mode changes elements that stand for scripts, attribute values with scripts in them, and the
raw text of filters and character data sections. A tree in which there is nothing of this kind is
alike with script mode on and off, so it is rendered as the same text, or fails for the same reason.
-/

namespace HtmlToHaml.DocTree

/-- A raw text in which script mode has nothing to replace and nothing to take back. -/
structure Unmarked (s : List Char) : Prop where
  /-- No script begins in it. -/
  script : ¬ Haml.markerOpen <:+: s
  /-- No interpolation begins in it. -/
  interpolation : ¬ ['#', '{'] <:+: s

mutual

/-- A tree whose raw texts are unmarked and in which, filters apart, no element stands for a script
and no attribute value holds one. -/
def Shape.Scriptless : Shape → Prop
  | .branch (.element name attributes _) children =>
    match Haml.Filter.forElement? name attributes with
    | some _ => Unmarked (Haml.filterSource children)
    | none =>
      (name ≠ "loud" ∧ name ≠ "silent" ∧ name ≠ "block") ∧
        (∀ a ∈ attributes, ¬ Haml.markerOpen <:+: a.value.toList) ∧ Shape.AllScriptless children
  | .branch _ children => Shape.AllScriptless children
  | .leaf (.cdata content) => Unmarked (Haml.stripCdataFraming content.toList)
  | .leaf _ => True

/-- Trees of this kind. -/
def Shape.AllScriptless : List Shape → Prop
  | [] => True
  | tree :: rest => tree.Scriptless ∧ Shape.AllScriptless rest

end

end HtmlToHaml.DocTree

namespace HtmlToHaml.Haml

open Text DocTree

variable {s needle : List Char} {tree : Shape} {trees : List Shape} {name : String}
  {attributes : List Attribute}

section RawTexts

/-- **Script mode leaves an unmarked text as it is.** -/
theorem interpolateMarkers_of_unmarked (h : Unmarked s) (erb : Bool) :
    interpolateMarkers erb s = s := by
  cases erb with
  | false => rfl
  | true =>
    rw [interpolateMarkers, if_pos rfl, escapeInterpolation_of_not_isInfix h.interpolation,
      replaceMarkers_of_not_isInfix h.script]

end RawTexts

section Headers

/-- Attributes without markers are the same with script mode on and off. -/
theorem entries_of_not_isInfix (h : ∀ a ∈ attributes, ¬ markerOpen <:+: a.value.toList)
    (erb erb' : Bool) : entries attributes erb = entries attributes erb' := by
  refine List.map_congr_left fun a ha => ?_
  rw [classify_of_not_isInfix (h a ha), classify_of_not_isInfix (h a ha)]

/-- An element that stands for no filter and no script is written with a header. -/
theorem manner_eq_tag (hfilter : Filter.forElement? name attributes = none)
    (hname : name ≠ "loud" ∧ name ≠ "silent" ∧ name ≠ "block") (erb : Bool) :
    manner erb name attributes = .tag := by
  obtain ⟨hloud, hsilent, hblock⟩ := hname
  simp [manner, hfilter, hloud, hsilent, hblock]

end Headers

/-- Each tree of a row without scripts is itself one without scripts. -/
theorem forall₂_of_allScriptless (h : Shape.AllScriptless trees) :
    List.Forall₂ (fun tree tree' => tree = tree' ∧ tree.Scriptless) trees trees := by
  induction trees with
  | nil => exact .nil
  | cons tree rest ih => exact .cons ⟨rfl, h.1⟩ (ih h.2)

/-- **A tree without scripts is alike with script mode on and off.** -/
theorem alike_of_scriptless (options : Options) (h : tree.Scriptless) :
    Alike (options.withErb true) (options.withErb false)
      (fun tree tree' => tree = tree' ∧ tree.Scriptless) tree tree := by
  cases tree with
  | leaf content =>
    refine .leaf fun data hdata => ?_
    subst hdata
    rw [interpolateMarkers_of_unmarked h, interpolateMarkers_of_unmarked h]
  | branch kind children =>
    cases kind with
    | document => exact .root (Or.inl rfl) (forall₂_of_allScriptless h)
    | fragment => exact .root (Or.inr rfl) (forall₂_of_allScriptless h)
    | element name attributes selfClosing =>
      rw [Shape.Scriptless] at h
      cases hf : Filter.forElement? name attributes with
      | some filter =>
        rw [hf] at h
        have hmanner : ∀ erb, manner erb name attributes = .filtered filter := fun erb => by
          rw [manner, hf]
        refine .element ((hmanner _).trans (hmanner _).symm) ?_
        rw [hmanner]
        exact (interpolateMarkers_of_unmarked h _).trans (interpolateMarkers_of_unmarked h _).symm
      | none =>
        rw [hf] at h
        obtain ⟨hname, hvalues, hchildren⟩ := h
        have hmanner := manner_eq_tag hf hname
        refine .element ((hmanner _).trans (hmanner _).symm) ?_
        rw [hmanner]
        refine ⟨fun nuked => ?_, forall₂_of_allScriptless hchildren⟩
        rw [headerOf, headerOf, entries_of_not_isInfix hvalues _ (options.withErb false).erb]
        rfl

/-- **Where there are no scripts, script mode changes neither the text that a tree is rendered as
nor the reason for which it is not.** -/
theorem render_scriptless {store : Store} {kind : Branch} (options : Options) (h : store.Forest)
    (hkind : kind = .document ∨ kind = .fragment)
    (hs : store.Shows store.root (.branch kind trees)) (ht : Shape.AllScriptless trees) :
    render store (options.withErb true) = render store (options.withErb false) := by
  refine render_alike ?_ h h hkind hs hs rfl (forall₂_of_allScriptless ht)
  rintro tree _ ⟨rfl, htree⟩
  exact alike_of_scriptless options htree

/-- A link, a script of the page and a character data section. -/
def linkAndData : List Shape :=
  [.branch (.element "a" [⟨"href", "h<i>"⟩] false) [.leaf (.text "one")],
    .leaf (.text "\x23\x7bx\x7d"),
    .branch (.element "script" [] false) [.leaf (.text "f(a &lt; b)")], .leaf (.cdata "a # b")]

/-- Script mode changes nothing about them. -/
theorem render_scriptless_linkAndData :
    Shape.AllScriptless linkAndData ∧
      render (Shape.build .fragment linkAndData) (({} : Options).withErb true) =
        render (Shape.build .fragment linkAndData) (({} : Options).withErb false) ∧
      (render (Shape.build .fragment linkAndData) (({} : Options).withErb true)).isOk = true := by
  have hlink : ∀ a ∈ [(⟨"href", "h<i>"⟩ : Attribute)], ¬ markerOpen <:+: a.value.toList := by
    decide
  have hbody : Unmarked (filterSource [.leaf (.text "f(a &lt; b)")]) :=
    ⟨by decide +kernel, by decide +kernel⟩
  have hdata : Unmarked (stripCdataFraming "a # b".toList) := ⟨by decide +kernel, by decide +kernel⟩
  have ht : Shape.AllScriptless linkAndData :=
    ⟨⟨by decide, hlink, trivial, trivial⟩, trivial, hbody, hdata, trivial⟩
  have hall := render_scriptless {} (Store.forest_build .fragment linkAndData).1 (Or.inr rfl)
    (Store.shows_build _ rfl) ht
  exact ⟨ht, hall, by decide +kernel⟩

end HtmlToHaml.Haml
