import HtmlToHaml.Proofs.Forest.Built
import HtmlToHaml.Proofs.Haml.AttributeOrder
import HtmlToHaml.Proofs.Outline.Likeness

/-!
# The order in which attributes are written

The attributes of an element form a family of values by name. Where the names are distinct, two
trees that hold the same families in different orders are alike: they are filters with the same body
or elements with the same header. So they are rendered alike, or fail for the same reason.
-/

namespace HtmlToHaml.DocTree

/-- Branches that differ at most in the order of attributes with distinct names. -/
inductive Branch.Reordered : Branch → Branch → Prop
  /-- The same branch. -/
  | same (kind : Branch) : Reordered kind kind
  /-- An element with its attributes in another order. -/
  | permuted {name : String} {attributes attributes' : List Attribute} {selfClosing : Bool}
    (hp : attributes.Perm attributes') (hn : (attributes.map Attribute.name).Nodup) :
    Reordered (.element name attributes selfClosing) (.element name attributes' selfClosing)

/-- Trees that differ at most in the order of attributes with distinct names. -/
inductive Shape.Reordered : Shape → Shape → Prop
  /-- The same leaf. -/
  | leaf (content : Leaf) : Reordered (.leaf content) (.leaf content)
  /-- Branches that differ so, and so do their children. -/
  | branch {kind kind' : Branch} {children children' : List Shape} (hkind : kind.Reordered kind')
    (hchildren : List.Forall₂ Reordered children children') :
    Reordered (.branch kind children) (.branch kind' children')

mutual

/-- Trees that differ in the order of attributes say the same. -/
theorem Shape.Reordered.text_eq : ∀ {tree tree' : Shape}, tree.Reordered tree' →
    tree.text = tree'.text
  | .leaf _, _, .leaf _ => rfl
  | .branch _ _, _, .branch _ hchildren => Shape.textAll_eq_of_reordered hchildren

/-- Rows of trees that differ in the order of attributes say the same. -/
theorem Shape.textAll_eq_of_reordered : ∀ {trees trees' : List Shape},
    List.Forall₂ Shape.Reordered trees trees' → Shape.textAll trees = Shape.textAll trees'
  | [], _, .nil => rfl
  | _ :: _, _, .cons htree hrest => by
    rw [Shape.textAll, Shape.textAll, htree.text_eq, Shape.textAll_eq_of_reordered hrest]

end

end HtmlToHaml.DocTree

namespace HtmlToHaml.Haml

open Text DocTree

variable {tree tree' : Shape} {trees trees' : List Shape} {name : String}
  {attributes attributes' : List Attribute}

section Elements

/-- Trees that differ in the order of attributes are both character data sections, or none is. -/
theorem any_isCdata_eq_of_reordered (h : List.Forall₂ Shape.Reordered trees trees') :
    trees.any Shape.isCdata = trees'.any Shape.isCdata := by
  induction h with
  | nil => rfl
  | cons htree _ ih =>
    rw [List.any_cons, List.any_cons, ih]
    cases htree with
    | leaf content => rfl
    | branch hkind hchildren => rfl

/-- Filters of elements that differ in the order of attributes have the same body. -/
theorem filterSource_eq_of_reordered (h : List.Forall₂ Shape.Reordered trees trees') :
    filterSource trees = filterSource trees' := by
  rw [filterSource, filterSource, any_isCdata_eq_of_reordered h, Shape.textAll_eq_of_reordered h]

/-- Whether an element is written as a filter does not depend on the order of its attributes. -/
theorem forElement?_eq_of_perm (hp : attributes.Perm attributes') :
    Filter.forElement? name attributes = Filter.forElement? name attributes' := by
  have hall : ∀ mime : String, (attributes.all fun a => a.name == "type" && a.value == mime) =
      attributes'.all fun a => a.name == "type" && a.value == mime := fun _ => hp.all_eq
  simp only [Filter.forElement?, hall]

/-- The header of an element does not depend on the order of attributes with distinct names. -/
theorem headerOf_eq_of_perm (hp : attributes.Perm attributes')
    (hn : (attributes.map Attribute.name).Nodup) (options : Options) (nuked selfClosing : Bool) :
    headerOf options name attributes nuked selfClosing =
      headerOf options name attributes' nuked selfClosing := by
  refine header_eq_of_perm (hp.map _) ?_ options.style name.toList nuked selfClosing
  have hnames : (entries attributes options.erb).map Entry.name =
      (attributes.map Attribute.name).map String.toList := by
    rw [entries, List.map_map, List.map_map]
    rfl
  exact hnames ▸ hn.map fun _ _ => String.toList_inj.1

end Elements

/-- Elements with reordered children are alike if they are written in the same manner and with
the same header. -/
theorem alike_element {options : Options} {selfClosing : Bool}
    (hmanner : manner options.erb name attributes = manner options.erb name attributes')
    (hheader : ∀ nuked, headerOf options name attributes nuked selfClosing =
      headerOf options name attributes' nuked selfClosing)
    (hchildren : List.Forall₂ Shape.Reordered trees trees') :
    Alike options options Shape.Reordered (.branch (.element name attributes selfClosing) trees)
      (.branch (.element name attributes' selfClosing) trees') := by
  refine .element hmanner ?_
  cases manner options.erb name attributes with
  | filtered filter => exact congrArg _ (filterSource_eq_of_reordered hchildren)
  | opened => exact hchildren
  | script silent => exact Shape.textAll_eq_of_reordered hchildren
  | tag => exact ⟨hheader, hchildren⟩

/-- **Trees that differ in the order of attributes are alike.** -/
theorem alike_of_reordered (options : Options) (h : tree.Reordered tree') :
    Alike options options Shape.Reordered tree tree' := by
  cases h with
  | leaf content => exact .leaf fun _ _ => rfl
  | @branch kind kind' children children' hkind hchildren =>
    cases hkind with
    | same kind =>
      cases kind with
      | document => exact .root (Or.inl rfl) hchildren
      | fragment => exact .root (Or.inr rfl) hchildren
      | element name attributes selfClosing => exact alike_element rfl (fun _ => rfl) hchildren
    | permuted hp hn =>
      refine alike_element ?_ (fun nuked => headerOf_eq_of_perm hp hn options nuked _) hchildren
      rw [manner, manner, forElement?_eq_of_perm hp]

/-- **The order in which attributes with distinct names are written changes neither the text that a
tree is rendered as nor the reason for which it is not.** -/
theorem render_reordered {store store' : Store} {kind : Branch} (options : Options)
    (h : store.Forest) (h' : store'.Forest) (hkind : kind = .document ∨ kind = .fragment)
    (hs : store.Shows store.root (.branch kind trees))
    (hs' : store'.Shows store'.root (.branch kind trees'))
    (ht : List.Forall₂ Shape.Reordered trees trees') :
    render store options = render store' options :=
  render_alike (alike_of_reordered options) h h' hkind hs hs' rfl ht

/-- A section of a page with a link in it. -/
def linkedSection : List Shape :=
  [.branch (.element "div" [⟨"title", "t"⟩, ⟨"class", "a 1/2"⟩, ⟨"id", "x"⟩] false)
    [.branch (.element "a" [⟨"rel", "r"⟩, ⟨"href", "h"⟩] false) [.leaf (.text "one")]]]

/-- The section with all attributes in other orders. -/
def relinkedSection : List Shape :=
  [.branch (.element "div" [⟨"id", "x"⟩, ⟨"title", "t"⟩, ⟨"class", "a 1/2"⟩] false)
    [.branch (.element "a" [⟨"href", "h"⟩, ⟨"rel", "r"⟩] false) [.leaf (.text "one")]]]

/-- The section is written alike with its attributes in either order. -/
theorem render_reordered_section :
    List.Forall₂ Shape.Reordered linkedSection relinkedSection ∧
      render (Shape.build .document linkedSection) {} =
        render (Shape.build .document relinkedSection) {} ∧
      (render (Shape.build .document linkedSection) {}).isOk = true := by
  have hlink : List.Forall₂ Shape.Reordered
      [.branch (.element "a" [⟨"rel", "r"⟩, ⟨"href", "h"⟩] false) [.leaf (.text "one")]]
      [.branch (.element "a" [⟨"href", "h"⟩, ⟨"rel", "r"⟩] false) [.leaf (.text "one")]] :=
    .cons (.branch (.permuted (by decide) (by decide)) (.cons (.leaf _) .nil)) .nil
  have ht : List.Forall₂ Shape.Reordered linkedSection relinkedSection :=
    .cons (.branch (.permuted (by decide) (by decide)) hlink) .nil
  have hall := render_reordered {} (Store.forest_build .document linkedSection).1
    (Store.forest_build .document relinkedSection).1 (Or.inl rfl) (Store.shows_build _ rfl)
    (Store.shows_build _ rfl) ht
  exact ⟨ht, hall, by decide +kernel⟩

end HtmlToHaml.Haml
