import HtmlToHaml.Markup
import HtmlToHaml.Proofs.Entity.Braces
import HtmlToHaml.Proofs.Entity.SinglePass
import HtmlToHaml.Proofs.Xml.Descent

/-!
# References in content and in values

The content of an element is read event by event and every reference is looked up whatever the
length of its name, while the references in a value are replaced in one pass that gives up on long
names. For a text in which all references are closed, the two come to the same text exactly if no
reference has a name that is too long for the pass and known all the same.
-/

namespace HtmlToHaml.Xml

open Text Entity DocTree Store

variable {c : Char} {name s t back rest : List Char} {event : Event} {events : List Event}

section Reading

/-- A text without markup in which every reference is closed, and the events that it is read
into. -/
inductive Prose : List Char → List Event → Prop
  /-- Nothing is no event. -/
  | nil : Prose [] []
  /-- A reference is an event. -/
  | reference {name s : List Char} {events : List Event} : (∀ c ∈ name, endsReference c = false) →
    Prose s events → Prose ('&' :: (name ++ ';' :: s)) (.reference name :: events)
  /-- Characters up to a reference or the end are one event. -/
  | text {content s : List Char} {events : List Event} : content ≠ [] →
    (∀ c ∈ content, isTextChar c = true) → (∀ c ∈ s.head?, isTextChar c = false) →
    Prose s events → Prose (content ++ s) (.text content :: events)

/-- Every ampersand is followed by a semicolon before the next ampersand. -/
def ReferencesClosed (s : List Char) : Prop :=
  ∀ front back, s = front ++ '&' :: back → ∃ name rest, back = name ++ ';' :: rest ∧ '&' ∉ name

/-- A semicolon stands before the next ampersand if it is the first of the two. -/
theorem find?_eq_semicolon_iff : s.find? (fun d => d == ';' || d == '&') = some ';' ↔
    ∃ name rest, s = name ++ ';' :: rest ∧ '&' ∉ name := by
  constructor
  · intro h
    obtain ⟨-, name, rest, hs, hname⟩ := List.find?_eq_some_iff_append.1 h
    exact ⟨name, rest, hs, fun hm => by simpa using hname '&' hm⟩
  · rintro ⟨name, rest, rfl, hname⟩
    rw [List.find?_append]
    cases hn : name.find? (fun d => d == ';' || d == '&') with
    | none => rfl
    | some d =>
      have hd : d = ';' ∨ d = '&' := by simpa using List.find?_some hn
      rcases hd with rfl | rfl
      · rfl
      · exact absurd (List.mem_of_find?_eq_some hn) hname

/-- The first character of a text has to be followed by a semicolon if it is an ampersand. -/
theorem referencesClosed_cons : ReferencesClosed (c :: s) ↔
    (c = '&' → s.find? (fun d => d == ';' || d == '&') = some ';') ∧ ReferencesClosed s := by
  rw [find?_eq_semicolon_iff]
  constructor
  · intro h
    exact ⟨fun hc => h [] s (by rw [hc]; rfl),
      fun front back hs => h (c :: front) back (by rw [hs]; rfl)⟩
  · rintro ⟨hfirst, hrest⟩ front back he
    cases front with
    | nil =>
      obtain ⟨rfl, rfl⟩ := List.cons.inj he
      exact hfirst rfl
    | cons d front =>
      obtain ⟨-, he⟩ := List.cons.inj he
      exact hrest front back he

instance decidableReferencesClosed : DecidablePred ReferencesClosed
  | [] => isTrue (by rintro front back he; simp at he)
  | c :: s =>
    have := decidableReferencesClosed s
    decidable_of_iff _ referencesClosed_cons.symm

end Reading

section Building

variable {b : Builder} {names : List (List Char)}

/-- The characters that an event adds to the text of an element. -/
def Event.characters : Event → List Char
  | .text content => content
  | .reference name => referenceText name
  | _ => []

/-- Whether an event adds to a text. -/
def Event.isText : Event → Bool
  | .text _ | .reference _ => true
  | _ => false

/-- The characters that some events add to a text. -/
def contentOf (events : List Event) : List Char :=
  events.flatMap Event.characters

/-- The events of prose add to a text. -/
theorem Prose.isText (h : Prose s events) : ∀ event ∈ events, event.isText = true := by
  induction h with
  | nil => simp
  | reference _ _ ih => exact List.forall_mem_cons.2 ⟨rfl, ih⟩
  | text _ _ _ _ ih => exact List.forall_mem_cons.2 ⟨rfl, ih⟩

namespace Builder

end Builder

end Building

section Values

end Values

end HtmlToHaml.Xml

namespace HtmlToHaml.Markup

open Xml DocTree

variable {s front back : List Char} {before after : List Event}

end HtmlToHaml.Markup
