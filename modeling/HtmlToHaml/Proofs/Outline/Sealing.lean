import HtmlToHaml.Proofs.Forest.Built
import HtmlToHaml.Proofs.Haml.Sealed
import HtmlToHaml.Proofs.Haml.Shift
import HtmlToHaml.Proofs.Outline.WholeLines

/-!
# Sealing

Without scripts nothing in an outline is meant to be live, and in texts, headers and the lines of
comments every interpolation is taken back. Three kinds of blocks carry text as it is: filters for
scripts and styles, character data sections, and preserved text. The main statement is that every
interpolation of an outline is taken back or stands in such a block; it leaves open what stands
right after the slash of a comment and in the line of a document type.
-/

namespace HtmlToHaml.DocTree

/-- A tree is one of some trees, or stands somewhere below them. -/
inductive Shape.Among (tree : Shape) : List Shape → Prop
  /-- The first one. -/
  | here {rest : List Shape} : Shape.Among tree (tree :: rest)
  /-- One behind the first one. -/
  | later {other : Shape} {rest : List Shape} : Shape.Among tree rest →
    Shape.Among tree (other :: rest)
  /-- One below the first one. -/
  | inside {kind : Branch} {children rest : List Shape} :
    Shape.Among tree children → Shape.Among tree (.branch kind children :: rest)

end HtmlToHaml.DocTree

namespace HtmlToHaml.Haml

open Text DocTree

variable {style : AttributeStyle} {level inner : Nat} {s t text before after front : List Char}
  {name : String} {attributes : List Attribute} {selfClosing : Bool} {all trees : List Shape}

/-- A comment up to the end of its first line: its condition, and its body if that is one line. -/
def commentHead (content : List Char) : List Char :=
  let (condition, body) := (condition? content).getD ([], content)
  condition ++ if hasLineFeed body || isBlank body then [] else ' ' :: trim body

/-- The blocks of an outline about which sealing says nothing. -/
inductive Exempt (trees : List Shape) : List Char → Prop
  /-- A filter. -/
  | filter {name : String} {attributes : List Attribute} {selfClosing : Bool} {filter : Filter}
    {children : List Shape} (level : Nat) : Filter.forElement? name attributes = some filter →
    Shape.Among (.branch (.element name attributes selfClosing) children) trees →
    Exempt trees (filterBlock filter (filterShapes false children) level)
  /-- A character data section. -/
  | cdata {content : String} (level : Nat) : Shape.Among (.leaf (.cdata content)) trees →
    Exempt trees (indentation level ++ ':' :: Filter.cdata.name.toList ++ '\n' ::
      textLines (stripCdataFraming content.toList) (level + 1) true)
  /-- The text of an element whose white space counts, if it has more than one line. -/
  | preserved {name : String} {attributes : List Attribute} {selfClosing : Bool} {content : String}
    (level : Nat) : name ∈ preservedNames → '\n' ∈ content.toList →
    Shape.Among (.branch (.element name attributes selfClosing) [.leaf (.text content)]) trees →
    Exempt trees (preserveBlock content.toList level)
  /-- The slash of a comment with its condition and its body, if that is one line. -/
  | comment {content : String} (level : Nat) : Shape.Among (.leaf (.comment content)) trees →
    Exempt trees (indentation level ++ '/' :: commentHead content.toList ++ ['\n'])
  /-- The line of a document type. -/
  | doctype {name : String} {externalId systemId : Option String} {line : List Char} (level : Nat) :
    Shape.Among (.leaf (.doctype name externalId systemId)) trees →
    doctype (externalId.map String.toList) = .ok line →
    Exempt trees (indentation level ++ line ++ ['\n'])

/-- An interpolation between two texts stands in an exempt block, which begins on a line
of its own. -/
def Excused (trees : List Shape) (before after : List Char) : Prop :=
  ∃ front inner outer back, before = front ++ inner ∧ after = outer ++ back ∧ Complete front ∧
    Exempt trees (inner ++ '#' :: '{' :: outer)

section Pieces

/-- An interpolation does not lie across the end of a line. -/
theorem cases_of_append_eq_opening (hs : Complete s) (he : s ++ t = before ++ '#' :: '{' :: after) :
    (∃ mid, before = s ++ mid ∧ t = mid ++ '#' :: '{' :: after) ∨
      ∃ mid, s = before ++ '#' :: '{' :: mid ∧ after = mid ++ t := by
  rcases List.append_eq_append_iff.1 he with ⟨mid, hb, ht⟩ | ⟨mid, rfl, hmid⟩
  · exact Or.inl ⟨mid, hb, ht⟩
  · rcases mid with _ | ⟨c, _ | ⟨d, mid⟩⟩
    · exact Or.inl ⟨[], by simp, hmid.symm⟩
    · -- The text before would end in the sign, and not in a line feed.
      rw [List.singleton_append, List.cons.injEq] at hmid
      rcases hs with hs | hs
      · simp at hs
      · rw [List.getLast?_concat, Option.some.injEq] at hs
        exact absurd (hmid.1.trans hs) (by decide)
    · simp only [List.cons_append, List.cons.injEq] at hmid
      obtain ⟨rfl, rfl, rfl⟩ := hmid
      exact Or.inr ⟨mid, rfl, rfl⟩

/-- Whole lines in which every interpolation is taken back or excused. -/
structure Guarded (trees : List Shape) (s : List Char) : Prop where
  /-- The lines are whole. -/
  complete : Complete s
  /-- Every interpolation is taken back or excused. -/
  takenBack_or_excused : ∀ before after, s = before ++ '#' :: '{' :: after →
    before.getLast? = some '\\' ∨ Excused trees before after

namespace Guarded

/-- Sealed lines are guarded. -/
theorem of_sealed (hc : Complete s) (hs : Sealed s) : Guarded all s :=
  ⟨hc, fun before after he => Or.inl (hs before after he)⟩

/-- An exempt block is guarded. -/
theorem of_exempt (hc : Complete s) (hs : Exempt all s) : Guarded all s :=
  ⟨hc, fun before after he =>
    Or.inr ⟨[], before, after, [], rfl, (List.append_nil _).symm, complete_nil, he ▸ hs⟩⟩

/-- No lines are guarded. -/
theorem nil : Guarded all [] :=
  of_sealed complete_nil (.of_hash_not_mem List.not_mem_nil)

/-- Guarded lines may stand one after the other. -/
theorem append (hs : Guarded all s) (ht : Guarded all t) : Guarded all (s ++ t) := by
  refine ⟨hs.complete.append ht.complete, fun before after he => ?_⟩
  rcases cases_of_append_eq_opening hs.complete he with ⟨mid, rfl, hmid⟩ | ⟨mid, hmid, rfl⟩
  · rcases ht.takenBack_or_excused mid after hmid with hlast | hexcused
    · left
      rw [List.getLast?_append, hlast, Option.some_or]
    · obtain ⟨front, inner, outer, back, rfl, ho, hf, hx⟩ := hexcused
      exact Or.inr ⟨s ++ front, inner, outer, back, by simp, ho, hs.complete.append hf, hx⟩
  · rcases hs.takenBack_or_excused before mid hmid with hlast | hexcused
    · exact Or.inl hlast
    · obtain ⟨front, inner, outer, back, hb, rfl, hf, hx⟩ := hexcused
      exact Or.inr ⟨front, inner, outer, back ++ t, hb, by simp, hf, hx⟩

/-- Sealed text on the line above guarded lines. -/
theorem cons (hs : Sealed s) (ht : Guarded all t) : Guarded all (s ++ '\n' :: t) := by
  have hline : Sealed (s ++ ['\n']) := hs.append_of_head? (.singleton _) (by simp)
  rw [List.append_cons]
  exact (of_sealed (complete_concat s) hline).append ht

end Guarded

/-- Lines of sealed text are guarded. -/
theorem guarded_textLines {escapeSpecial : Bool} (hs : Sealed s) :
    Guarded all (textLines s level escapeSpecial) :=
  .of_sealed (complete_textLines _ _ _) (hs.textLines _ _)

end Pieces

section Leaves

/-- A comment goes on below its first line if its body has more than one. -/
theorem commentBlock_eq (content : List Char) (level : Nat) :
    commentBlock content level = indentation level ++ '/' :: commentHead content ++ '\n' ::
      if hasLineFeed ((condition? content).getD ([], content)).2 then
        textLines (escapeInterpolation ((condition? content).getD ([], content)).2) (level + 1) true
      else [] := by
  simp only [commentBlock, commentHead]
  split
  · rename_i hbody
    simp [hbody]
  · rename_i hbody
    split
    · rename_i hblank
      simp [hbody, hblank]
    · rename_i hblank
      simp [hbody, hblank]

/-- A leaf is guarded. -/
theorem guarded_leaf {leaf : Leaf} (h : WrittenLeaf level leaf text)
    (ha : Shape.Among (.leaf leaf) all) : Guarded all text := by
  cases h with
  | text content left => exact guarded_textLines (sealed_escapeInterpolation _)
  | comment content =>
    have hhead : Guarded all (indentation level ++ '/' :: commentHead content.toList ++ ['\n']) :=
      .of_exempt (complete_concat _) (.comment level ha)
    rw [commentBlock_eq, List.append_cons]
    refine hhead.append ?_
    split
    · exact guarded_textLines (sealed_escapeInterpolation _)
    · exact .nil
  | cdata content => exact .of_exempt ((complete_textLines _ _ _).cons _) (.cdata level ha)
  | doctype hd => exact .of_exempt (complete_concat _) (.doctype level ha hd)
  | instruction content =>
    have hline : '#' ∉ indentation level ++ "!!! XML\n".toList := by
      rw [List.mem_append, not_or]
      exact ⟨by simp [indentation], by decide⟩
    exact .of_sealed (complete_append_of_getLast? (by decide)) (.of_hash_not_mem hline)

end Leaves

section Elements

/-- The header of an element with the rest of its line. -/
theorem guarded_front (hname : Shut name.toList)
    (hfront : Front style name attributes selfClosing level inner front) (hs : Sealed s)
    (hh : s.head? ≠ some '{') (ht : Guarded all t) :
    Guarded all (front ++ (s ++ '\n' :: t)) := by
  have hheader : ∀ nuked level, Sealed (indentation level ++
      header style name.toList (Shorthand.of (entries attributes false)) nuked selfClosing ++
      s) := by
    intro nuked level
    rw [List.append_assoc]
    exact .append_of_hash_not_mem (by simp [indentation])
      ((sealed_header hname).append_of_head? hs hh)
  cases hfront with
  | header nuked =>
    rw [← List.append_assoc]
    exact .cons (hheader nuked level) ht
  | succeeded word =>
    have hword : Sealed (indentation level ++
        ("= succeed ".toList ++ rubyString word ++ " do".toList)) := by
      have hsucceed : Shut "= succeed ".toList := .of_not_mem (by decide)
      have hdo : Shut " do".toList := .of_not_mem (by decide)
      exact .append_of_hash_not_mem (by simp [indentation])
        ((hsucceed.append (shut_rubyString word)).append hdo).isSealed
    have hall := Guarded.cons hword (.cons (hheader false (level + 1)) ht)
    rw [succeedLine_eq]
    simpa using hall

/-- The header of an element with guarded lines below it. -/
theorem guarded_block (hname : Shut name.toList)
    (hfront : Front style name attributes selfClosing level inner front) (ht : Guarded all t) :
    Guarded all (front ++ '\n' :: t) :=
  guarded_front hname hfront (.of_hash_not_mem List.not_mem_nil) (by simp) ht

/-- **A text of the grammar is guarded.** -/
theorem guarded_written (h : Written style level trees text)
    (ha : ∀ tree, Shape.Among tree trees → Shape.Among tree all)
    (hname : ∀ name attributes selfClosing children,
      Shape.Among (.branch (.element name attributes selfClosing) children) all →
      Shut name.toList) : Guarded all text := by
  induction h with
  | nil => exact .nil
  | leaf hleaf _ ih =>
    exact (guarded_leaf hleaf (ha _ .here)).append (ih fun tree ht => ha tree ht.later)
  | root _ _ _ ihbody ih =>
    exact (ihbody fun tree ht => ha tree ht.inside).append (ih fun tree ht => ha tree ht.later)
  | filtered hf _ ih =>
    refine .append ?_ (ih fun tree ht => ha tree ht.later)
    exact .of_exempt (complete_filterBlock _ _ _) (.filter _ hf (ha _ .here))
  | inline _ hfront hn _ ih =>
    refine .append ?_ (ih fun tree ht => ha tree ht.later)
    rw [inlineText_textLines (newline_not_mem_escape hn)]
    split
    · exact guarded_block (hname _ _ _ _ (ha _ .here)) hfront .nil
    · exact guarded_front (hname _ _ _ _ (ha _ .here)) hfront
        ((sealed_escapeInterpolation _).trim.trim.cons (by simp)) (by simp) .nil
  | preserved _ hfront hp hn _ ih =>
    refine .append ?_ (ih fun tree ht => ha tree ht.later)
    exact guarded_block (hname _ _ _ _ (ha _ .here)) hfront
      (.of_exempt ((complete_preservedLines _).cons _) (.preserved _ hp hn (ha _ .here)))
  | block _ hfront _ _ ihbody ih =>
    refine .append ?_ (ih fun tree ht => ha tree ht.later)
    exact guarded_block (hname _ _ _ _ (ha _ .here)) hfront
      (ihbody fun tree ht => ha tree ht.inside)

end Elements

/-- **Every interpolation of an outline without scripts is taken back by a backslash, unless it
stands in a block that carries text as it is, right after the slash of a comment or in the line of
a document type.** -/
theorem guarded_render {store : Store} {options : Options} {kind : Branch} {answer : String}
    (h : store.Forest) (hkind : kind = .document ∨ kind = .fragment)
    (hs : store.Shows store.root (.branch kind trees)) (herb : options.erb = false)
    (hname : ∀ name attributes selfClosing children,
      Shape.Among (.branch (.element name attributes selfClosing) children) trees →
      name = "" ∨ isCssIdentifier name.toList = true)
    (hr : render store options = .ok answer) :
    ∀ before after, answer.toList = before ++ '#' :: '{' :: after →
      before.getLast? = some '\\' ∨ Excused trees before after := by
  have hshut : ∀ name attributes selfClosing children,
      Shape.Among (.branch (.element name attributes selfClosing) children) trees →
      Shut name.toList := by
    intro name attributes selfClosing children ha
    rcases hname name attributes selfClosing children ha with rfl | hn
    · exact shut_nil
    · exact shut_of_isCssIdentifier hn
  have hwritten := written_of_render h hkind hs herb hr
  exact (guarded_written hwritten (fun _ ht => ht) hshut).takenBack_or_excused

/-- A text and a script with the same interpolation. -/
def opened : List Shape :=
  [.leaf (.text (String.ofList ['#', '{', 'x', '}'])),
    .branch (.element "script" [] false) [.leaf (.text (String.ofList ['#', '{', 'x', '}']))]]

/-- The outline of the text and the script. -/
def openedOutline : String :=
  String.ofList (['\\', '#', '{', 'x', '}', '\n'] ++ ":javascript\n  ".toList ++
    ['#', '{', 'x', '}', '\n'])

/-- The name of the script is an identifier. -/
theorem name_opened {children : List Shape}
    (h : Shape.Among (.branch (.element name attributes selfClosing) children) opened) :
    name = "" ∨ isCssIdentifier name.toList = true := by
  rw [opened] at h
  cases h with
  | later h =>
    cases h with
    | here => exact Or.inr (by decide)
    | later h => cases h
    | inside h =>
      cases h with
      | later h => cases h

/-- The text is sealed, and the script is written as it is. -/
theorem guarded_render_opened :
    render (Shape.build .fragment opened) {} = .ok openedOutline ∧
      ∀ before after, openedOutline.toList = before ++ '#' :: '{' :: after →
        before.getLast? = some '\\' ∨ Excused opened before after := by
  have hr : render (Shape.build .fragment opened) {} = .ok openedOutline := by decide +kernel
  exact ⟨hr, guarded_render (Store.forest_build _ _).1 (Or.inr rfl) (Store.shows_build _ rfl) rfl
    (fun _ _ _ _ => name_opened) hr⟩

/-- Not every outline without scripts is sealed. -/
theorem not_sealed_render :
    ¬ ∀ (store : Store) (options : Options) (kind : Branch) (trees : List Shape) (answer : String),
      store.Forest → kind = .document ∨ kind = .fragment →
      store.Shows store.root (.branch kind trees) → options.erb = false →
      (∀ name attributes selfClosing children,
        Shape.Among (.branch (.element name attributes selfClosing) children) trees →
        name = "" ∨ isCssIdentifier name.toList = true) →
      render store options = .ok answer → Sealed answer.toList := by
  intro hall
  have hr : render (Shape.build .fragment opened) {} = .ok openedOutline := by decide +kernel
  have hsealed := hall (Shape.build .fragment opened) {} .fragment opened _
    (Store.forest_build _ _).1 (Or.inr rfl) (Store.shows_build _ rfl) rfl
    (fun _ _ _ _ => name_opened) hr
  have hlast := hsealed (['\\', '#', '{', 'x', '}', '\n'] ++ ":javascript\n  ".toList)
    ['x', '}', '\n'] String.toList_ofList
  exact absurd hlast (by decide)

end HtmlToHaml.Haml
