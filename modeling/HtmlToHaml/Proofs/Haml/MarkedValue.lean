import HtmlToHaml.Proofs.Haml.MarkedText

/-!
# Attribute values with scripts between their tags

A value is an expression exactly if a script stands in it that has one line once the white space
around it is left out. The text of an element knows no such bound: there a script becomes an
interpolation however many lines it has. A value whose scripts have one line each is cut at their
tags, and the expression is put together from its pieces in their order.
-/

namespace HtmlToHaml.Haml

open Text

variable {s inner before script after first : List Char} {pieces : List ScriptPiece}

section Scripts

/-- A script has one line once the white space around it is left out. -/
def OneLineScript (script : List Char) : Prop :=
  '\n' ∉ trimBy isAsciiSpace script

instance (script : List Char) : Decidable (OneLineScript script) :=
  inferInstanceAs (Decidable ('\n' ∉ trimBy isAsciiSpace script))

/-- The beginning of a script of one line has one line. -/
theorem OneLineScript.of_isPrefix (h : OneLineScript script) (hp : before <+: script) :
    OneLineScript before :=
  fun hm => h ((trimBy_isPrefix_trimBy isAsciiSpace hp).subset hm)

/-- A script is read up to its first closing tag if it has one line, without the white space around
it. -/
theorem markerScript?_eq_some_iff : markerScript? inner = some (s, after) ↔
    ∃ script, breakOn markerClose inner = some (script, after) ∧ OneLineScript script ∧
      trimBy isAsciiSpace script = s := by
  rw [markerScript?]
  cases hclose : breakOn markerClose inner with
  | none => simp
  | some cut =>
    obtain ⟨script, rest⟩ := cut
    have hline : hasLineFeed (trimBy isAsciiSpace script) = true ↔ ¬ OneLineScript script := by
      rw [hasLineFeed, List.contains_iff_mem, OneLineScript, not_not]
    simp only [hline, Option.ite_none_left_eq_some, not_not, Option.some.injEq, Prod.mk.injEq]
    constructor
    · rintro ⟨hscript, rfl, rfl⟩
      exact ⟨script, ⟨rfl, rfl⟩, hscript, rfl⟩
    · rintro ⟨_, ⟨rfl, rfl⟩, hscript, rfl⟩
      exact ⟨hscript, rfl, rfl⟩

/-- A script of one line is read at its opening tag, or as much of it as stands before
a closing tag. -/
theorem exists_marker (h : OneLineScript script) (after : List Char) :
    ∃ found, (stripPrefix? markerOpen (marked [] script after)).bind markerScript? =
      some found := by
  obtain ⟨front, back, hclose, hback⟩ := exists_breakOn_append markerClose script after
  have hfront : front <+: script := by
    have he := eq_append_of_breakOn hclose
    have hlength := congrArg List.length he
    have hle := hback.length_le
    simp only [List.length_append] at hlength
    rw [List.append_assoc] at he
    exact List.prefix_of_prefix_length_le ⟨markerClose ++ back, he.symm⟩
      (List.prefix_append script (markerClose ++ after)) (by omega)
  refine ⟨(trimBy isAsciiSpace front, back), ?_⟩
  rw [marked, List.nil_append, stripPrefix?_append, Option.bind_some]
  exact markerScript?_eq_some_iff.2 ⟨front, hclose, h.of_isPrefix hfront, rfl⟩

/-- **A value holds scripts exactly if one of one line stands between its tags in it.** -/
theorem valueScripts_ne_nil_iff : (valueScripts s).1 ≠ [] ↔
    ∃ before script after, s = marked before script after ∧ OneLineScript script := by
  induction s using valueScripts.induct with
  | case1 =>
    refine iff_of_false (by rw [valueScripts]; simp) ?_
    rintro ⟨before, script, after, he, -⟩
    simp [marked, markerOpen] at he
  | case2 c s script after hm =>
    refine iff_of_true (by rw [valueScripts_of_marker hm]; simp) ?_
    obtain ⟨inner, hopen, hscript⟩ := Option.bind_eq_some_iff.1 hm
    obtain ⟨source, hclose, hline, -⟩ := markerScript?_eq_some_iff.1 hscript
    refine ⟨[], source, after, ?_, hline⟩
    rw [stripPrefix?_eq_some_iff.1 hopen, eq_append_of_breakOn hclose, marked, List.nil_append,
      List.append_assoc]
  | case3 c s hm last hrest ih =>
    refine iff_of_false (by rw [(valueScripts_of_none hm).1 _ hrest]; simp) ?_
    rintro ⟨before, script, after, he, hline⟩
    cases before with
    | nil =>
      obtain ⟨found, hfound⟩ := exists_marker hline after
      rw [← he, hm] at hfound
      cases hfound
    | cons d before =>
      have hcons : c :: s = d :: marked before script after := he
      exact ih.2 ⟨before, script, after, (List.cons.inj hcons).2, hline⟩ (by rw [hrest])
  | case4 c s hm before script more last hrest ih =>
    refine iff_of_true (by rw [(valueScripts_of_none hm).2 _ _ _ _ hrest]; simp) ?_
    obtain ⟨front, source, back, rfl, hline⟩ := ih.1 (by rw [hrest]; simp)
    exact ⟨c :: front, source, back, rfl, hline⟩

/-- A value without scripts has no expression, and every other one has. -/
theorem expression?_eq_none_iff : expression? s = none ↔ (valueScripts s).1 = [] := by
  rw [expression?]
  split <;> simp_all

/-- A value is an expression exactly if it holds scripts. -/
theorem isDynamic_classify_iff :
    (AttributeValue.classify s true).isDynamic = true ↔ (valueScripts s).1 ≠ [] := by
  rw [Ne, ← expression?_eq_none_iff, AttributeValue.classify, if_pos rfl]
  cases expression? s with
  | none => simp [AttributeValue.isDynamic]
  | some expression => simp [AttributeValue.isDynamic]

end Scripts

section Recognition

/-- **Scripts of several lines are recognised in text only.** A value is an expression exactly if a
script of one line stands between its tags in it. A text is rewritten exactly if any script does. -/
theorem recognised_scripts (value : List Char) :
    ((AttributeValue.classify value true).isDynamic = true ↔
        ∃ before script after, value = marked before script after ∧ OneLineScript script) ∧
      (interpolateMarkers true value ≠ escapeInterpolation value ↔ HoldsMarker value) := by
  constructor
  · rw [isDynamic_classify_iff, valueScripts_ne_nil_iff]
  · rw [interpolateMarkers, if_pos rfl, Ne, replaceMarkers_eq_self_iff, not_not,
      holdsMarker_escapeInterpolation]

/-- A value in which a script of two lines stands between its tags is not an expression. -/
theorem not_recognised_alike :
    ¬ ∀ value, value ≠ [] →
      ((AttributeValue.classify value true).isDynamic = true ↔ HoldsMarker value) := by
  intro h
  have hvalue := (h "<loud>a\nb</loud>".toList (by decide)).2 ⟨[], ['a', '\n', 'b'], [], by decide⟩
  rw [isDynamic_classify_iff] at hvalue
  exact hvalue (by decide +kernel)

end Recognition

section Pieces

/-- A value without an opening tag holds no scripts. -/
theorem valueScripts_of_not_isInfix (h : ¬ markerOpen <:+: s) : valueScripts s = ([], s) := by
  induction s with
  | nil => rw [valueScripts]
  | cons c s ih =>
    have hopen : (stripPrefix? markerOpen (c :: s)).bind markerScript? = none := by
      rw [stripPrefix?_of_not_isInfix h, Option.bind_none]
    exact (valueScripts_of_none hopen).1 s (ih fun hs => h (List.infix_cons hs))

/-- Script mode leaves a value without an opening tag a literal. -/
theorem classify_of_not_isInfix (h : ¬ markerOpen <:+: s) (erb : Bool) :
    AttributeValue.classify s erb = .static s := by
  have hscripts : expression? s = none := by rw [expression?, valueScripts_of_not_isInfix h]
  rw [AttributeValue.classify, hscripts, ite_self]

/-- The first script of a value is cut out with the text in front of it. -/
theorem valueScripts_marked (hfirst : ¬ markerOpen <:+: first) (hscript : ¬ markerClose <:+: script)
    (hline : OneLineScript script) :
    valueScripts (marked first script after) =
      ((first, trimBy isAsciiSpace script) :: (valueScripts after).1, (valueScripts after).2) := by
  induction first with
  | nil =>
    have hm : (stripPrefix? markerOpen (marked [] script after)).bind markerScript? =
        some (trimBy isAsciiSpace script, after) := by
      rw [marked, List.nil_append, stripPrefix?_append, Option.bind_some]
      exact markerScript?_eq_some_iff.2 ⟨script, breakOn_markerClose hscript after, hline, rfl⟩
    exact valueScripts_of_marker hm
  | cons c first ih =>
    have hopen := stripPrefix?_eq_none_of_breakOn
      (breakOn_markerOpen hfirst (script ++ (markerClose ++ after)))
    exact (valueScripts_of_none (by rw [hopen, Option.bind_none])).2 _ _ _ _
      (ih fun h => hfirst (List.infix_cons h))

/-- The scripts of a value with the text in front of each, and the text behind the last one. -/
def cuts (first : List Char) : List ScriptPiece → List (List Char × List Char) × List Char
  | [] => ([], first)
  | piece :: pieces =>
    ((first, trimBy isAsciiSpace piece.script) :: (cuts piece.after pieces).1,
      (cuts piece.after pieces).2)

/-- A value whose scripts have one line each is cut at their tags. -/
theorem valueScripts_withMarkers (hfirst : ¬ markerOpen <:+: first)
    (hpieces : ∀ piece ∈ pieces, piece.Clear ∧ OneLineScript piece.script) :
    valueScripts (withMarkers first pieces) = cuts first pieces := by
  induction pieces generalizing first with
  | nil => exact valueScripts_of_not_isInfix hfirst
  | cons piece pieces ih =>
    obtain ⟨⟨hclear, hline⟩, hpieces⟩ := List.forall_mem_cons.1 hpieces
    rw [withMarkers, valueScripts_marked hfirst hclear.script hline, ih hclear.after hpieces, cuts]

/-- The code of a script in an attribute value. -/
def valueCode (script : List Char) : List Char :=
  Entity.unescape (trimBy isAsciiSpace script)

/-- The expression for a value with scripts. -/
def markedExpression (first : List Char) (pieces : List ScriptPiece) : List Char :=
  match first, pieces with
  | [], [⟨script, []⟩] => if (valueCode script).isEmpty then ['"', '"'] else valueCode script
  | first, pieces => '"' :: interpolated rubyEscape valueCode first pieces ++ ['"']

/-- The pieces of a value are written in their order. -/
theorem flatMap_cuts (first : List Char) (pieces : List ScriptPiece) :
    (cuts first pieces).1.flatMap (fun piece =>
        rubyEscape piece.1 ++ interpolation (Entity.unescape piece.2)) ++
        rubyEscape (cuts first pieces).2 =
      interpolated rubyEscape valueCode first pieces := by
  induction pieces generalizing first with
  | nil => simp [cuts, interpolated]
  | cons piece pieces ih =>
    have htail := ih piece.after
    simp only [interpolated, cuts, List.flatMap_cons, List.append_assoc] at htail ⊢
    rw [htail, valueCode]

/-- A value whose scripts have one line each has an expression. -/
theorem expression?_withMarkers (hne : pieces ≠ []) (hfirst : ¬ markerOpen <:+: first)
    (hpieces : ∀ piece ∈ pieces, piece.Clear ∧ OneLineScript piece.script) :
    expression? (withMarkers first pieces) = some (markedExpression first pieces) := by
  have hquoted := congrArg (fun text => some ('"' :: text ++ ['"'])) (flatMap_cuts first pieces)
  rw [expression?, valueScripts_withMarkers hfirst hpieces]
  obtain ⟨⟨script, after⟩, more, rfl⟩ := List.exists_cons_of_ne_nil hne
  cases first with
  | cons c first => exact hquoted
  | nil =>
    cases more with
    | cons piece more => cases after <;> exact hquoted
    | nil =>
      cases after with
      | cons c after => exact hquoted
      -- Nothing but the script stands in the value.
      | nil => rfl

/-- **Every text of a value and every script in it stays, in their order.** With scripts off the
value is passed on as it is. -/
theorem classify_withMarkers (hne : pieces ≠ []) (hfirst : ¬ markerOpen <:+: first)
    (hpieces : ∀ piece ∈ pieces, piece.Clear ∧ OneLineScript piece.script) :
    AttributeValue.classify (withMarkers first pieces) true =
        .dynamic (markedExpression first pieces) ∧
      AttributeValue.classify (withMarkers first pieces) false =
        .static (withMarkers first pieces) := by
  constructor
  · rw [AttributeValue.classify, if_pos rfl, expression?_withMarkers hne hfirst hpieces]
  · rfl

/-- A value whose text ends in a number sign in front of a script. -/
theorem classify_withMarkers_numberSign :
    AttributeValue.classify "item_\x23<loud> a &lt; b\n</loud>-<loud>c</loud>".toList true =
      .dynamic "\"item_\x23\x23\x7ba < b\x7d-\x23\x7bc\x7d\"".toList := by
  have hpieces : ∀ piece ∈ [ScriptPiece.mk " a &lt; b\n".toList ['-'], ScriptPiece.mk ['c'] []],
      piece.Clear ∧ OneLineScript piece.script := by decide
  have hfirst : ¬ markerOpen <:+: "item_\x23".toList := by decide
  have hvalue := (classify_withMarkers (by simp) hfirst hpieces).1
  exact hvalue.trans (by decide +kernel)

end Pieces

end HtmlToHaml.Haml
