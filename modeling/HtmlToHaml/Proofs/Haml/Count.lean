import HtmlToHaml.Haml.CommentBlock
import HtmlToHaml.Haml.FilterBlock
import HtmlToHaml.Haml.ScriptLines
import HtmlToHaml.Proofs.Entity.SinglePass
import HtmlToHaml.Proofs.Haml.OneLine
import HtmlToHaml.Proofs.Text.Count

/-!
# Characters that stay

Escapes, quotes, marks and indentation are ASCII, and nothing but ASCII and white space is ever left
out of a text that is written. So a character that is neither occurs in a piece of Haml as often as
in the texts the piece is made of.
-/

namespace HtmlToHaml.Haml

open Text

variable {c d : Char} {s t : List Char} {lines : List (List Char)} {level : Nat}

/-- A character outside ASCII that is no white space. -/
structure Inert (c : Char) : Prop where
  /-- It is not ASCII. -/
  high : 128 ≤ c.toNat
  /-- It is no white space. -/
  solid : isSpace c = false

namespace Inert

/-- An ASCII text does not hold it. -/
theorem not_mem (h : Inert c) (hs : (s.all fun d => d.toNat < 128) = true) : c ∉ s := by
  intro hm
  have hlow := List.all_eq_true.1 hs c hm
  have hhigh := h.high
  simp only [decide_eq_true_eq] at hlow
  omega

/-- It is no ASCII character. -/
theorem ne (h : Inert c) (hd : d.toNat < 128) : c ≠ d := by
  rintro rfl
  have hhigh := h.high
  omega

/-- It does not occur in an ASCII text. -/
theorem count_eq_zero (h : Inert c) (hs : (s.all fun d => d.toNat < 128) = true) :
    s.count c = 0 :=
  List.count_eq_zero.2 (h.not_mem hs)

/-- An ASCII character in front makes no difference. -/
theorem count_cons (h : Inert c) (hd : d.toNat < 128) : (d :: s).count c = s.count c :=
  List.count_cons_of_ne (h.ne hd).symm

end Inert

section PlainText

/-- An indentation holds spaces only. -/
theorem count_indentation (hc : isSpace c = false) : (indentation level).count c = 0 := by
  have hspace : ' ' ≠ c := by
    rintro rfl
    exact absurd hc (by decide)
  rw [indentation, List.count_replicate, if_neg (by simpa using hspace)]

/-- An indentation does not hold what is neither ASCII nor white space. -/
theorem Inert.count_indentation (h : Inert c) : (indentation level).count c = 0 :=
  Haml.count_indentation h.solid

/-- References stand for ampersands and angle brackets only. -/
theorem count_htmlEscape (hc : c ∉ "&<>amplgt;".toList) : (htmlEscape s).count c = s.count c := by
  have hnone : ∀ {t : List Char}, t ⊆ "&<>amplgt;".toList → t.count c = 0 :=
    fun ht => List.count_eq_zero.2 fun hm => hc (ht hm)
  rw [htmlEscape]
  calc _ = (s.flatMap fun d => [d]).count c := by
        refine count_flatMap_congr fun d _ => ?_
        split
        · rw [hnone (by decide), hnone (by decide)]
        · rw [hnone (by decide), hnone (by decide)]
        · rw [hnone (by decide), hnone (by decide)]
        · rfl
    _ = s.count c := by rw [List.flatMap_singleton']

/-- Only backslashes are put in front of interpolations. -/
theorem count_escapeInterpolation (hc : c ≠ '\\') :
    (escapeInterpolation s).count c = s.count c := by
  induction s using escapeInterpolation.induct with
  | case1 s ih => simp [escapeInterpolation, List.count_cons, ih, hc.symm]
  | case2 d s hne ih =>
    rw [escapeInterpolation, List.count_cons, List.count_cons, ih]
    exact hne
  | case3 => rfl

/-- A line of text is indented and perhaps escaped. -/
theorem count_textLine (h : Inert c) (escapeSpecial : Bool) :
    (textLine level escapeSpecial s).count c = s.count c := by
  rw [textLine]
  simp only [List.count_append, h.count_indentation, h.count_eq_zero (s := ['\n']) rfl]
  split
  · rw [h.count_eq_zero (s := ['\\']) rfl]
    simp
  · simp

/-- Lines of text are the text. -/
theorem count_textLines (h : Inert c) (escapeSpecial : Bool) :
    (textLines s level escapeSpecial).count c = s.count c := by
  rw [textLines]
  split
  · rename_i hb
    rw [count_of_isBlank h.solid hb]
    rfl
  · have hline : ∀ line ∈ splitLines (trim s),
        (textLine level escapeSpecial (trim line)).count c = (id line).count c := by
      intro line _
      rw [count_textLine h, count_trim h.solid]
      rfl
    rw [count_flatMap_congr hline, List.flatMap_id, count_splitLines (ne_newline h.solid),
      count_trim h.solid]

end PlainText

section Literals

/-- An escaped character is itself or ASCII in place of ASCII. -/
theorem count_rubyEscapeChar (h : Inert c) (d : Char) (rest : List Char) :
    (rubyEscapeChar d rest).count c = [d].count c := by
  have hascii : ∀ {t : List Char}, d.toNat < 128 → (t.all fun d => d.toNat < 128) = true →
      t.count c = [d].count c := by
    intro t hd ht
    rw [h.count_eq_zero ht, h.count_cons hd]
    rfl
  rw [rubyEscapeChar]
  split
  · rename_i hd
    exact hascii (by simp [hd]) rfl
  split
  · rename_i hd
    exact hascii (by simp [hd]) rfl
  split
  · rename_i hd
    exact hascii (by simp [hd]) rfl
  split
  · rename_i hd
    exact hascii (by simp [hd]) rfl
  split
  · rename_i hd
    exact hascii (by simp [hd]) rfl
  split
  · rename_i hd
    exact hascii (by simp [hd.1]) rfl
  split
  · rename_i hd
    have hlow : d.toNat < 128 := by omega
    have hpair : ((Encoding.hexPair d.toNat.toUInt8).all fun d => d.toNat < 128) = true :=
      List.all_eq_true.2 fun x hx =>
        decide_eq_true (Nat.lt_of_le_of_lt (hexPair_range hx).2 (by decide))
    exact hascii hlow hpair
  · rfl

/-- A literal says its text. -/
theorem count_rubyEscape (h : Inert c) : (rubyEscape s).count c = s.count c := by
  induction s with
  | nil => rfl
  | cons d rest ih =>
    rw [rubyEscape, List.count_append, count_rubyEscapeChar h, ih, ← List.count_append]
    rfl

/-- A quoted literal says its text. -/
theorem count_rubyString (h : Inert c) : (rubyString s).count c = s.count c := by
  have hquote : ['"'].count c = 0 := h.count_eq_zero rfl
  rw [rubyString, List.count_append, h.count_cons (by decide), count_rubyEscape h, hquote]
  rfl

end Literals

section Scripts

/-- An interpolation says its script. -/
theorem count_interpolation (h : Inert c) : (interpolation s).count c = s.count c := by
  have hbrace : ['}'].count c = 0 := h.count_eq_zero rfl
  rw [interpolation, List.count_append, h.count_cons (by decide), h.count_cons (by decide), hbrace]
  rfl

/-- Folding lines leaves out white space only. -/
theorem count_foldLines (hc : isSpace c = false) : (foldLines s).count c = s.count c := by
  have hspace : c ≠ ' ' := by
    rintro rfl
    exact absurd hc (by decide)
  have hboth : (foldLines s).count c = s.count c ∧
      (foldLines.skipThenFold s).count c = s.count c := by
    induction s with
    | nil => exact ⟨rfl, rfl⟩
    | cons d s ih =>
      constructor
      · rw [foldLines]
        split
        · rename_i hd
          rw [List.count_cons_of_ne hspace.symm, ih.2, hd,
            List.count_cons_of_ne (ne_newline hc).symm]
        · rw [List.count_cons, List.count_cons, ih.1]
      · rw [foldLines.skipThenFold]
        split
        · rename_i hd
          have hne : d ≠ c := by
            rintro rfl
            rw [hc] at hd
            cases hd
          rw [ih.2, List.count_cons_of_ne hne]
        · rw [List.count_cons, List.count_cons, ih.1]
  exact hboth.1

/-- A script on one line says the script. -/
theorem count_collapseScript (hc : isSpace c = false) : (collapseScript s).count c = s.count c := by
  rw [collapseScript, count_trim hc, count_foldLines hc]

/-- A text is what stands around a needle, if the needle is left out. -/
theorem count_of_breakOn {needle before after : List Char} (hc : c ∉ needle)
    (hb : breakOn needle s = some (before, after)) :
    before.count c + after.count c = s.count c := by
  rw [eq_append_of_breakOn hb, List.count_append, List.count_append, List.count_eq_zero.2 hc]
  rfl

/-- What stands around a needle holds no ampersand if the text does not. -/
theorem not_mem_of_breakOn {needle before after : List Char} (hs : '&' ∉ s)
    (hb : breakOn needle s = some (before, after)) : '&' ∉ before ∧ '&' ∉ after := by
  rw [eq_append_of_breakOn hb] at hs
  simp only [List.mem_append, not_or] at hs
  exact ⟨hs.1.1, hs.2⟩

/-- A text is rewritten at its first marker. -/
theorem replaceMarkers_eq : replaceMarkers s =
    match breakOn markerOpen s with
    | none => s
    | some (before, inner) =>
      match breakOn markerClose inner with
      | none => s
      | some (script, rest) =>
        before ++ interpolation (Entity.unescape (trim script)) ++ replaceMarkers rest := by
  rw [replaceMarkers]
  split
  · rename_i hopen
    rw [hopen]
  · rename_i before inner hopen
    rw [hopen]
    dsimp only
    split
    · rename_i hclose
      rw [hclose]
    · rename_i script rest hclose
      rw [hclose]

/-- Interpolations in place of markers say the same. -/
theorem count_replaceMarkers (h : Inert c) (hs : '&' ∉ s) :
    (replaceMarkers s).count c = s.count c := by
  induction s using replaceMarkers.induct with
  | case1 s hopen => rw [replaceMarkers_eq, hopen]
  | case2 s before inner hopen hclose =>
    rw [replaceMarkers_eq, hopen]
    simp only [hclose]
  | case3 s before inner hopen script rest hclose ih =>
    have hinner := (not_mem_of_breakOn hs hopen).2
    obtain ⟨hscript, hrest⟩ := not_mem_of_breakOn hinner hclose
    have htrim : '&' ∉ trim script := fun hm => hscript (mem_of_mem_trimBy hm)
    have hcount : before.count c + (script.count c + rest.count c) = s.count c := by
      rw [count_of_breakOn (h.not_mem rfl) hclose, count_of_breakOn (h.not_mem rfl) hopen]
    rw [replaceMarkers_eq, hopen]
    simp only [hclose, List.count_append, count_interpolation h, Entity.unescape_of_not_mem htrim,
      count_trim h.solid, ih hrest, ← hcount, Nat.add_assoc]

/-- A text as it stands in a filter says the text. -/
theorem count_interpolateMarkers (h : Inert c) (erb : Bool) (hs : '&' ∉ s) :
    (interpolateMarkers erb s).count c = s.count c := by
  rw [interpolateMarkers]
  split
  · have hescaped : '&' ∉ escapeInterpolation s := by
      rw [← List.count_eq_zero, count_escapeInterpolation (by decide), List.count_eq_zero]
      exact hs
    rw [count_replaceMarkers h hescaped, count_escapeInterpolation (h.ne (by decide))]
  · rfl

end Scripts

section Values

/-- A marker at the start of a value is its first script. -/
theorem valueScripts_of_marker {script rest : List Char}
    (hm : (stripPrefix? markerOpen (d :: s)).bind markerScript? = some (script, rest)) :
    valueScripts (d :: s) = (([], script) :: (valueScripts rest).1, (valueScripts rest).2) := by
  rw [valueScripts]
  split
  · rename_i other more ho
    rw [hm] at ho
    cases ho
    rfl
  · rename_i ho
    rw [hm] at ho
    cases ho

/-- Any other character stands in front of the first script, or of the end. -/
theorem valueScripts_of_none
    (hm : (stripPrefix? markerOpen (d :: s)).bind markerScript? = none) :
    (∀ last, valueScripts s = ([], last) → valueScripts (d :: s) = ([], d :: last)) ∧
      ∀ before script more last, valueScripts s = ((before, script) :: more, last) →
        valueScripts (d :: s) = ((d :: before, script) :: more, last) := by
  constructor
  · intro last hs
    rw [valueScripts]
    split
    · rename_i ho
      rw [hm] at ho
      cases ho
    · simp only [hs]
  · intro before script more last hs
    rw [valueScripts]
    split
    · rename_i ho
      rw [hm] at ho
      cases ho
    · simp only [hs]

/-- A marker and the text after it are the text they begin. -/
theorem marker_spec {script rest : List Char} (h : Inert c)
    (hm : (stripPrefix? markerOpen s).bind markerScript? = some (script, rest)) :
    script.count c + rest.count c = s.count c ∧ ('&' ∉ s → '&' ∉ script ∧ '&' ∉ rest) := by
  obtain ⟨inner, hopen, hscript⟩ := Option.bind_eq_some_iff.1 hm
  obtain rfl := stripPrefix?_eq_some_iff.1 hopen
  rw [markerScript?] at hscript
  split at hscript
  · rename_i body after hclose
    split at hscript
    · cases hscript
    · simp only [Option.some.injEq, Prod.mk.injEq] at hscript
      obtain ⟨rfl, rfl⟩ := hscript
      refine ⟨?_, fun hs => ?_⟩
      · have htag : markerOpen.count c = 0 := h.count_eq_zero rfl
        rw [count_trimBy (isAsciiSpace_eq_false h.solid), count_of_breakOn (h.not_mem rfl) hclose,
          List.count_append, htag, Nat.zero_add]
      · obtain ⟨hbody, hafter⟩ := not_mem_of_breakOn
          (fun hi => hs (List.mem_append_right _ hi)) hclose
        exact ⟨fun hn => hbody (mem_of_mem_trimBy hn), hafter⟩
  · cases hscript

/-- The scripts in a value and the text around them say the value, and hold no ampersand if the
value does not. -/
theorem valueScripts_spec (h : Inert c) (hs : '&' ∉ s) :
    ((valueScripts s).1.flatMap fun piece => piece.1 ++ piece.2).count c +
        (valueScripts s).2.count c = s.count c ∧
      ∀ piece ∈ (valueScripts s).1, '&' ∉ piece.2 := by
  induction s using valueScripts.induct with
  | case1 =>
    rw [valueScripts]
    simp
  | case2 d s script rest hm ih =>
    obtain ⟨hcount, hand⟩ := marker_spec h hm
    obtain ⟨hscript, hrest⟩ := hand hs
    obtain ⟨ih, ihand⟩ := ih hrest
    rw [valueScripts_of_marker hm]
    refine ⟨?_, fun piece hp => ?_⟩
    · simp only [List.flatMap_cons, List.nil_append, List.count_append]
      rw [Nat.add_assoc, ih, hcount]
    · rcases List.mem_cons.1 hp with rfl | hp
      · exact hscript
      · exact ihand piece hp
  | case3 d s hm last hrest ih =>
    rw [List.mem_cons, not_or] at hs
    obtain ⟨ih, -⟩ := ih hs.2
    rw [hrest] at ih
    rw [(valueScripts_of_none hm).1 _ hrest]
    refine ⟨?_, by simp⟩
    simp only [List.flatMap_nil, List.count_nil, Nat.zero_add, List.count_cons] at ih ⊢
    rw [ih]
  | case4 d s hm before script more last hrest ih =>
    rw [List.mem_cons, not_or] at hs
    obtain ⟨ih, ihand⟩ := ih hs.2
    rw [hrest] at ih ihand
    rw [(valueScripts_of_none hm).2 _ _ _ _ hrest]
    refine ⟨?_, fun piece hp => ?_⟩
    · simp only [List.flatMap_cons, List.count_append, List.count_cons] at ih ⊢
      omega
    · rcases List.mem_cons.1 hp with rfl | hp
      · exact ihand (before, script) List.mem_cons_self
      · exact ihand piece (List.mem_cons_of_mem _ hp)

/-- The expression for a value says the value. -/
theorem count_expression? {expression : List Char} (h : Inert c) (hs : '&' ∉ s)
    (he : expression? s = some expression) : expression.count c = s.count c := by
  obtain ⟨hcount, hand⟩ := valueScripts_spec h hs
  rw [expression?] at he
  split at he
  · cases he
  · rename_i script hv
    rw [hv] at hcount hand
    have hscript := hand ([], script) (by simp)
    simp only [Entity.unescape_of_not_mem hscript, Option.some.injEq] at he
    simp only [List.flatMap_cons, List.flatMap_nil, List.nil_append, List.append_nil,
      List.count_nil, Nat.add_zero] at hcount
    rw [← hcount, ← he]
    split
    · rename_i hempty
      rw [List.isEmpty_iff.1 hempty]
      exact h.count_eq_zero rfl
    · rfl
  · rename_i found last _ _ hv
    rw [hv] at hcount hand
    cases he
    have hpieces : (found.flatMap fun piece =>
        rubyEscape piece.1 ++ interpolation (Entity.unescape piece.2)).count c =
          (found.flatMap fun piece => piece.1 ++ piece.2).count c := by
      apply count_flatMap_congr
      intro piece hp
      rw [List.count_append, List.count_append, count_rubyEscape h, count_interpolation h,
        Entity.unescape_of_not_mem (hand piece hp)]
    have hquote : ∀ t : List Char, ('"' :: t).count c = t.count c :=
      fun _ => h.count_cons (by decide)
    simp only [List.cons_append, hquote, List.count_append, hpieces, count_rubyEscape h]
    exact hcount

/-- A value in Ruby says the value. -/
theorem count_classify (h : Inert c) (erb : Bool) (hs : '&' ∉ s) :
    (AttributeValue.classify s erb).toRuby.count c = s.count c := by
  rw [AttributeValue.classify]
  split
  · rename_i expression he
    cases erb with
    | false => cases he
    | true => exact count_expression? h hs he
  · exact count_rubyString h

end Values

end HtmlToHaml.Haml
