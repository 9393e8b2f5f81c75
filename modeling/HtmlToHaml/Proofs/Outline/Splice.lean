import HtmlToHaml.Proofs.Forest.Built
import HtmlToHaml.Proofs.Haml.Escape
import HtmlToHaml.Proofs.Outline.Passage

/-!
# Live values beside literal text

A printed script after a text becomes an interpolation in the text's last line, while an
interpolation that the text itself holds is taken back by a backslash. The main statement compares
the two: they are written alike exactly if the last line of the text has nothing but white space in
front of the interpolation, for there the backslash of special characters takes back the live value
as well.
-/

namespace HtmlToHaml.Haml

open Text DocTree

variable {s : List Char} {level : Nat} {escapeSpecial : Bool}

section Lines

/-- Text that is put behind another one comes into its last line, and into no other. -/
theorem textLines_append {c d : Char} {mid : List Char} (hc : isSpace c = false)
    (hd : isSpace d = false) (hn : '\n' ∉ c :: mid ++ [d]) :
    textLines (s ++ (c :: mid ++ [d])) level escapeSpecial =
      ((splitLines (trimStart s)).dropLast.flatMap fun line =>
          textLine level escapeSpecial (trim line)) ++
        textLine level escapeSpecial (trimStart (lastLine s) ++ (c :: mid ++ [d])) := by
  have hb : isBlank (s ++ (c :: mid ++ [d])) = false := by simp [isBlank, hc]
  rw [textLines, if_neg (Bool.eq_false_iff.1 hb), trim_append hc hd, splitLines_append hn,
    List.flatMap_append, List.flatMap_singleton, trim_append hc hd, trimStart_lastLine_trimStart]

/-- A line with a live value that would be read as a construct would be read so with the value taken
back, unless the value begins the line. -/
theorem needsEscape_takenBack {line more more' : List Char} (hl : line ≠ [])
    (h : needsEscape (line ++ '#' :: '{' :: more) = true) :
    needsEscape (line ++ '\\' :: '#' :: '{' :: more') = true := by
  obtain ⟨c, rest, rfl⟩ := List.exists_cons_of_ne_nil hl
  rw [List.cons_append, needsEscape_cons] at h ⊢
  refine h.imp_right (mt (And.imp_right fun hp => ?_))
  -- the backslash does not stand in the first two places, so the line itself begins in this way
  rcases rest with _ | ⟨d, _ | ⟨e, rest⟩⟩
  · simp at hp
  · simp at hp
  · simpa using hp

/-- A line with a live value is the line with the value taken back only if the value begins it and
needs no escapes. -/
theorem textLine_eq_takenBack_iff {line script script' : List Char}
    (hlen : script.length ≤ script'.length) :
    textLine level true (line ++ '#' :: '{' :: (script ++ ['}'])) =
        textLine level true (line ++ '\\' :: '#' :: '{' :: (script' ++ ['}'])) ↔
      line = [] ∧ script' = script := by
  by_cases hl : line = []
  · subst hl
    have hlive : needsEscape ([] ++ '#' :: '{' :: (script ++ ['}'])) = true := by
      rw [List.nil_append, needsEscape_cons]
      simp [specialCharacters]
    have htaken : needsEscape ([] ++ '\\' :: '#' :: '{' :: (script' ++ ['}'])) = false := rfl
    rw [textLine, textLine, hlive, htaken]
    simpa using eq_comm
  · refine iff_of_false (fun he => ?_) fun h => hl h.1
    have hlength := congrArg List.length he
    simp only [textLine, List.length_append, List.length_cons, Bool.true_and] at hlength
    -- the taken-back line has one more character, so the live one needs a backslash and it does not
    cases hlive : needsEscape (line ++ '#' :: '{' :: (script ++ ['}'])) with
    | false =>
      simp [hlive] at hlength
      split at hlength <;> simp at hlength <;> omega
    | true =>
      simp [hlive, needsEscape_takenBack hl hlive] at hlength
      omega

/-- A text with a live value behind it is the text with the value taken back only if the last line
of the text is blank and the value needs no escapes. -/
theorem textLines_eq_takenBack_iff {script script' : List Char} (hn : '\n' ∉ script)
    (hn' : '\n' ∉ script') (hlen : script.length ≤ script'.length) :
    textLines (s ++ '#' :: '{' :: (script ++ ['}'])) level true =
        textLines (s ++ '\\' :: '#' :: '{' :: (script' ++ ['}'])) level true ↔
      isBlank (lastLine s) = true ∧ script' = script := by
  have hlive := @textLines_append s level true '#' '}' ('{' :: script) (by decide) (by decide)
    (by simp [hn])
  have htaken := @textLines_append s level true '\\' '}' ('#' :: '{' :: script') (by decide)
    (by decide) (by simp [hn'])
  simp only [List.cons_append] at hlive htaken
  rw [hlive, htaken, List.append_right_inj, textLine_eq_takenBack_iff hlen, trimStart_eq_nil_iff]

end Lines

section Documents

variable {store literal : Store} {options : Options} {attributes : List Attribute}
  {selfClosing : Bool} {text source : String}

/-- A script on one line. -/
theorem newline_not_mem_collapseScript (s : List Char) : '\n' ∉ collapseScript s := by
  have hfold : '\n' ∉ foldLines s ∧ '\n' ∉ foldLines.skipThenFold s := by
    induction s with
    | nil => simp [foldLines, foldLines.skipThenFold]
    | cons c s ih =>
      rw [foldLines, foldLines.skipThenFold]
      by_cases hc : c = '\n'
      · subst hc
        rw [if_pos rfl, if_pos isSpace_newline]
        simpa using ih.2
      · rw [if_neg hc]
        split <;> simp [ih, Ne.symm hc]
  exact fun h => hfold.1 (mem_of_mem_trimBy h)

/-- An interpolation that a text holds is taken back. -/
theorem escape_append_interpolation (s script : List Char) :
    escapeInterpolation (htmlEscape (s ++ interpolation script)) =
      escapeInterpolation (htmlEscape s) ++
        '\\' :: '#' :: '{' :: (escapeInterpolation (htmlEscape script) ++ ['}']) := by
  have hopen : htmlEscape (interpolation script) = '#' :: '{' :: (htmlEscape script ++ ['}']) := by
    rw [interpolation, htmlEscape_append]
    rfl
  rw [htmlEscape_append, hopen, escapeInterpolation_append (by simp), escapeInterpolation.eq_1,
    escapeInterpolation_append (by simp)]
  rfl

/-- A text alone is written as its lines. -/
theorem writeRow_text {depth : Nat} (inPre : Bool) (ht : isBlank text.toList = false) :
    writeRow options (depth + 1) inPre level [.leaf (.text text)] =
      .ok (textLines (escapeInterpolation (htmlEscape text.toList)) level true) := by
  have htext : writeText options.erb text.toList [] level true =
      textLines (escapeInterpolation (htmlEscape text.toList)) level true := by
    simp [writeText, ht, spliced]
  have hfirst : writeNext options (writeRow options depth) inPre level {} [] (.leaf (.text text)) =
      .ok (textLines (escapeInterpolation (htmlEscape text.toList)) level true) :=
    congrArg Except.ok htext
  rw [writeRow, writeFrom, hfirst]
  exact congrArg Except.ok (List.append_nil _)

/-- A text takes the script after it into its lines. -/
theorem writeRow_spliced {depth : Nat} (inPre : Bool) (herb : options.erb = true)
    (ht : isBlank text.toList = false) :
    writeRow options (depth + 1) inPre level
        [.leaf (.text text),
          .branch (.element "loud" attributes selfClosing) [.leaf (.text source)]] =
      .ok (textLines (escapeInterpolation (htmlEscape text.toList) ++
        interpolation (collapseScript (Entity.unescape source.toList))) level true) := by
  have hscript : Shape.innerText
      (.branch (.element "loud" attributes selfClosing) [.leaf (.text source)]) = source.toList :=
    List.append_nil _
  have hfirst : writeNext options (writeRow options depth) inPre level {}
      [.branch (.element "loud" attributes selfClosing) [.leaf (.text source)]]
        (.leaf (.text text)) =
      .ok (textLines (escapeInterpolation (htmlEscape text.toList) ++
        interpolation (collapseScript (Entity.unescape source.toList))) level true) := by
    simp [writeNext, writeShape, writeLeaf, writeText, ht, herb, spliced, splicedShape, hscript,
      Shape.isNamed]
  have hskip : (Spot.next {} options.erb (.leaf (.text text))
      [.branch (.element "loud" attributes selfClosing) [.leaf (.text source)]]).skip = 1 := by
    simp [Spot.next, Spot.nextSkip, ht, herb, runLength, Shape.isNamed]
  rw [writeRow, writeFrom, hfirst, writeFrom, writeNext, if_neg (by simp [hskip])]
  exact congrArg Except.ok (List.append_nil _)

/-- **A live value is written as the literal text that looks like it exactly if the last line of the
text before it is blank and the value needs no escapes.** -/
theorem render_eq_literal_iff {script : List Char} (h : store.Forest) (hliteral : literal.Forest)
    (hscript : script = collapseScript (Entity.unescape source.toList))
    (hs : store.Shows store.root (.branch .fragment [.leaf (.text text),
      .branch (.element "loud" attributes selfClosing) [.leaf (.text source)]]))
    (hl : literal.Shows literal.root
      (.branch .fragment [.leaf (.text (text ++ String.ofList (interpolation script)))]))
    (herb : options.erb = true) (hdepth : 0 < options.maxDepth) (ht : isBlank text.toList = false) :
    ∃ live taken, render store options = .ok live ∧ render literal options = .ok taken ∧
      (live = taken ↔
        isBlank (lastLine text.toList) = true ∧ escapeInterpolation (htmlEscape script) =
          script) := by
  obtain ⟨depth, hdepth⟩ : ∃ depth, options.maxDepth = depth + 1 := Nat.exists_eq_add_one.2 hdepth
  have hjoined : (text ++ String.ofList (interpolation script)).toList =
      text.toList ++ interpolation script := by
    simp
  have hblank : isBlank (text.toList ++ interpolation script) = false := by
    rw [isBlank, List.all_append]
    exact (congrArg (· && _) ht).trans (Bool.false_and _)
  have hlive : render store options = _ := render_eq_writeRow h (Or.inr rfl) hs
  have htaken : render literal options = _ := render_eq_writeRow hliteral (Or.inr rfl) hl
  rw [hdepth, writeRow_spliced false herb ht, ← hscript] at hlive
  rw [hdepth, writeRow_text false (by rw [hjoined, hblank]), hjoined,
    escape_append_interpolation] at htaken
  refine ⟨_, _, hlive, htaken, ?_⟩
  have hn : '\n' ∉ script := hscript ▸ newline_not_mem_collapseScript _
  have hlen : script.length ≤ (escapeInterpolation (htmlEscape script)).length :=
    length_le_length_htmlEscape.trans length_le_length_escapeInterpolation
  have hlines := @textLines_eq_takenBack_iff (escapeInterpolation (htmlEscape text.toList)) 0 _ _ hn
    (newline_not_mem_escape hn) hlen
  rw [lastLine_escape, isBlank_escapeInterpolation, isBlank_htmlEscape] at hlines
  exact String.ofList_inj.trans hlines

/-- A script behind a line break. -/
def scriptedBreak : List Shape :=
  [.leaf (.text "a\n"), .branch (.element "loud" [] false) [.leaf (.text "x")]]

/-- The literal text that looks like the script behind a line break. -/
def literalBreak : List Shape :=
  [.leaf (.text ("a\n" ++ String.ofList (interpolation ['x'])))]

/-- Behind a line break a live value is written as the literal text. -/
theorem render_scriptedBreak :
    render (Shape.build .fragment scriptedBreak) { erb := true } =
      render (Shape.build .fragment literalBreak) { erb := true } := by
  obtain ⟨live, taken, hlive, htaken, hiff⟩ :=
    @render_eq_literal_iff (Shape.build .fragment scriptedBreak)
      (Shape.build .fragment literalBreak)
      { erb := true } [] false "a\n" "x" ['x'] (Store.forest_build _ _).1 (Store.forest_build _ _).1
      (by decide +kernel) (Store.shows_build _ rfl) (Store.shows_build _ rfl) rfl (by decide)
      (by decide)
  rw [hlive, htaken, hiff.2 ⟨by decide, by decide⟩]

/-- Live values are not always told from literal texts that look like them. -/
theorem not_render_ne_literal :
    ¬ ∀ (store literal : Store) (options : Options) (text source : String), store.Forest →
      literal.Forest →
      store.Shows store.root (.branch .fragment
        [.leaf (.text text), .branch (.element "loud" [] false) [.leaf (.text source)]]) →
      literal.Shows literal.root (.branch .fragment [.leaf (.text (text ++
        String.ofList (interpolation (collapseScript (Entity.unescape source.toList)))))]) →
      options.erb = true → isBlank text.toList = false →
      (∃ c ∈ source.toList, isSpace c = false) → render store options ≠ render literal options := by
  intro hall
  have hscript : collapseScript (Entity.unescape "x".toList) = ['x'] := by decide +kernel
  refine hall (Shape.build .fragment scriptedBreak) (Shape.build .fragment literalBreak)
    { erb := true } "a\n" "x" (Store.forest_build _ _).1 (Store.forest_build _ _).1
    (Store.shows_build _ rfl) ?_ rfl (by decide) ⟨'x', by decide, by decide⟩ (by decide +kernel)
  rw [hscript]
  exact Store.shows_build _ rfl

end Documents

end HtmlToHaml.Haml
