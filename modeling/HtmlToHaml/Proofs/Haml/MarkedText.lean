import HtmlToHaml.Proofs.Entity.Braces
import HtmlToHaml.Proofs.Haml.Escape

/-!
# Texts with scripts between their tags

A text in which scripts stand between their tags is rewritten piece by piece: tags neither overlap
nor hold anything that is escaped, so the text around a script and the script are cut out as they
were written. Interpolations are taken back before the tags are looked at, in the scripts as well as
around them, so a script is passed on unchanged exactly if it holds no interpolation of its own.
-/

namespace HtmlToHaml.Haml

open Text

variable {s before script after first : List Char}

section Tags

/-- A script as it is written out between its tags in a text. -/
def marked (before script after : List Char) : List Char :=
  before ++ (markerOpen ++ (script ++ (markerClose ++ after)))

/-- A script stands between its tags somewhere in the text. -/
def HoldsMarker (s : List Char) : Prop :=
  ∃ before script after, s = marked before script after

/-- The first opening tag of a text is found, whatever follows. -/
theorem breakOn_markerOpen (h : ¬ markerOpen <:+: before) (after : List Char) :
    breakOn markerOpen (before ++ (markerOpen ++ after)) = some (before, after) :=
  breakOn_append (by decide) h

/-- The first closing tag of a text is found, whatever follows. -/
theorem breakOn_markerClose (h : ¬ markerClose <:+: script) (after : List Char) :
    breakOn markerClose (script ++ (markerClose ++ after)) = some (script, after) :=
  breakOn_append (by decide) h

/-- An opening tag is found before interpolations are taken back or behind that. -/
theorem breakOn_markerOpen_escape (s : List Char) :
    breakOn markerOpen (escapeInterpolation s) =
      (breakOn markerOpen s).map (Prod.map escapeInterpolation escapeInterpolation) :=
  breakOn_escapeInterpolation (by decide) (by decide) (by decide) s

/-- A closing tag is found before interpolations are taken back or behind that. -/
theorem breakOn_markerClose_escape (s : List Char) :
    breakOn markerClose (escapeInterpolation s) =
      (breakOn markerClose s).map (Prod.map escapeInterpolation escapeInterpolation) :=
  breakOn_escapeInterpolation (by decide) (by decide) (by decide) s

/-- Taking interpolations back brings no opening tag. -/
theorem markerOpen_not_isInfix_escape (h : ¬ markerOpen <:+: s) :
    ¬ markerOpen <:+: escapeInterpolation s :=
  not_isInfix_escapeInterpolation (by decide) (by decide) (by decide) h

/-- Taking interpolations back brings no closing tag. -/
theorem markerClose_not_isInfix_escape (h : ¬ markerClose <:+: s) :
    ¬ markerClose <:+: escapeInterpolation s :=
  not_isInfix_escapeInterpolation (by decide) (by decide) (by decide) h

/-- Interpolations are taken back around the tags of a script. -/
theorem escapeInterpolation_marked : escapeInterpolation (marked before script after) =
    marked (escapeInterpolation before) (escapeInterpolation script)
      (escapeInterpolation after) := by
  rw [marked, escapeInterpolation_append (by simp [markerOpen]),
    escapeInterpolation_append_of_hash_not_mem (by decide),
    escapeInterpolation_append (by simp [markerClose]),
    escapeInterpolation_append_of_hash_not_mem (by decide), marked]

end Tags

section Markers

/-- A text holds a script exactly if both of its tags are found. -/
theorem holdsMarker_iff : HoldsMarker s ↔ ∃ before inner script after,
    breakOn markerOpen s = some (before, inner) ∧
      breakOn markerClose inner = some (script, after) := by
  constructor
  · rintro ⟨before, script, after, rfl⟩
    obtain ⟨front, inner, hopen, ⟨more, hmore⟩⟩ :=
      exists_breakOn_append markerOpen before (script ++ (markerClose ++ after))
    obtain ⟨source, rest, hclose, -⟩ := exists_breakOn_append markerClose (more ++ script) after
    rw [List.append_assoc, hmore] at hclose
    exact ⟨front, inner, source, rest, hopen, hclose⟩
  · rintro ⟨before, inner, script, after, hopen, hclose⟩
    refine ⟨before, script, after, ?_⟩
    rw [eq_append_of_breakOn hopen, eq_append_of_breakOn hclose, marked]
    simp only [List.append_assoc]

/-- Taking interpolations back brings no script and takes none away. -/
theorem holdsMarker_escapeInterpolation : HoldsMarker (escapeInterpolation s) ↔ HoldsMarker s := by
  constructor
  · intro h
    obtain ⟨before, inner, script, after, hopen, hclose⟩ := holdsMarker_iff.1 h
    rw [breakOn_markerOpen_escape, Option.map_eq_some_iff] at hopen
    obtain ⟨⟨front, source⟩, hopen, he⟩ := hopen
    obtain ⟨rfl, rfl⟩ := Prod.mk.inj he
    rw [breakOn_markerClose_escape, Option.map_eq_some_iff] at hclose
    obtain ⟨⟨code, rest⟩, hclose, -⟩ := hclose
    exact holdsMarker_iff.2 ⟨front, source, code, rest, hopen, hclose⟩
  · rintro ⟨before, script, after, rfl⟩
    exact ⟨_, _, _, escapeInterpolation_marked⟩

/-- The script between its tags becomes an interpolation. -/
theorem replaceMarkers_marked (hbefore : ¬ markerOpen <:+: before)
    (hscript : ¬ markerClose <:+: script) :
    replaceMarkers (marked before script after) =
      before ++ interpolation (Entity.unescape (trim script)) ++ replaceMarkers after := by
  rw [replaceMarkers_eq, marked, breakOn_markerOpen hbefore]
  simp only [breakOn_markerClose hscript]

/-- A text without an opening tag is left as it is. -/
theorem replaceMarkers_of_not_isInfix (h : ¬ markerOpen <:+: s) : replaceMarkers s = s := by
  rw [replaceMarkers_eq, breakOn_of_not_isInfix h]

/-- **A text is rewritten exactly if a script stands between its tags in it.** -/
theorem replaceMarkers_eq_self_iff : replaceMarkers s = s ↔ ¬ HoldsMarker s := by
  rw [replaceMarkers_eq, holdsMarker_iff]
  cases hopen : breakOn markerOpen s with
  | none => simp
  | some cut =>
    obtain ⟨before, inner⟩ := cut
    cases hclose : breakOn markerClose inner with
    | none => simp [hclose]
    | some cut =>
      obtain ⟨script, after⟩ := cut
      simp only [hclose]
      refine iff_of_false (fun he => ?_) fun h => h ⟨before, inner, script, after, rfl, hclose⟩
      -- Behind `before` a `#` would stand in the place of an angle bracket.
      rw [eq_append_of_breakOn hopen, List.append_assoc, List.append_assoc,
        List.append_cancel_left_eq] at he
      cases he

end Markers

section Pieces

/-- A script in a text, with the text behind it. -/
structure ScriptPiece where
  /-- The script, as it stands between its tags. -/
  script : List Char
  /-- The text up to the next script, or to the end. -/
  after : List Char

/-- The tags of a piece are those that are read: the script is not closed within itself, and no
script is opened in the text behind it. -/
structure ScriptPiece.Clear (piece : ScriptPiece) : Prop where
  /-- No closing tag stands in the script. -/
  script : ¬ markerClose <:+: piece.script
  /-- No opening tag stands in the text. -/
  after : ¬ markerOpen <:+: piece.after

instance (piece : ScriptPiece) : Decidable piece.Clear :=
  decidable_of_iff (¬ markerClose <:+: piece.script ∧ ¬ markerOpen <:+: piece.after)
    ⟨fun h => ⟨h.1, h.2⟩, fun h => ⟨h.script, h.after⟩⟩

/-- A text with its scripts written out between their tags. -/
def withMarkers (first : List Char) : List ScriptPiece → List Char
  | [] => first
  | piece :: pieces => marked first piece.script (withMarkers piece.after pieces)

/-- A text with its scripts as interpolations. The text around them is rewritten by `text`, and the
body of an interpolation is made from its script by `body`. -/
def interpolated (text body : List Char → List Char) (first : List Char)
    (pieces : List ScriptPiece) : List Char :=
  text first ++ pieces.flatMap fun piece => interpolation (body piece.script) ++ text piece.after

/-- Interpolations are taken back in the scripts of a text as well as around them. -/
theorem interpolateMarkers_withMarkers {pieces : List ScriptPiece}
    (hfirst : ¬ markerOpen <:+: first) (hpieces : ∀ piece ∈ pieces, piece.Clear) :
    interpolateMarkers true (withMarkers first pieces) =
      interpolated escapeInterpolation
        (fun script => Entity.unescape (escapeInterpolation (trim script))) first pieces := by
  rw [interpolateMarkers, if_pos rfl]
  induction pieces generalizing first with
  | nil =>
    rw [withMarkers, interpolated, List.flatMap_nil, List.append_nil,
      replaceMarkers_of_not_isInfix (markerOpen_not_isInfix_escape hfirst)]
  | cons piece pieces ih =>
    obtain ⟨hpiece, hpieces⟩ := List.forall_mem_cons.1 hpieces
    rw [withMarkers, escapeInterpolation_marked,
      replaceMarkers_marked (markerOpen_not_isInfix_escape hfirst)
        (markerClose_not_isInfix_escape hpiece.script),
      trim_escapeInterpolation, ih hpiece.after hpieces, interpolated, interpolated,
      List.flatMap_cons]
    simp only [List.append_assoc]

end Pieces

section Scripts

/-- Trimming takes no interpolation away. -/
theorem interpolation_isInfix_trim_iff : ['#', '{'] <:+: trim s ↔ ['#', '{'] <:+: s := by
  refine ⟨fun h => h.trans (trim_isInfix s), ?_⟩
  rintro ⟨before, after, rfl⟩
  refine ⟨trimStart before, trimEnd after, ?_⟩
  have hstart : trimStart (before ++ ['#', '{'] ++ after) =
      trimStart before ++ ['#'] ++ '{' :: after := by
    rw [List.append_assoc, List.cons_append, trimStart_append_cons (by decide)]
    simp
  rw [trim_eq, hstart, trimEnd_append_cons (by decide)]
  simp

/-- A script without interpolations of its own is passed on as it is. -/
theorem unescape_escape_of_not_isInfix (h : ¬ ['#', '{'] <:+: script) :
    Entity.unescape (escapeInterpolation (trim script)) = Entity.unescape (trim script) := by
  rw [escapeInterpolation_of_not_isInfix fun hm => h (interpolation_isInfix_trim_iff.1 hm)]

/-- A script comes out no shorter than it went in, and longer if it has an interpolation
of its own. -/
theorem length_unescape_le (script : List Char) :
    (Entity.unescape (trim script)).length ≤
        (Entity.unescape (escapeInterpolation (trim script))).length ∧
      (['#', '{'] <:+: script → (Entity.unescape (trim script)).length <
        (Entity.unescape (escapeInterpolation (trim script))).length) := by
  have hlength := Entity.length_unescape_escapeInterpolation (trim script)
  have hle := length_le_length_escapeInterpolation (s := trim script)
  refine ⟨by omega, fun h => ?_⟩
  have hlt := length_lt_length_escapeInterpolation (interpolation_isInfix_trim_iff.2 h)
  omega

section Lengths

variable {α : Type} {f g : α → List Char} {parts : List α}

/-- Parts of which none is longer than its counterpart make up a text that is no longer. -/
theorem length_flatMap_le_of_le (hle : ∀ part ∈ parts, (g part).length ≤ (f part).length) :
    (parts.flatMap g).length ≤ (parts.flatMap f).length := by
  induction parts with
  | nil => exact Nat.le_refl _
  | cons part parts ih =>
    obtain ⟨hpart, hle⟩ := List.forall_mem_cons.1 hle
    rw [List.flatMap_cons, List.flatMap_cons, List.length_append, List.length_append]
    exact Nat.add_le_add hpart (ih hle)

/-- Parts that make up the same text, none of them longer than its counterpart, are as long as their
counterparts. -/
theorem length_eq_of_flatMap_eq (hle : ∀ part ∈ parts, (g part).length ≤ (f part).length)
    (h : parts.flatMap f = parts.flatMap g) :
    ∀ part ∈ parts, (f part).length = (g part).length := by
  induction parts with
  | nil => exact fun _ hp => absurd hp (by simp)
  | cons part parts ih =>
    obtain ⟨hpart, hle⟩ := List.forall_mem_cons.1 hle
    rw [List.flatMap_cons, List.flatMap_cons] at h
    -- Neither the part nor the rest is shorter, so neither of them can be longer.
    have heq : (f part).length = (g part).length := by
      have htail := length_flatMap_le_of_le hle
      have hlength := congrArg List.length h
      rw [List.length_append, List.length_append] at hlength
      omega
    exact List.forall_mem_cons.2 ⟨heq, ih hle (List.append_inj h heq).2⟩

end Lengths

/-- **Interpolations are taken back in the scripts of a text as well as around them.** Pieces are
neither lost nor cut, and the scripts come out as they were written exactly if none of them has an
interpolation of its own. -/
theorem interpolateMarkers_pieces {pieces : List ScriptPiece} (hfirst : ¬ markerOpen <:+: first)
    (hpieces : ∀ piece ∈ pieces, piece.Clear) :
    interpolateMarkers true (withMarkers first pieces) =
        interpolated escapeInterpolation
          (fun script => Entity.unescape (escapeInterpolation (trim script))) first pieces ∧
      (interpolateMarkers true (withMarkers first pieces) =
          interpolated escapeInterpolation (fun script => Entity.unescape (trim script))
            first pieces ↔
        ∀ piece ∈ pieces, ¬ ['#', '{'] <:+: piece.script) := by
  have hall := interpolateMarkers_withMarkers hfirst hpieces
  refine ⟨hall, ?_⟩
  rw [hall, interpolated, interpolated, List.append_cancel_left_eq]
  constructor
  · intro h piece hp hinfix
    have hlength := length_eq_of_flatMap_eq (fun piece _ => ?_) h piece hp
    · have hlt := (length_unescape_le piece.script).2 hinfix
      simp only [interpolation, List.length_append, List.length_cons] at hlength
      omega
    · have hle := (length_unescape_le piece.script).1
      simp only [interpolation, List.length_append, List.length_cons]
      omega
  · intro h
    refine List.flatMap_congr fun piece hp => ?_
    rw [unescape_escape_of_not_isInfix (h piece hp)]

/-- A script that is a string with an interpolation. -/
theorem interpolateMarkers_pieces_nested :
    interpolateMarkers true "Hi <loud> \"\x23\x7bx\x7d\" </loud>!".toList =
      "Hi \x23\x7b\"\\\x23\x7bx\x7d\"\x7d!".toList := by
  have hpieces : ∀ piece ∈ [ScriptPiece.mk " \"\x23\x7bx\x7d\" ".toList ['!']], piece.Clear := by
    decide
  have hfirst : ¬ markerOpen <:+: "Hi ".toList := by decide
  have htext := (interpolateMarkers_pieces hfirst hpieces).1
  exact htext.trans (by decide +kernel)

/-- A text in which a script has an interpolation of its own is not passed on with the script as
it was written. -/
theorem not_interpolateMarkers_unchanged :
    ¬ ∀ first pieces, ¬ markerOpen <:+: first → (∀ piece ∈ pieces, piece.Clear) →
      interpolateMarkers true (withMarkers first pieces) =
        interpolated escapeInterpolation (fun script => Entity.unescape (trim script))
          first pieces := by
  intro h
  have hpieces : ∀ piece ∈ [ScriptPiece.mk "\"\x23\x7bx\x7d\"".toList []], piece.Clear := by
    decide
  have htext := h [] _ (by decide) hpieces
  rw [interpolateMarkers_withMarkers (by decide) hpieces] at htext
  exact absurd htext (by decide +kernel)

end Scripts

end HtmlToHaml.Haml
