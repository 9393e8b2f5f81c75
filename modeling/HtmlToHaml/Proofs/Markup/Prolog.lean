import HtmlToHaml.Opening
import HtmlToHaml.Proofs.Text.Lines
import HtmlToHaml.Proofs.Text.Slices

/-!
# What stands in front of the first markup

White space, processing instructions and comments in front of a source have no say in whether it is
a whole document, in whatever order they stand there; behind one that does not end nothing is looked
for. The search with slices of the source comes to the same answer, and none of its slices fails.
-/

namespace HtmlToHaml.Markup

open Text

/-- A text ends where a mark stands in it for the first time. -/
structure EndsAt (mark s : List Char) : Prop where
  /-- The mark ends the text. -/
  isSuffix : mark <:+ s
  /-- It does not stand in the text before. -/
  not_isInfix : ¬ mark <:+: s.dropLast

/-- What may stand in front of the first markup. -/
inductive PrologItem : List Char → Prop
  /-- White space. -/
  | space {s : List Char} : isBlank s = true → PrologItem s
  /-- A processing instruction; the question mark that begins it may be the one that ends it. -/
  | instruction {s : List Char} : ['<', '?'] <+: s → EndsAt ['?', '>'] s → PrologItem s
  /-- A comment; the dashes that begin it may be those that end it. -/
  | comment {s : List Char} : ['<', '!', '-', '-'] <+: s → EndsAt ['-', '-', '>'] s → PrologItem s

/-- A text begins with a processing instruction or a comment that does not end. -/
inductive Unclosed : List Char → Prop
  /-- A processing instruction does not end. -/
  | instruction {s : List Char} : ['<', '?'] <+: s → ¬ ['?', '>'] <:+: s → Unclosed s
  /-- A comment does not end. -/
  | comment {s : List Char} : ['<', '!', '-', '-'] <+: s → ¬ ['-', '-', '>'] <:+: s → Unclosed s

variable {s t item mark rest source : List Char} {items : List (List Char)}

section Marks

/-- A processing instruction ends with a question mark and an angle bracket. -/
theorem prologEnd?_instruction (h : ['<', '?'] <+: s) : prologEnd? s = some ['?', '>'] := by
  obtain ⟨more, rfl⟩ := h
  rfl

/-- A comment ends with two dashes and an angle bracket. -/
theorem prologEnd?_comment (h : ['<', '!', '-', '-'] <+: s) :
    prologEnd? s = some ['-', '-', '>'] := by
  obtain ⟨more, rfl⟩ := h
  rfl

/-- The characters of a mark have one byte each. -/
theorem byteLength_mark (h : prologEnd? s = some mark) : byteLength mark = mark.length := by
  unfold prologEnd? at h
  split at h
  · cases h
    rfl
  · split at h
    · cases h
      rfl
    · cases h

/-- A text that ends at its first mark is cut there, whatever follows. -/
theorem EndsAt.breakOn_append (h : EndsAt mark s) (t : List Char) :
    ∃ before, breakOn mark (s ++ t) = some (before, t) := by
  obtain ⟨before, rfl⟩ := h.isSuffix
  obtain ⟨front, back, hcut, more, rfl⟩ := exists_breakOn_append mark before t
  rw [← List.append_assoc] at hcut
  have hs : before ++ mark = front ++ mark ++ more :=
    List.append_cancel_right ((eq_append_of_breakOn hcut).trans (List.append_assoc ..).symm)
  rcases List.eq_nil_or_concat' more with rfl | ⟨more, c, rfl⟩
  · exact ⟨front, hcut⟩
  · refine absurd ⟨front, more, ?_⟩ h.not_isInfix
    rw [hs, ← List.append_assoc, List.dropLast_concat]

end Marks

section Prologs

/-- What stands behind the prolog depends on the text without its leading white space. -/
theorem afterProlog_eq (source : List Char) : afterProlog source =
    match prologEnd? (trimStart source) with
    | none => some (trimStart source)
    | some mark => (breakOn mark (trimStart source)).bind fun cut => afterProlog cut.2 := by
  rw [afterProlog]
  split
  · rename_i he
    rw [he]
  · rename_i mark he
    rw [he]
    dsimp only
    split
    · rename_i hb
      rw [hb]
      rfl
    · rename_i hb
      rw [hb]
      rfl

/-- Two texts that differ in leading white space have the same behind their prologs. -/
theorem afterProlog_congr (h : trimStart s = trimStart t) : afterProlog s = afterProlog t := by
  rw [afterProlog_eq s, afterProlog_eq t, h]

/-- Behind a text that ends at the mark of its opening goes on what follows it. -/
theorem afterProlog_append_of_endsAt {opening : List Char} (hopen : opening <+: item)
    (hhead : opening.head? = some '<') (hmark : prologEnd? (item ++ s) = some mark)
    (hend : EndsAt mark item) : afterProlog (item ++ s) = afterProlog s := by
  obtain ⟨before, hcut⟩ := hend.breakOn_append s
  obtain ⟨more, rfl⟩ := hopen
  obtain ⟨name, rfl⟩ := List.head?_eq_some_iff.1 hhead
  have htrim : trimStart ('<' :: name ++ more ++ s) = '<' :: name ++ more ++ s :=
    trimStart_cons (by decide)
  rw [afterProlog_eq, htrim, hmark]
  dsimp only
  rw [hcut]
  rfl

/-- **A piece of a prolog is passed over.** -/
theorem PrologItem.afterProlog_append (h : PrologItem item) (s : List Char) :
    afterProlog (item ++ s) = afterProlog s := by
  cases h with
  | space hblank => exact afterProlog_congr (trimStart_append_of_isBlank hblank)
  | instruction hopen hend =>
    exact afterProlog_append_of_endsAt hopen rfl
      (prologEnd?_instruction (hopen.trans (List.prefix_append item s))) hend
  | comment hopen hend =>
    exact afterProlog_append_of_endsAt hopen rfl
      (prologEnd?_comment (hopen.trans (List.prefix_append item s))) hend

/-- A whole prolog is passed over. -/
theorem afterProlog_flatten_append (h : ∀ item ∈ items, PrologItem item) (s : List Char) :
    afterProlog (items.flatten ++ s) = afterProlog s := by
  induction items with
  | nil => rfl
  | cons item items ih =>
    obtain ⟨hitem, hitems⟩ := List.forall_mem_cons.1 h
    rw [List.flatten_cons, List.append_assoc, hitem.afterProlog_append, ih hitems]

/-- Nothing is looked for behind what does not end. -/
theorem Unclosed.afterProlog_eq_none (h : Unclosed (trimStart s)) : afterProlog s = none := by
  rw [afterProlog_eq]
  cases h with
  | instruction hopen hend =>
    rw [prologEnd?_instruction hopen]
    dsimp only
    rw [breakOn_of_not_isInfix hend]
    rfl
  | comment hopen hend =>
    rw [prologEnd?_comment hopen]
    dsimp only
    rw [breakOn_of_not_isInfix hend]
    rfl

end Prologs

section Slices

/-- A tag is found with slices as it is found without. -/
theorem opensAt?_eq {opening : String} (hlower : opening.toList.map Char.toLower = opening.toList) :
    opensAt? rest opening = some (opensWith rest opening) := by
  have hsize : opening.utf8ByteSize = byteLength opening.toList := by
    rw [byteLength, String.ofList_toList]
  rw [opensAt?, opensWith, hsize]
  cases hstrip : stripPrefixIgnoreCase? opening.toList rest with
  | some behind =>
    obtain ⟨front, hcut, hfront⟩ := (cutAt?_iff_stripPrefixIgnoreCase? hlower).1 hstrip
    simp [hcut, hfront]
  | none =>
    cases hcut : cutAt? (byteLength opening.toList) rest with
    | none => rfl
    | some cut =>
      have hno : cut.1.map Char.toLower ≠ opening.toList.map Char.toLower := fun hfront =>
        Option.some_ne_none cut.2
          (((cutAt?_iff_stripPrefixIgnoreCase? hlower).2 ⟨cut.1, hcut, hfront⟩).symm.trans hstrip)
      simp [hno]

/-- Checks that come to an answer each come to an answer together. -/
theorem anyM_eq_some_any {α : Type} {f : α → Option Bool} {p : α → Bool} {xs : List α}
    (h : ∀ x ∈ xs, f x = some (p x)) : xs.anyM f = some (xs.any p) := by
  induction xs with
  | nil => rfl
  | cons x xs ih =>
    obtain ⟨hx, hxs⟩ := List.forall_mem_cons.1 h
    rw [List.anyM, hx, List.any_cons]
    cases p x with
    | true => rfl
    | false => exact ih hxs

/-- **The search with slices ends, fails in no slice and comes to the answer.** -/
theorem scanOpening_eq {turns : Nat} (h : source.length < turns) :
    scanOpening turns (trimStart source) = some (looksLikeDocument source) := by
  induction turns generalizing source with
  | zero => cases h
  | succ turns ih =>
    rw [scanOpening, looksLikeDocument, afterProlog_eq]
    cases hmark : prologEnd? (trimStart source) with
    | none =>
      have hlower : ∀ opening ∈ documentOpenings,
          opening.toList.map Char.toLower = opening.toList := by decide +kernel
      exact anyM_eq_some_any fun opening hm => opensAt?_eq (hlower opening hm)
    | some mark =>
      dsimp only
      cases hcut : breakOn mark (trimStart source) with
      | none =>
        rw [positionOf?, hcut]
        rfl
      | some cut =>
        obtain ⟨before, after⟩ := cut
        obtain ⟨hposition, hslice⟩ := cutAt?_of_breakOn hcut
        have hshort : after.length < turns := by
          have hafter := length_lt_of_breakOn (ne_nil_of_prologEnd? hmark) hcut
          have htrim := (trimStartBy_isSuffix isSpace source).length_le
          rw [← trimStart] at htrim
          omega
        rw [hposition]
        dsimp only
        rw [← byteLength_mark hmark, hslice]
        exact ih hshort

end Slices

/-- **Whether a source is a whole document does not depend on its prolog.** White space, processing
instructions and comments in front of a text are passed over, in any order and number; a text that
begins with one of these that does not end is no whole document; and the search with slices comes to
this answer in no more turns than the source has characters, and one. -/
theorem looksLikeDocument_prolog {items : List (List Char)} (h : ∀ item ∈ items, PrologItem item)
    (s : List Char) :
    looksLikeDocument (items.flatten ++ s) = looksLikeDocument s ∧
      (Unclosed (trimStart s) → looksLikeDocument (items.flatten ++ s) = false) ∧
      ∀ (source : List Char) (turns : Nat), source.length < turns →
        scanOpening turns (trimStart source) = some (looksLikeDocument source) := by
  have hpast : looksLikeDocument (items.flatten ++ s) = looksLikeDocument s := by
    rw [looksLikeDocument, looksLikeDocument, afterProlog_flatten_append h]
  refine ⟨hpast, fun hopen => ?_, fun source turns hturns => scanOpening_eq hturns⟩
  rw [hpast, looksLikeDocument, hopen.afterProlog_eq_none]
  rfl

/-- White space, a declaration, a comment that ends in its own opening and one that does not. -/
def mixedProlog : List (List Char) :=
  ["\n \u3000".toList, "<?xml version='1.0'?>".toList, "<!-->".toList, "\t".toList,
    "<!-- <html> - -- -->".toList]

/-- Behind it a page is found, and a processing instruction that does not end, with slices too. -/
theorem looksLikeDocument_mixedProlog :
    (∀ item ∈ mixedProlog, PrologItem item) ∧
      looksLikeDocument (mixedProlog.flatten ++ "<HTML lang='en'>".toList) = true ∧
      looksLikeDocument (mixedProlog.flatten ++ " <?php <html>".toList) = false ∧
      scanOpening 64 (trimStart (mixedProlog.flatten ++ " <?php <html>".toList)) = some false := by
  have hitems : ∀ item ∈ mixedProlog, PrologItem item := by
    simp only [mixedProlog, List.forall_mem_cons]
    refine ⟨.space (by decide +kernel), ?_, ?_, .space (by decide +kernel), ?_, by simp⟩
    · exact .instruction (by decide +kernel) ⟨by decide +kernel, by decide +kernel⟩
    · exact .comment (by decide +kernel) ⟨by decide +kernel, by decide +kernel⟩
    · exact .comment (by decide +kernel) ⟨by decide +kernel, by decide +kernel⟩
  have hopen : Unclosed (trimStart " <?php <html>".toList) :=
    .instruction (by decide +kernel) (by decide +kernel)
  have hpage : looksLikeDocument "<HTML lang='en'>".toList = true := by
    rw [looksLikeDocument, afterProlog_eq]
    decide +kernel
  have hopened := (looksLikeDocument_prolog hitems _).2.1 hopen
  have hscan := (looksLikeDocument_prolog hitems []).2.2
    (mixedProlog.flatten ++ " <?php <html>".toList) 64 (by decide +kernel)
  exact ⟨hitems, (looksLikeDocument_prolog hitems _).1.trans hpage, hopened,
    hscan.trans (congrArg some hopened)⟩

end HtmlToHaml.Markup
