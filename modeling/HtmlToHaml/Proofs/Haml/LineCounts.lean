import HtmlToHaml.DocTree.Snapshot
import HtmlToHaml.Haml.Outline
import HtmlToHaml.Proofs.Entity.Names
import HtmlToHaml.Proofs.Haml.AlignedLines
import HtmlToHaml.Proofs.Haml.FilterBody

/-!
# The lines of a script before and behind its references

A script is counted in two ways: by the lines that its text is written in, and by the lines that
it is printed in, which are those of the text with its references replaced. Each count has a
second line exactly if there is a line break with more than white space on both sides of it. The
two do not mean the same: a reference may be a line break, and it may be the white space that a
line is made of.
-/

namespace HtmlToHaml.Haml

open Text Entity DocTree

variable {s b a source mid : List Char}

section Filled

/-- The lines of a text that are not blank. -/
def filledLines (s : List Char) : List (List Char) :=
  (splitLines s).filter (!isBlank ·)

/-- The lines on both sides of a line feed are counted apart. -/
theorem filledLines_append_newline (s t : List Char) :
    filledLines (s ++ '\n' :: t) = filledLines s ++ filledLines t := by
  rw [filledLines, splitLines_append_newline, List.filter_append]
  rfl

/-- A text is blank exactly if no line of it is filled. -/
theorem filledLines_eq_nil_iff : filledLines s = [] ↔ isBlank s = true := by
  rw [filledLines, List.filter_eq_nil_iff, isBlank_eq_all_splitLines, List.all_eq_true]
  simp

/-- A text without a line feed has one line at most. -/
theorem length_filledLines_le (hn : '\n' ∉ s) : (filledLines s).length ≤ 1 := by
  have hle := List.length_filter_le (!isBlank ·) (splitLines s)
  rw [filledLines]
  rwa [splitLines, List.splitOn_eq_singleton hn] at hle ⊢

/-- **A text has two filled lines exactly if a line feed has more than white space on both
sides.** -/
theorem one_lt_length_filledLines_iff : 1 < (filledLines s).length ↔
    ∃ before after, s = before ++ '\n' :: after ∧ isBlank before = false ∧
      isBlank after = false := by
  have hfilled : ∀ {s}, isBlank s = false ↔ 0 < (filledLines s).length := by
    intro s
    rw [List.length_pos_iff, ne_eq, filledLines_eq_nil_iff, Bool.not_eq_true]
  constructor
  · intro h
    induction hl : s.length using Nat.strong_induction_on generalizing s with
    | _ n ih =>
      subst hl
      rcases lastLine_cases s with hn | ⟨front, line, rfl, hn⟩
      · have hle := length_filledLines_le hn
        omega
      · rw [filledLines_append_newline, List.length_append] at h
        have hle := length_filledLines_le hn
        -- The line feed in front of the last line is one, unless that line is blank and does
        -- not count.
        cases hb : isBlank line with
        | false => exact ⟨front, line, rfl, hfilled.2 (by omega), hb⟩
        | true =>
          rw [filledLines_eq_nil_iff.2 hb, List.length_nil, Nat.add_zero] at h
          obtain ⟨before, after, rfl, hbefore, hafter⟩ := ih front.length (by simp) h rfl
          refine ⟨before, after ++ '\n' :: line, by simp, hbefore, ?_⟩
          rw [isBlank, List.all_append, ← isBlank, hafter, Bool.false_and]
  · rintro ⟨before, after, rfl, hbefore, hafter⟩
    have hfirst := hfilled.1 hbefore
    have hsecond := hfilled.1 hafter
    rw [filledLines_append_newline, List.length_append]
    omega

/-- A script is printed in as many lines as its text has filled lines behind the references. -/
theorem length_loudSourceLines (source : List Char) :
    (loudSourceLines source).length = (filledLines (unescape source)).length := by
  rw [loudSourceLines, List.filter_map, List.length_map, filledLines]
  simp [Function.comp_def, isBlank_trimEnd]

end Filled

section Breaks

/-- A line feed, or a reference that stands for one. -/
inductive LineBreak : List Char → Prop
  /-- A line feed. -/
  | feed : LineBreak ['\n']
  /-- A reference. -/
  | reference {name : List Char} : Refers name ['\n'] → LineBreak ('&' :: (name ++ [';']))

/-- A line break is a line feed when references are replaced, and the texts around it do not mix. -/
theorem LineBreak.unescape_append (h : LineBreak mid) (before after : List Char) :
    unescape (before ++ mid ++ after) = unescape before ++ '\n' :: unescape after := by
  cases h with
  | feed =>
    rw [List.append_assoc, List.singleton_append, unescape_append_cons (by decide),
      unescape_cons_of_ne (by decide)]
  | @reference name hname =>
    have hmid : before ++ '&' :: (name ++ [';']) ++ after =
        before ++ '&' :: (name ++ ';' :: after) := by
      simp
    rw [hmid, unescape_append_cons (by decide), unescape_refers hname, List.singleton_append]

/-- Where a line feed stands when references are replaced, a line break stood before, and what
stands on either side of it has become what stands on that side now. -/
theorem exists_lineBreak (h : unescape s = b ++ '\n' :: a) : ∃ before mid after,
    s = before ++ mid ++ after ∧ LineBreak mid ∧ unescape before = b ∧ unescape after = a := by
  induction s using unescape.induct generalizing b with
  | case1 =>
    rw [unescape] at h
    simp at h
  | case2 s value rest href ih =>
    obtain ⟨name, rfl, hname⟩ := reference?_eq_some_iff.1 href
    obtain ⟨c, rfl⟩ := hname.exists_eq
    rw [unescape_refers hname, List.singleton_append] at h
    cases b with
    | nil =>
      obtain ⟨rfl, rfl⟩ := List.cons.inj h
      exact ⟨[], _, rest, by simp, .reference hname, by rw [unescape], rfl⟩
    | cons d b =>
      rw [List.cons_append] at h
      obtain ⟨rfl, hrest⟩ := List.cons.inj h
      obtain ⟨before, mid, after, rfl, hmid, rfl, rfl⟩ := ih hrest
      exact ⟨'&' :: (name ++ ';' :: before), mid, after, by simp, hmid,
        unescape_refers hname before, rfl⟩
  | case3 s href ih =>
    rw [unescape_of_reference?_eq_none href] at h
    cases b with
    | nil => cases (List.cons.inj h).1
    | cons d b =>
      rw [List.cons_append] at h
      obtain ⟨rfl, hrest⟩ := List.cons.inj h
      obtain ⟨before, mid, after, rfl, hmid, rfl, rfl⟩ := ih hrest
      -- A reference that ends in front of the break would be one of the whole text.
      have hnone : reference? before = none := by
        refine reference?_eq_none_iff.2 fun name rest value he hname => ?_
        exact reference?_eq_none_iff.1 href name (rest ++ mid ++ after) value (by simp [he]) hname
      exact ⟨'&' :: before, mid, after, by simp, hmid, unescape_of_reference?_eq_none hnone, rfl⟩
  | case4 d s hd ih =>
    rw [unescape_cons_of_ne hd] at h
    cases b with
    | nil =>
      obtain ⟨rfl, rfl⟩ := List.cons.inj h
      exact ⟨[], ['\n'], s, rfl, .feed, by rw [unescape], rfl⟩
    | cons e b =>
      rw [List.cons_append] at h
      obtain ⟨rfl, hrest⟩ := List.cons.inj h
      obtain ⟨before, mid, after, rfl, hmid, rfl, rfl⟩ := ih hrest
      exact ⟨d :: before, mid, after, by simp, hmid, unescape_cons_of_ne hd, rfl⟩

/-- **A script is printed in two lines exactly if a line break has more than white space on both
sides when references are replaced.** -/
theorem one_lt_length_loudSourceLines_iff : 1 < (loudSourceLines source).length ↔
    ∃ before mid after, source = before ++ mid ++ after ∧ LineBreak mid ∧
      isBlank (unescape before) = false ∧ isBlank (unescape after) = false := by
  rw [length_loudSourceLines, one_lt_length_filledLines_iff]
  constructor
  · rintro ⟨b, a, h, hb, ha⟩
    obtain ⟨before, mid, after, hs, hmid, rfl, rfl⟩ := exists_lineBreak h
    exact ⟨before, mid, after, hs, hmid, hb, ha⟩
  · rintro ⟨before, mid, after, rfl, hmid, hb, ha⟩
    exact ⟨unescape before, unescape after, hmid.unescape_append before after, hb, ha⟩

end Breaks

section Agreement

variable {store : Store} {id next : NodeId}

/-- A script has several lines as it is written exactly if a line feed in it has more than white
space on both sides. -/
theorem isMultiline_iff : isMultiline source = true ↔
    ∃ before after, source = before ++ '\n' :: after ∧ isBlank before = false ∧
      isBlank after = false :=
  decide_eq_true_iff.trans one_lt_length_filledLines_iff

/-- A script that is printed in several lines is not written in several lines only if a reference in
it stands for a line feed. -/
theorem holdsReference_newline (hprinted : 1 < (loudSourceLines source).length)
    (hwritten : isMultiline source = false) : HoldsReference source ['\n'] := by
  obtain ⟨before, mid, after, rfl, hmid, hb, ha⟩ := one_lt_length_loudSourceLines_iff.1 hprinted
  cases hmid with
  | feed =>
    have hmany : isMultiline (before ++ ['\n'] ++ after) = true :=
      isMultiline_iff.2 ⟨before, after, by simp, isBlank_of_unescape hb, isBlank_of_unescape ha⟩
    cases hwritten.symm.trans hmany
  | @reference name hname => exact ⟨before, name, after, by simp, hname⟩

/-- A script that is written in several lines is not printed in several lines only if a reference in
it stands for white space. -/
theorem exists_holdsReference_space (hwritten : isMultiline source = true)
    (hprinted : ¬ 1 < (loudSourceLines source).length) :
    ∃ c, isSpace c = true ∧ HoldsReference source [c] := by
  by_contra hno
  obtain ⟨before, after, rfl, hb, ha⟩ := isMultiline_iff.1 hwritten
  have hpart : ∀ {s}, s <:+: before ++ '\n' :: after → isBlank s = false →
      isBlank (unescape s) = false :=
    fun hs hshows => isBlank_unescape hshows fun c hc h => hno ⟨c, hc, h.mono hs⟩
  refine hprinted (one_lt_length_loudSourceLines_iff.2
    ⟨before, ['\n'], after, by simp, .feed, ?_, ?_⟩)
  · exact hpart (List.prefix_append _ _).isInfix hb
  · exact hpart ⟨before ++ ['\n'], [], by simp⟩ ha

/-- A script takes several lines when it is printed exactly if its source gives several lines. -/
theorem one_lt_length_loudLines_iff : 1 < (loudLines store id).length ↔
    1 < (loudSourceLines (store.innerText id)).length := by
  rw [loudLines, List.length_append, length_alignLoudLines]
  split
  · rename_i h
    simp only [Bool.and_eq_true, decide_eq_true_eq] at h
    rw [List.length_singleton]
    omega
  · rw [List.length_nil, Nat.add_zero]

/-- The two counts agree on whether there are several lines if no reference stands for white
space. -/
theorem isMultiline_iff_of_not_holdsReference
    (hno : ∀ c, isSpace c = true → ¬ HoldsReference source [c]) :
    isMultiline source = true ↔ 1 < (loudSourceLines source).length := by
  constructor
  · intro hwritten
    by_contra hprinted
    obtain ⟨c, hc, h⟩ := exists_holdsReference_space hwritten hprinted
    exact hno c hc h
  · intro hprinted
    refine Bool.of_not_eq_false fun hwritten => ?_
    exact hno '\n' isSpace_newline (holdsReference_newline hprinted hwritten)

/-- A script is kept apart from the one behind it if the source of that one has several lines as
it is written. -/
theorem separatesScripts_eq (hnext : store.nextSibling? id = some next)
    (hloud : store.isElementNamed next "loud" = true) :
    separatesScripts store id = isMultiline (store.innerText next) := by
  simp [separatesScripts, hnext, hloud]

/-- **A script is taken to have several lines if a line feed in its source has more than white space
on both sides, and it is printed in several lines if a line break, which a reference may stand for,
has more than white space on both sides when references are replaced.** The two differ only over
references that stand for white space. Without them they agree, and a script is kept apart from the
one behind it exactly if that one is printed in several lines. -/
theorem isMultiline_loudSourceLines (source : List Char) :
    (isMultiline source = true ↔ ∃ before after,
      source = before ++ '\n' :: after ∧ isBlank before = false ∧ isBlank after = false) ∧
    (2 ≤ (loudSourceLines source).length ↔ ∃ before mid after,
      source = before ++ mid ++ after ∧ LineBreak mid ∧
        isBlank (unescape before) = false ∧ isBlank (unescape after) = false) ∧
    (2 ≤ (loudSourceLines source).length → isMultiline source = false →
      HoldsReference source ['\n']) ∧
    (isMultiline source = true → ¬ 2 ≤ (loudSourceLines source).length →
      ∃ c, isSpace c = true ∧ HoldsReference source [c]) ∧
    ((∀ c, isSpace c = true → ¬ HoldsReference source [c]) →
      (isMultiline source = true ↔ 2 ≤ (loudSourceLines source).length) ∧
      ∀ (store : Store) id next, store.nextSibling? id = some next →
        store.isElementNamed next "loud" = true → store.innerText next = source →
          (separatesScripts store id = true ↔ 2 ≤ (loudLines store next).length)) := by
  refine ⟨isMultiline_iff, one_lt_length_loudSourceLines_iff, holdsReference_newline,
    exists_holdsReference_space, fun hno => ⟨isMultiline_iff_of_not_holdsReference hno, ?_⟩⟩
  rintro store id next hnext hloud rfl
  rw [separatesScripts_eq hnext hloud]
  exact (isMultiline_iff_of_not_holdsReference hno).trans one_lt_length_loudLines_iff.symm

/-- A script over two lines in front of another one. -/
def scriptPair : Store :=
  Shape.build .fragment
    [.branch (.element "loud" [] false) [.leaf (.text "a\nb")],
      .branch (.element "loud" [] false) [.leaf (.text "c\nd")]]

/-- A reference is what a second line is missed over, and what one is counted over that is not
printed; without references the second script of a pair is counted as it is printed. -/
theorem isMultiline_loudSourceLines_scriptPair :
    HoldsReference "c&#10;d".toList ['\n'] ∧
      (∃ c, isSpace c = true ∧ HoldsReference "c\n&#32;".toList [c]) ∧
      separatesScripts scriptPair 1 = true ∧ 2 ≤ (loudLines scriptPair 3).length := by
  obtain ⟨-, -, hmissed, -⟩ := isMultiline_loudSourceLines "c&#10;d".toList
  obtain ⟨-, -, -, hcounted, -⟩ := isMultiline_loudSourceLines "c\n&#32;".toList
  obtain ⟨-, -, -, -, hagree⟩ := isMultiline_loudSourceLines "c\nd".toList
  have hseparates : separatesScripts scriptPair 1 = true := by decide +kernel
  refine ⟨hmissed (by decide +kernel) (by decide +kernel),
    hcounted (by decide +kernel) (by decide +kernel), hseparates, ?_⟩
  obtain ⟨-, hpair⟩ := hagree fun c _ => not_holdsReference (by decide)
  exact (hpair scriptPair 1 3 (by decide +kernel) (by decide +kernel) (by decide +kernel)).1
    hseparates

/-- **The two counts do not always agree**: either of them may have a second line that the
other one lacks. -/
theorem not_isMultiline_iff_loudSourceLines :
    (isMultiline "c&#10;d".toList = false ∧ loudSourceLines "c&#10;d".toList = [['c'], ['d']]) ∧
      (isMultiline "c\n&#32;".toList = true ∧ loudSourceLines "c\n&#32;".toList = [['c']]) ∧
      ¬ ∀ source, isMultiline source = true ↔ 2 ≤ (loudSourceLines source).length := by
  refine ⟨by decide +kernel, by decide +kernel, fun hall => ?_⟩
  have hwritten := (hall "c&#10;d".toList).2 (by decide +kernel)
  exact absurd hwritten (by decide +kernel)

end Agreement

end HtmlToHaml.Haml
