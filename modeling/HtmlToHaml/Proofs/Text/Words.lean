import HtmlToHaml.Text.Space

/-!
# Words

Words are neither empty nor do they hold white space, and texts of this kind are the words of the
text that has them with single spaces in between. For any class of separators, the number of runs
between them says how a text can be cut into runs of other characters and of separators by turns.
-/

namespace HtmlToHaml.Text

variable {p : Char → Bool} {c : Char} {n : Nat} {word space s t : List Char}
  {parts : List (List Char)}

/-- A word is not empty. -/
theorem ne_nil_of_mem_words (h : word ∈ words s) : word ≠ [] := by
  simpa using (List.mem_filter.1 h).2

/-- A part between separators holds no separator. -/
theorem not_of_mem_splitOnP {part : List Char} (h : part ∈ s.splitOnP p) :
    ∀ c ∈ part, p c = false := by
  induction s generalizing part with
  | nil =>
    rw [List.splitOnP_nil, List.mem_singleton] at h
    rw [h]
    exact fun _ hc => absurd hc List.not_mem_nil
  | cons c s ih =>
    rw [List.splitOnP_cons_eq_if_modifyHead] at h
    split at h
    · rcases List.mem_cons.1 h with rfl | h
      · exact fun _ hc => absurd hc List.not_mem_nil
      · exact ih h
    · rename_i hc
      obtain ⟨first, rest, hs⟩ := List.exists_cons_of_ne_nil (List.splitOnP_ne_nil p s)
      rw [hs, List.modifyHead_cons, List.mem_cons] at h
      rw [hs] at ih
      rcases h with rfl | h
      · exact List.forall_mem_cons.2 ⟨by simpa using hc, ih List.mem_cons_self⟩
      · exact ih (List.mem_cons_of_mem _ h)

/-- A word holds no white space. -/
theorem not_isSpace_of_mem_words (h : word ∈ words s) : ∀ c ∈ word, isSpace c = false :=
  not_of_mem_splitOnP (List.mem_filter.1 h).1

/-- Words with single spaces between them are read back. -/
theorem words_intercalate (hne : ∀ part ∈ parts, part ≠ [])
    (hspace : ∀ part ∈ parts, ∀ c ∈ part, isSpace c = false) :
    words ([' '].intercalate parts) = parts := by
  induction parts with
  | nil => rfl
  | cons part parts ih =>
    have hrest := ih (fun part h => hne part (List.mem_cons_of_mem _ h))
      fun part h => hspace part (List.mem_cons_of_mem _ h)
    have hpart := hspace part List.mem_cons_self
    have hkeep : ∀ rest, (part :: rest).filter (!·.isEmpty) = part :: rest.filter (!·.isEmpty) :=
      fun rest => List.filter_cons_of_pos (by simpa using hne part List.mem_cons_self)
    cases parts with
    | nil =>
      rw [List.intercalate_singleton, words, List.splitOnP_eq_singleton hpart, hkeep,
        List.filter_nil]
    | cons next parts =>
      rw [words] at hrest
      rw [List.intercalate_cons_cons, List.append_assoc, List.singleton_append, words,
        List.splitOnP_append_cons_of_forall_mem hpart ' ' (by decide), hkeep, hrest]

/-- Characters that are no separators go on in the first part of the text behind them. -/
theorem splitOnP_append_left (hs : ∀ c ∈ s, p c = false) (t : List Char) :
    (s ++ t).splitOnP p = (t.splitOnP p).modifyHead (s ++ ·) := by
  induction s with
  | nil => exact (congrFun List.modifyHead_id _).symm
  | cons c s ih =>
    obtain ⟨hc, hs⟩ := List.forall_mem_cons.1 hs
    rw [List.cons_append, List.splitOnP_cons_eq_if_modifyHead, if_neg (by simp [hc]), ih hs,
      List.modifyHead_modifyHead]
    rfl

section Runs

/-- The runs of a text between separators. -/
def runsBy (p : Char → Bool) (s : List Char) : List (List Char) :=
  (s.splitOnP p).filter (!·.isEmpty)

/-- A separator ends a run. -/
theorem runsBy_append_cons (hc : p c = true) :
    runsBy p (s ++ c :: t) = runsBy p s ++ runsBy p t := by
  rw [runsBy, List.splitOnP_append_cons s t hc, List.filter_append, runsBy, runsBy]

/-- Separators in front of a text are no run. -/
theorem runsBy_append_of_all (hs : ∀ c ∈ space, p c = true) :
    runsBy p (space ++ t) = runsBy p t := by
  induction space with
  | nil => rfl
  | cons c space ih =>
    obtain ⟨hc, hs⟩ := List.forall_mem_cons.1 hs
    have hcons : runsBy p (c :: (space ++ t)) = runsBy p (space ++ t) := by
      simpa [runsBy, List.splitOnP_nil] using runsBy_append_cons (s := []) (t := space ++ t) hc
    rw [List.cons_append, hcons, ih hs]

/-- A text without separators is one run if it is not empty. -/
theorem runsBy_of_none (hs : ∀ c ∈ s, p c = false) (hne : s ≠ []) : runsBy p s = [s] := by
  rw [runsBy, List.splitOnP_eq_singleton hs, List.filter_cons_of_pos (by simpa using hne),
    List.filter_nil]

/-- What stands in front of a text without a separator is at most one run more. -/
theorem length_runsBy_append_le (hs : ∀ c ∈ s, p c = false) (t : List Char) :
    (runsBy p (s ++ t)).length ≤ (runsBy p t).length + 1 := by
  obtain ⟨first, more, ht⟩ := List.exists_cons_of_ne_nil (List.splitOnP_ne_nil p t)
  have hmore : (runsBy p t).length = ([first].filter (!·.isEmpty)).length +
      (more.filter (!·.isEmpty)).length := by
    rw [runsBy, ht, ← List.length_append, ← List.filter_append, List.singleton_append]
  have hall : (runsBy p (s ++ t)).length = ([s ++ first].filter (!·.isEmpty)).length +
      (more.filter (!·.isEmpty)).length := by
    rw [runsBy, splitOnP_append_left hs, ht, List.modifyHead_cons, ← List.length_append,
      ← List.filter_append, List.singleton_append]
  have hone : ([s ++ first].filter (!·.isEmpty)).length ≤ 1 := List.length_filter_le _ _
  omega

/-- A text that does not begin with a separator begins with a run, and with separators behind it up
to a text that does not begin with one either. -/
theorem exists_first_run (hc : p c = false) (s : List Char) :
    ∃ word space rest, c :: s = word ++ (space ++ rest) ∧ word ≠ [] ∧ (∀ d ∈ word, p d = false) ∧
      (∀ d ∈ space, p d = true) ∧ (∀ d ∈ rest.head?, p d = false) ∧
      runsBy p (c :: s) = word :: runsBy p rest := by
  have hcut : (c :: s).takeWhile (!p ·) ++ (c :: s).dropWhile (!p ·) = c :: s :=
    List.takeWhile_append_dropWhile
  have hword : ∀ d ∈ (c :: s).takeWhile (!p ·), p d = false := fun d hd => by
    simpa using List.all_eq_true.1 List.all_takeWhile d hd
  have hne : (c :: s).takeWhile (!p ·) ≠ [] := by
    rw [List.takeWhile_cons_of_pos (by simp [hc])]
    exact List.cons_ne_nil _ _
  generalize (c :: s).takeWhile (!p ·) = word at hcut hword hne
  cases hafter : (c :: s).dropWhile (!p ·) with
  | nil =>
    rw [hafter, List.append_nil] at hcut
    rw [hcut] at hword
    exact ⟨c :: s, [], [], by simp, by simp, hword, by simp, by simp,
      runsBy_of_none hword (by simp)⟩
  | cons d after =>
    have hd : p d = true := by
      have hfirst := List.head?_dropWhile_not (!p ·) (c :: s)
      rw [hafter] at hfirst
      simpa using hfirst
    have hspace : ∀ e ∈ after.takeWhile p, p e = true := List.all_eq_true.1 List.all_takeWhile
    have hend : after.takeWhile p ++ after.dropWhile p = after := List.takeWhile_append_dropWhile
    have he : c :: s = word ++ d :: after := by rw [← hcut, hafter]
    refine ⟨word, d :: after.takeWhile p, after.dropWhile p, ?_, hne, hword,
      List.forall_mem_cons.2 ⟨hd, hspace⟩, fun e he => ?_, ?_⟩
    · rw [List.cons_append, hend, he]
    · have hfirst := List.head?_dropWhile_not p after
      rw [Option.mem_def.1 he] at hfirst
      exact hfirst
    · rw [he, runsBy_append_cons hd, runsBy_of_none hword hne, ← hend, runsBy_append_of_all hspace,
        hend, List.singleton_append]

/-- A text is made of so many parts, each of them some characters that are no separators and then
some separators. -/
inductive Spaced (p : Char → Bool) : Nat → List Char → Prop
  /-- No parts. -/
  | nil : Spaced p 0 []
  /-- One part more in front. -/
  | cons {n : Nat} {word space rest : List Char} : (∀ c ∈ word, p c = false) →
    (∀ c ∈ space, p c = true) → Spaced p n rest → Spaced p (n + 1) (word ++ (space ++ rest))

/-- The empty text is made of any number of parts. -/
theorem spaced_nil (n : Nat) : Spaced p n [] := by
  induction n with
  | zero => exact .nil
  | succ n ih =>
    have hnone : ∀ b, ∀ c ∈ ([] : List Char), p c = b := by simp
    exact .cons (hnone false) (hnone true) ih

/-- A text that does not begin with a separator is made of so many parts exactly if it has no more
runs. -/
theorem spaced_iff (hs : ∀ c ∈ s.head?, p c = false) : Spaced p n s ↔ (runsBy p s).length ≤ n := by
  constructor
  · intro h
    clear hs
    induction h with
    | nil => exact Nat.le_refl 0
    | @cons n word space rest hword hspace _ ih =>
      have hle := length_runsBy_append_le hword (space ++ rest)
      rw [runsBy_append_of_all hspace] at hle
      omega
  · intro h
    induction n generalizing s with
    | zero =>
      cases s with
      | nil => exact .nil
      | cons c s =>
        obtain ⟨_, _, _, -, -, -, -, -, hruns⟩ := exists_first_run (hs c rfl) s
        rw [hruns] at h
        cases h
    | succ n ih =>
      cases s with
      | nil => exact spaced_nil _
      | cons c s =>
        obtain ⟨word, space, rest, he, -, hword, hspace, hrest, hruns⟩ :=
          exists_first_run (hs c rfl) s
        rw [hruns, List.length_cons] at h
        rw [he]
        exact .cons hword hspace (ih hrest (by omega))

end Runs

end HtmlToHaml.Text
