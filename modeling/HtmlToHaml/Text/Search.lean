/-!
# Searching a text

`breakOn` cuts a text around the first occurrence of a needle. Its two laws are that the three
parts make up the text and that what follows a non-empty needle is shorter than the text, which is
what the scanners of this library recurse on.
-/

namespace HtmlToHaml.Text

/-- The rest of a text after a given beginning. -/
def stripPrefix? : List Char → List Char → Option (List Char)
  | [], s => some s
  | _ :: _, [] => none
  | p :: ps, c :: cs => if p = c then stripPrefix? ps cs else none

/-- The rest of a text after a given beginning, where ASCII letters match in either case; the
beginning is given in lower case. -/
def stripPrefixIgnoreCase? : List Char → List Char → Option (List Char)
  | [], s => some s
  | _ :: _, [] => none
  | p :: ps, c :: cs => if p = c.toLower then stripPrefixIgnoreCase? ps cs else none

/-- The texts before and after the first occurrence of a needle. -/
def breakOn (needle : List Char) : List Char → Option (List Char × List Char)
  | [] => if needle.isEmpty then some ([], []) else none
  | c :: s =>
    match stripPrefix? needle (c :: s) with
    | some rest => some ([], rest)
    | none => (breakOn needle s).map fun cut => (c :: cut.1, cut.2)

/-- Whether a needle occurs. -/
def contains (needle s : List Char) : Bool :=
  (breakOn needle s).isSome

/-- What is left is the text without the beginning. -/
theorem stripPrefix?_eq_some_iff {p s rest : List Char} :
    stripPrefix? p s = some rest ↔ s = p ++ rest := by
  induction p generalizing s with
  | nil => simp [stripPrefix?, eq_comm]
  | cons a p ih =>
    cases s with
    | nil => simp [stripPrefix?]
    | cons c s =>
      by_cases h : a = c
      · simp [stripPrefix?, h, ih]
      · simp [stripPrefix?, h, Ne.symm h]

/-- A beginning that was put in front is taken away. -/
theorem stripPrefix?_append (p s : List Char) : stripPrefix? p (p ++ s) = some s :=
  stripPrefix?_eq_some_iff.2 rfl

/-- A character that was put in front is taken away. -/
theorem stripPrefix?_singleton_cons (c : Char) (s : List Char) :
    stripPrefix? [c] (c :: s) = some s :=
  stripPrefix?_append [c] s

/-- The cut text is the part before, the needle and the part after. -/
theorem eq_append_of_breakOn {needle s before after : List Char}
    (h : breakOn needle s = some (before, after)) : s = before ++ needle ++ after := by
  induction s generalizing before with
  | nil =>
    simp only [breakOn] at h
    split at h <;> simp_all
  | cons c s ih =>
    simp only [breakOn] at h
    split at h
    · rename_i rest hr
      simp only [Option.some.injEq, Prod.mk.injEq] at h
      rw [stripPrefix?_eq_some_iff.1 hr, ← h.1, ← h.2]
      simp
    · obtain ⟨cut, hc, he⟩ := Option.map_eq_some_iff.1 h
      simp only [Prod.mk.injEq] at he
      have := ih (by rw [hc, ← he.2])
      rw [this, ← he.1]
      simp

/-- What follows a non-empty needle is shorter than the text. -/
theorem length_lt_of_breakOn {needle s before after : List Char} (hn : needle ≠ [])
    (h : breakOn needle s = some (before, after)) : after.length < s.length := by
  have := congrArg List.length (eq_append_of_breakOn h)
  have := List.length_pos_iff.2 hn
  simp only [List.length_append] at *
  omega

/-- What follows a non-empty beginning is shorter than the text. -/
theorem length_lt_of_stripPrefix? {p s rest : List Char} (hp : p ≠ [])
    (h : stripPrefix? p s = some rest) : rest.length < s.length := by
  have := congrArg List.length (stripPrefix?_eq_some_iff.1 h)
  have := List.length_pos_iff.2 hp
  simp only [List.length_append] at *
  omega

end HtmlToHaml.Text
