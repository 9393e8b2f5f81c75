import HtmlToHaml.Haml.Prologue
import Mathlib.Logic.Basic

/-!
# Longest runs

A run of characters of a class is split off a text so that the rest is accepted. The main statements
are that a run is found whenever there is one with which the rest is accepted, and that the one that
is taken is the longest of these.
-/

namespace HtmlToHaml.Haml

variable {α : Type} {p : Char → Bool} {accept : List Char → List Char → Option α}
  {s run more rest run' rest' : List Char} {a a' : α}

/-- A run of a class at the start of a text with which the rest is accepted, when it is accepted
with no longer one. -/
structure Longest (p : Char → Bool) (accept : List Char → List Char → Option α)
    (s run rest : List Char) (a : α) : Prop where
  /-- The run and the rest are the text. -/
  eq_append : s = run ++ rest
  /-- The run is of the class. -/
  all : ∀ c ∈ run, p c = true
  /-- The rest is accepted with the run. -/
  accepted : accept run rest = some a
  /-- The rest is not accepted with more of the class in the run. -/
  longest : ∀ more rest', rest = more ++ rest' → more ≠ [] → (∀ c ∈ more, p c = true) →
    accept (run ++ more) rest' = none

/-- A longest run with which the rest is accepted goes on for no more characters. -/
theorem Longest.eq_nil (h : Longest p accept s run (more ++ rest) a)
    (hmore : ∀ c ∈ more, p c = true) (ha : accept (run ++ more) rest = some a') : more = [] := by
  cases more with
  | nil => rfl
  | cons c more =>
    cases ha.symm.trans (h.longest (c :: more) rest rfl (List.cons_ne_nil c more) hmore)

/-- There is one longest run. -/
theorem Longest.unique (h : Longest p accept s run rest a) (h' : Longest p accept s run' rest' a') :
    a = a' := by
  have he := h.eq_append.symm.trans h'.eq_append
  have hvalue : accept run rest = accept run' rest' := by
    rcases List.append_eq_append_iff.1 he with ⟨more, rfl, rfl⟩ | ⟨more, rfl, rfl⟩
    · obtain rfl := h.eq_nil (fun c hc => h'.all c (List.mem_append_right _ hc)) h'.accepted
      rw [List.append_nil, List.nil_append]
    · obtain rfl := h'.eq_nil (fun c hc => h.all c (List.mem_append_right _ hc)) h.accepted
      rw [List.append_nil, List.nil_append]
  rw [h.accepted, h'.accepted] at hvalue
  exact Option.some.inj hvalue

/-- No run is found exactly if the rest is accepted with none. -/
theorem longestRun_eq_none_iff :
    longestRun p accept s = none ↔
      ∀ run rest, s = run ++ rest → (∀ c ∈ run, p c = true) → accept run rest = none := by
  induction s generalizing accept with
  | nil =>
    refine ⟨fun h run rest he _ => ?_, fun h => h [] [] rfl (by simp)⟩
    obtain ⟨rfl, rfl⟩ := List.append_eq_nil_iff.1 he.symm
    exact h
  | cons c s ih =>
    rw [longestRun]
    split
    · rename_i hc
      rw [Option.or_eq_none_iff, ih]
      constructor
      · rintro ⟨hlong, hshort⟩ run rest he hrun
        cases run with
        | nil =>
          obtain rfl : c :: s = rest := he
          exact hshort
        | cons d run =>
          obtain ⟨rfl, rfl⟩ := List.cons.inj he
          exact hlong run rest rfl (List.forall_mem_cons.1 hrun).2
      · intro h
        refine ⟨fun run rest he hrun => ?_, h [] (c :: s) rfl (by simp)⟩
        exact h (c :: run) rest (by rw [he, List.cons_append]) (List.forall_mem_cons.2 ⟨hc, hrun⟩)
    · rename_i hc
      refine ⟨fun h run rest he hrun => ?_, fun h => h [] (c :: s) rfl (by simp)⟩
      cases run with
      | nil =>
        obtain rfl : c :: s = rest := he
        exact h
      | cons d run =>
        obtain ⟨rfl, -⟩ := List.cons.inj he
        exact absurd (hrun c List.mem_cons_self) hc

/-- A run that is found is the longest one. -/
theorem exists_longest (h : longestRun p accept s = some a) :
    ∃ run rest, Longest p accept s run rest a := by
  induction s generalizing accept with
  | nil =>
    refine ⟨[], [], rfl, by simp, h, fun more rest' he hm _ => ?_⟩
    exact absurd (List.append_eq_nil_iff.1 he.symm).1 hm
  | cons c s ih =>
    rw [longestRun] at h
    split at h
    · rename_i hc
      rcases Option.or_eq_some_iff.1 h with hlong | ⟨hnone, hshort⟩
      · obtain ⟨run, rest, rfl, hrun, ha, hmore⟩ := ih hlong
        exact ⟨c :: run, rest, rfl, List.forall_mem_cons.2 ⟨hc, hrun⟩, ha, hmore⟩
      · refine ⟨[], c :: s, rfl, by simp, hshort, fun more rest' he hm hall => ?_⟩
        obtain ⟨d, more, rfl⟩ := List.exists_cons_of_ne_nil hm
        obtain ⟨rfl, rfl⟩ := List.cons.inj he
        exact longestRun_eq_none_iff.1 hnone more rest' rfl (List.forall_mem_cons.1 hall).2
    · rename_i hc
      refine ⟨[], c :: s, rfl, by simp, h, fun more rest' he hm hall => ?_⟩
      obtain ⟨d, more, rfl⟩ := List.exists_cons_of_ne_nil hm
      obtain ⟨rfl, -⟩ := List.cons.inj he
      exact absurd (hall c List.mem_cons_self) hc

/-- **A run is found with a value exactly if that is the value of the longest run.** -/
theorem longestRun_eq_some_iff :
    longestRun p accept s = some a ↔ ∃ run rest, Longest p accept s run rest a := by
  refine ⟨exists_longest, fun ⟨run, rest, h⟩ => ?_⟩
  cases hfound : longestRun p accept s with
  | none => cases h.accepted.symm.trans (longestRun_eq_none_iff.1 hfound run rest h.eq_append h.all)
  | some found =>
    obtain ⟨run', rest', h'⟩ := exists_longest hfound
    rw [h'.unique h]

/-- A run up to a character that is not of the class is the longest one. -/
theorem longestRun_append (hrun : ∀ c ∈ run, p c = true) (hrest : ∀ c ∈ rest.head?, p c = false)
    (ha : accept run rest = some a) : longestRun p accept (run ++ rest) = some a := by
  refine longestRun_eq_some_iff.2 ⟨run, rest, rfl, hrun, ha, fun more rest' he hm hmore => ?_⟩
  obtain ⟨d, more, rfl⟩ := List.exists_cons_of_ne_nil hm
  have hd := hrest d (by rw [he]; rfl)
  rw [hmore d List.mem_cons_self] at hd
  cases hd

/-- A run is found exactly if the rest is accepted with one. -/
theorem isSome_longestRun :
    (longestRun p accept s).isSome ↔
      ∃ run rest, s = run ++ rest ∧ (∀ c ∈ run, p c = true) ∧ (accept run rest).isSome := by
  rw [← not_iff_not, Option.not_isSome_iff_eq_none, longestRun_eq_none_iff]
  simp only [not_exists, not_and, Option.not_isSome_iff_eq_none]

/-- As for any run, with at least one character in it. -/
theorem longestRunOne_eq_none_iff :
    longestRunOne p accept s = none ↔
      ∀ run rest, run ≠ [] → s = run ++ rest → (∀ c ∈ run, p c = true) →
        accept run rest = none := by
  rw [longestRunOne, longestRun_eq_none_iff]
  refine forall₂_congr fun run rest => ?_
  by_cases hrun : run = [] <;> simp [hrun]

/-- A run of at least one character is found exactly if the rest is accepted with one. -/
theorem isSome_longestRunOne :
    (longestRunOne p accept s).isSome ↔
      ∃ run rest, run ≠ [] ∧ s = run ++ rest ∧ (∀ c ∈ run, p c = true) ∧
        (accept run rest).isSome := by
  rw [← not_iff_not, Option.not_isSome_iff_eq_none, longestRunOne_eq_none_iff]
  simp only [not_exists, not_and, Option.not_isSome_iff_eq_none]

/-- A run of at least one character that is found is the longest one. -/
theorem longestRunOne_eq_some_iff :
    longestRunOne p accept s = some a ↔ ∃ run rest, run ≠ [] ∧ Longest p accept s run rest a := by
  rw [longestRunOne, longestRun_eq_some_iff]
  refine exists₂_congr fun run rest => ?_
  by_cases hrun : run = []
  · subst hrun
    exact iff_of_false (fun h => by cases h.accepted) fun h => h.1 rfl
  · constructor
    · rintro ⟨he, hall, ha, hlong⟩
      exact ⟨hrun, he, hall, by simpa [hrun] using ha, fun more rest' hr hm hmore => by
        simpa [hrun] using hlong more rest' hr hm hmore⟩
    · rintro ⟨-, he, hall, ha, hlong⟩
      exact ⟨he, hall, by simpa [hrun] using ha, fun more rest' hr hm hmore => by
        simpa [hrun] using hlong more rest' hr hm hmore⟩

end HtmlToHaml.Haml
