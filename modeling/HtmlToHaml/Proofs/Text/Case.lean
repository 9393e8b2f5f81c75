import HtmlToHaml.Text.Case

/-!
# Letter case of ASCII text

On ASCII text the full case mappings are those of single letters: all runs but the first lie behind
it, every character is mapped by itself, and no word ends in a sigma.
-/

namespace HtmlToHaml.Text

variable {c : Char} {s : List Char} {run : CaseRun} {runs : List CaseRun}
  {long : List (Nat × List Nat)}

/-- What holds of the characters with the first 128 numbers holds of every ASCII character. -/
theorem forall_ascii {P : Char → Prop} (h : ∀ n < 128, P (Char.ofNat n)) (hc : c.toNat < 128) :
    P c := by
  have hp := h c.toNat hc
  rwa [Char.ofNat_toNat] at hp

/-- Only the first run of a mapping matters to ASCII characters, if everything else
lies behind them. -/
theorem mapCase_of_ascii (hruns : runs.all (fun run => 128 ≤ run.first) = true)
    (hlong : long.all (fun entry => 128 ≤ entry.1) = true) (hc : c.toNat < 128) :
    mapCase (run :: runs) long c = mapCase [run] [] c := by
  have hlookup : long.lookup c.toNat = none := by
    rw [List.lookup_eq_none_iff]
    intro entry he
    have hentry := List.all_eq_true.1 hlong entry he
    simp only [decide_eq_true_eq] at hentry
    simp only [bne_iff_ne]
    omega
  have hfind : runs.find? (fun run => run.first ≤ c.toNat && c.toNat ≤ run.last &&
      (c.toNat - run.first) % run.step == 0) = none := by
    rw [List.find?_eq_none]
    intro run hr
    have hfirst := List.all_eq_true.1 hruns run hr
    simp only [decide_eq_true_eq] at hfirst
    simp only [Bool.and_eq_true, decide_eq_true_eq]
    omega
  rw [mapCase, mapCase, hlookup, mapRun?, mapRun?, List.find?_cons, List.find?_cons, hfind]
  rfl

/-- The lower case of an ASCII character is that of its letter. -/
theorem lowerChar_of_ascii (hc : c.toNat < 128) : lowerChar c = [c.toLower] := by
  rw [lowerChar, lowerRuns, mapCase_of_ascii (by decide +kernel) (by decide +kernel) hc]
  exact forall_ascii (P := fun c => mapCase _ [] c = [c.toLower]) (by decide +kernel) hc

/-- The upper case of an ASCII character is that of its letter. -/
theorem upperChar_of_ascii (hc : c.toNat < 128) : upperChar c = [c.toUpper] := by
  rw [upperChar, upperRuns, mapCase_of_ascii (by decide +kernel) (by decide +kernel) hc]
  exact forall_ascii (P := fun c => mapCase _ [] c = [c.toUpper]) (by decide +kernel) hc

/-- The lower case of an ASCII character is ASCII. -/
theorem toNat_toLower_lt (hc : c.toNat < 128) : c.toLower.toNat < 128 :=
  forall_ascii (P := fun c => c.toLower.toNat < 128) (by decide +kernel) hc

/-- An ASCII text is put into lower case letter by letter. -/
theorem toLower_of_ascii (hs : ∀ c ∈ s, c.toNat < 128) : toLower s = s.map Char.toLower := by
  rw [toLower]
  generalize [] = before
  induction s generalizing before with
  | nil => rfl
  | cons c s ih =>
    obtain ⟨hc, hs⟩ := List.forall_mem_cons.1 hs
    have hsigma : c ≠ 'Σ' := by
      rintro rfl
      exact absurd hc (by decide)
    rw [lowerAfter, if_neg (fun h => hsigma h.1), lowerChar_of_ascii hc, ih hs]
    rfl

end HtmlToHaml.Text
