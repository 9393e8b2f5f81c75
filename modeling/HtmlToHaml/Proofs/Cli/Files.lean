import HtmlToHaml.Cli.Files
import Mathlib.Data.List.Basic

/-!
# Writing one file

A file that is written has its content, and every other file keeps what it had. Writing makes no way
longer or shorter: what was a directory stays one, so the name under which a file was written leads
to it afterwards as well, be it one from the root or one from the working directory.
-/

namespace HtmlToHaml.Cli

variable {files : Files} {conditions : Conditions} {path other place next : Path}
  {content : List UInt8} {part : List Char} {name : String}

section Names

/-- The parts of a name of a file are the names on the way to it, behind the slash of the root. -/
theorem parts_nameOf (h : path ≠ []) : parts (nameOf path) = [] :: path.map Subtype.val := by
  have hslash : ∀ part ∈ path.map Subtype.val, '/' ∉ part := by
    intro part hm
    obtain ⟨⟨part, hpart⟩, -, rfl⟩ := List.mem_map.1 hm
    rw [isName, Bool.and_eq_true, Bool.not_eq_true'] at hpart
    simpa using hpart.2
  have hroot : ∀ names : List Char, ('/' :: names).splitOn '/' = [] :: names.splitOn '/' :=
    fun names => List.splitOn_append_cons_self_of_not_mem List.not_mem_nil names
  rw [parts, nameOf, String.toList_ofList, hroot,
    List.splitOn_intercalate '/' hslash (mt List.map_eq_nil_iff.1 h)]

/-- A way is the way to the file of its name. -/
theorem pathOf_nameOf (h : path ≠ []) : pathOf conditions (nameOf path) = path := by
  rw [pathOf, start, parts_nameOf h, List.head?_cons, if_pos rfl, List.nil_append,
    List.filterMap_cons_none (dif_neg (by decide)), List.filterMap_map]
  refine (List.filterMap_congr fun part _ => ?_).trans List.filterMap_some
  rw [Function.comp_apply, dif_pos part.2]

end Names

namespace Files

section Contents

/-- Where there is a file, it gets the content and keeps its name. -/
theorem content?_put_of_isSome (h : (files.content? conditions path).isSome = true) :
    (files.put conditions path content).content? conditions other =
      if other = path then some content else files.content? conditions other := by
  have hkeep : (fun file : String × List UInt8 => pathOf conditions file.1 == other) ∘
      (fun file => if pathOf conditions file.1 = path then (file.1, content) else file) =
        fun file => pathOf conditions file.1 == other := by
    funext file
    rw [Function.comp_apply]
    split <;> rfl
  rw [put, if_pos h, content?, List.find?_map, hkeep]
  rw [content?, Option.isSome_map] at h
  cases hf : files.find? fun file => pathOf conditions file.1 == other with
  | none =>
    have hne : other ≠ path := by
      rintro rfl
      rw [hf] at h
      cases h
    rw [if_neg hne, content?, hf]
    rfl
  | some file =>
    obtain rfl : pathOf conditions file.1 = other := by simpa using List.find?_some hf
    rw [content?, hf, Option.map_some, Option.map_some]
    split <;> rfl

/-- Where there is no file, one is made behind the others. -/
theorem content?_put_of_eq_none (h : files.content? conditions path = none) (hpath : path ≠ []) :
    (files.put conditions path content).content? conditions other =
      if other = path then some content else files.content? conditions other := by
  have happend : (files.put conditions path content).content? conditions other =
      (files.content? conditions other).or
        (content? [(nameOf path, content)] conditions other) := by
    rw [put, if_neg (by simp [h]), content?, List.find?_append, Option.map_or]
    rfl
  have hnew : content? [(nameOf path, content)] conditions other =
      if path = other then some content else none := by
    rw [content?, List.find?_singleton, pathOf_nameOf hpath]
    by_cases hother : path = other <;> simp [hother]
  rw [happend, hnew]
  by_cases hother : other = path
  · rw [if_pos hother, if_pos hother.symm, hother, h, Option.none_or]
  · rw [if_neg hother, if_neg (Ne.symm hother), Option.or_none]

/-- A file that is written has its content, and every other file keeps what it had. -/
theorem content?_put (hpath : path ≠ []) :
    (files.put conditions path content).content? conditions other =
      if other = path then some content else files.content? conditions other := by
  cases h : files.content? conditions path with
  | none => exact content?_put_of_eq_none h hpath
  | some old => exact content?_put_of_isSome (by rw [h]; rfl)

end Contents

section Ways

/-- Writing changes the names of files only by the name of the file that is written. -/
theorem any_put (p : Path → Bool) (hpath : path ≠ []) :
    ((files.put conditions path content).any fun file => p (pathOf conditions file.1)) =
      ((files.any fun file => p (pathOf conditions file.1)) ||
        (!(files.content? conditions path).isSome && p path)) := by
  rw [put]
  split
  · rename_i h
    have hkeep : (fun file : String × List UInt8 => p (pathOf conditions file.1)) ∘
        (fun file => if pathOf conditions file.1 = path then (file.1, content) else file) =
          fun file => p (pathOf conditions file.1) := by
      funext file
      rw [Function.comp_apply]
      split <;> rfl
    rw [List.any_map, hkeep, h, Bool.not_true, Bool.false_and, Bool.or_false]
  · rename_i h
    rw [Bool.not_eq_true] at h
    rw [List.any_append, List.any_cons, List.any_nil, Bool.or_false, pathOf_nameOf hpath, h,
      Bool.not_false, Bool.true_and]

/-- What was a directory stays one. -/
theorem isDirectory_put (hpath : path ≠ []) (h : files.isDirectory conditions other = true) :
    (files.put conditions path content).isDirectory conditions other = true := by
  rw [isDirectory] at h ⊢
  rw [any_put (fun way => other.isPrefixOf way && other.length < way.length) hpath, ← Bool.or_assoc,
    h, Bool.true_or]

/-- The file that is written is no directory if there was none. -/
theorem isDirectory_put_self (hpath : path ≠ []) (h : files.isDirectory conditions path = false) :
    (files.put conditions path content).isDirectory conditions path = false := by
  rw [isDirectory, Bool.or_eq_false_iff] at h ⊢
  rw [any_put (fun way => path.isPrefixOf way && path.length < way.length) hpath, h.2]
  exact ⟨h.1, by simp⟩

/-- Where there is a directory, nothing else is found. -/
theorem find_eq_directory :
    files.find conditions place = .directory ↔ files.isDirectory conditions place = true := by
  rw [find]
  split
  · exact iff_of_true rfl ‹_›
  · refine iff_of_false (fun h => ?_) ‹_›
    cases hc : files.content? conditions place <;> rw [hc] at h <;> cases h

/-- Every part of a name leads where it led. -/
theorem step_put (hpath : path ≠ []) (h : files.step conditions place part = .ok next) :
    (files.put conditions path content).step conditions place part = .ok next := by
  -- A part is taken in a directory only, and what was a directory stays one.
  have hfind : files.find conditions place = .directory := by
    rw [step.eq_def] at h
    split at h
    · cases h
    · cases h
    · assumption
  have hput : (files.put conditions path content).find conditions place = .directory :=
    find_eq_directory.2 (isDirectory_put hpath (find_eq_directory.1 hfind))
  rw [step.eq_def, hfind] at h
  rw [step.eq_def, hput]
  exact h

/-- A name leads where it led. -/
theorem walk_put {parts : List (List Char)} (hpath : path ≠ [])
    (h : files.walk conditions place parts = .ok next) :
    (files.put conditions path content).walk conditions place parts = .ok next := by
  induction parts generalizing place with
  | nil => exact h
  | cons part parts ih =>
    rw [walk, List.foldlM_cons] at h ⊢
    cases hs : files.step conditions place part with
    | error fault =>
      rw [hs] at h
      cases h
    | ok middle =>
      rw [hs] at h
      rw [step_put hpath hs]
      exact ih h

end Ways

section Targets

/-- A file is written at the end of a way that leads to no directory. -/
theorem writableAt_eq_ok (h : files.writableAt conditions place = .ok path) :
    place = path ∧ files.isDirectory conditions path = false := by
  rw [writableAt] at h
  split at h
  · cases h
  · cases hd : files.isDirectory conditions place with
    | true =>
      rw [find, if_pos hd] at h
      cases h
    | false =>
      have hplace : place = path := by
        split at h
        · cases h
        · cases h
          rfl
        · split at h
          · cases h
            rfl
          · cases h
      exact ⟨hplace, hplace ▸ hd⟩

/-- The name under which a file is written leads to it. -/
theorem walk_of_target (h : files.target conditions name = .ok path) :
    name ≠ "" ∧ files.walk conditions (start conditions name) (parts name) = .ok path ∧
      files.isDirectory conditions path = false := by
  rw [target] at h
  dsimp only at h
  split at h
  · cases h
  · rename_i hname
    split at h
    · cases hw : files.walk conditions (start conditions name)
        ((parts name).reverse.dropWhile (·.isEmpty)).reverse <;> rw [hw] at h <;> cases h
    · cases hw : files.walk conditions (start conditions name) (parts name) with
      | error fault =>
        rw [hw] at h
        cases h
      | ok place =>
        rw [hw] at h
        obtain ⟨rfl, hd⟩ := writableAt_eq_ok h
        exact ⟨hname, rfl, hd⟩

/-- The root is never written. -/
theorem ne_nil_of_target (h : files.target conditions name = .ok path) : path ≠ [] := by
  rintro rfl
  cases (walk_of_target h).2.2

/-- A file that was written is read under the name under which it was written, if it may be read. -/
theorem readUnder_put (h : files.target conditions name = .ok path)
    (hread : conditions.unreadable path = none) :
    (files.put conditions path content).readUnder conditions name = .ok content := by
  obtain ⟨hname, hwalk, hd⟩ := walk_of_target h
  have hpath := ne_nil_of_target h
  have hcontent : (files.put conditions path content).content? conditions path = some content := by
    rw [content?_put hpath, if_pos rfl]
  have hfind : (files.put conditions path content).find conditions path = .file content := by
    rw [find, isDirectory_put_self hpath hd, if_neg Bool.false_ne_true, hcontent]
    rfl
  have hat : (files.put conditions path content).contentAt conditions path = .ok content := by
    rw [contentAt, hread, hfind]
  rw [readUnder, if_neg hname, walk_put hpath hwalk]
  exact hat

end Targets

end Files

end HtmlToHaml.Cli
