import HtmlToHaml.Text.CaseData

/-!
# Letter case

Full case mapping of Unicode. A capital sigma at the end of a word takes its final form; apart from
that every character is mapped by itself. On ASCII text the mappings are those of the English
alphabet.
-/

namespace HtmlToHaml.Text

/-- Whether a number lies in one of the ranges. -/
def inRanges (ranges : List (Nat × Nat)) (n : Nat) : Bool :=
  ranges.any fun range => range.1 ≤ n && n ≤ range.2

/-- What the first run that holds a number maps it to. -/
def mapRun? (runs : List CaseRun) (n : Nat) : Option Nat :=
  (runs.find? fun run => run.first ≤ n && n ≤ run.last && (n - run.first) % run.step == 0).map
    fun run => ((n : Int) + run.offset).toNat

/-- A character mapped by the runs, or by the list of longer mappings. -/
def mapCase (runs : List CaseRun) (long : List (Nat × List Nat)) (c : Char) : List Char :=
  match long.lookup c.toNat with
  | some codes => codes.map Char.ofNat
  | none => [((mapRun? runs c.toNat).map Char.ofNat).getD c]

/-- The upper case of a character. -/
def upperChar (c : Char) : List Char :=
  mapCase upperRuns upperLong c

/-- The lower case of a character away from the end of a word. -/
def lowerChar (c : Char) : List Char :=
  mapCase lowerRuns lowerLong c

/-- Whether the first character that counts has a case. -/
def meetsCased (s : List Char) : Bool :=
  match s.dropWhile fun c => inRanges caseIgnorableRanges c.toNat with
  | c :: _ => inRanges casedRanges c.toNat
  | [] => false

/-- The lower case of a text, where `before` holds the text in front of it from its end on. -/
def lowerAfter (before : List Char) : List Char → List Char
  | [] => []
  | c :: rest =>
    (if c = 'Σ' ∧ meetsCased before ∧ !meetsCased rest then ['ς'] else lowerChar c) ++
      lowerAfter (c :: before) rest

/-- The text in lower case. -/
def toLower (s : List Char) : List Char :=
  lowerAfter [] s

/-- The text with its first character in upper case. -/
def capitalize : List Char → List Char
  | [] => []
  | c :: rest => upperChar c ++ rest

end HtmlToHaml.Text
