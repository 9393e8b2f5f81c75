import HtmlToHaml.Html.CharacterReference

/-!
# The text of a tag

A tag runs to its closing bracket, wherever quotes do not hide one. Whatever stands between its
attributes is skipped; a tag that the source ends in is no tag at all.
-/

namespace HtmlToHaml.Html

open Text DocTree

/-- A character that continues the name of a tag. -/
def isTagNameChar (c : Char) : Bool :=
  !isHtmlSpace c && c != '/' && c != '>'

/-- A character that continues the name of an attribute. -/
def isAttributeNameChar (c : Char) : Bool :=
  isTagNameChar c && c != '='

/-- A character that continues a value without quotes. -/
def isBareValueChar (c : Char) : Bool :=
  !isHtmlSpace c && c != '>'

/-- The value after an equal sign as it is written, and the text after it; none if the source ends
first. A closing bracket in the place of a value leaves the value empty. -/
def writtenValue? (s : List Char) : Option (List Char × List Char) :=
  match s.dropWhile isHtmlSpace with
  | [] => none
  | c :: s =>
    if c = '"' ∨ c = '\'' then breakOn [c] s
    else some ((c :: s).takeWhile isBareValueChar, (c :: s).dropWhile isBareValueChar)

/-- What follows a value is no longer than the text it begins. -/
theorem length_le_of_writtenValue? {s value rest : List Char}
    (h : writtenValue? s = some (value, rest)) : rest.length ≤ s.length := by
  have hd := (List.dropWhile_suffix (l := s) isHtmlSpace).length_le
  unfold writtenValue? at h
  split at h
  · cases h
  · rename_i c t ht
    rw [ht] at hd
    split at h
    · have := length_lt_of_breakOn (by simp) h
      simp only [List.length_cons] at hd
      omega
    · cases h
      exact Nat.le_trans (List.dropWhile_suffix isBareValueChar).length_le hd

/-- The value of an attribute as it is written, and the text after it; none if the source ends
first. An attribute without an equal sign has an empty value. -/
def assignedValue? (s : List Char) : Option (List Char × List Char) :=
  match s.dropWhile isHtmlSpace with
  | '=' :: rest => writtenValue? rest
  | rest => some ([], rest)

/-- What follows a value that may be left out is no longer than the text it begins. -/
theorem length_le_of_assignedValue? {s value rest : List Char}
    (h : assignedValue? s = some (value, rest)) : rest.length ≤ s.length := by
  have hd := (List.dropWhile_suffix (l := s) isHtmlSpace).length_le
  unfold assignedValue? at h
  split at h
  · rename_i t ht
    rw [ht, List.length_cons] at hd
    have := length_le_of_writtenValue? h
    omega
  · cases h
    exact hd

/-- The name and the value of an attribute as they are written, and the text after them; none if the
source ends first. The first character belongs to the name whatever it is. -/
def writtenPair? (c : Char) (s : List Char) : Option ((List Char × List Char) × List Char) :=
  (assignedValue? (s.dropWhile isAttributeNameChar)).map fun (value, rest) =>
    ((c :: s.takeWhile isAttributeNameChar, value), rest)

/-- What follows an attribute is no longer than the text after its first character. -/
theorem length_le_of_writtenPair? {c : Char} {s rest : List Char} {pair : List Char × List Char}
    (h : writtenPair? c s = some (pair, rest)) : rest.length ≤ s.length := by
  obtain ⟨⟨value, t⟩, ha, he⟩ := Option.map_eq_some_iff.1 h
  cases he
  exact Nat.le_trans (length_le_of_assignedValue? ha)
    (List.dropWhile_suffix isAttributeNameChar).length_le

/-- What comes next in a tag. -/
inductive TagPart where
  /-- An attribute as it is written, and the text after it. -/
  | attribute (pair : List Char × List Char) (rest : List Char)
  /-- A slash that closes nothing, and the text after it. -/
  | slash (rest : List Char)
  /-- The closing bracket, with a slash or without one, and the text after it. -/
  | close (selfClosing : Bool) (rest : List Char)

/-- What comes next in a tag after white space; none if the source ends first. -/
def tagPart? : List Char → Option TagPart
  | [] => none
  | '>' :: rest => some (.close false rest)
  | '/' :: '>' :: rest => some (.close true rest)
  | '/' :: rest => some (.slash rest)
  | c :: s => (writtenPair? c s).map fun (pair, rest) => .attribute pair rest

/-- The text after a part of a tag. -/
def TagPart.rest : TagPart → List Char
  | .attribute _ rest | .slash rest | .close _ rest => rest

/-- What follows a part of a tag is shorter than the text it begins. -/
theorem length_rest_lt_of_tagPart? {s : List Char} {part : TagPart} (h : tagPart? s = some part) :
    part.rest.length < s.length := by
  unfold tagPart? at h
  split at h
  · cases h
  · cases h
    simp [TagPart.rest]
  · cases h
    simp only [TagPart.rest, List.length_cons]
    omega
  · cases h
    simp [TagPart.rest]
  · obtain ⟨⟨pair, rest⟩, hp, rfl⟩ := Option.map_eq_some_iff.1 h
    exact Nat.lt_succ_of_le (length_le_of_writtenPair? hp)

/-- What stands between the name of a tag and its closing bracket. -/
structure TagBody where
  /-- The attributes as they are written. -/
  attributes : List (List Char × List Char)
  /-- Whether a slash stands right before the closing bracket. -/
  selfClosing : Bool
  /-- The text after the tag. -/
  rest : List Char

/-- The body with one more attribute in front. -/
def TagBody.cons (pair : List Char × List Char) (body : TagBody) : TagBody :=
  { body with attributes := pair :: body.attributes }

/-- The body of a tag; none if the source ends first. -/
def tagBody? (s : List Char) : Option TagBody :=
  match _h : tagPart? (s.dropWhile isHtmlSpace) with
  | none => none
  | some (.close selfClosing rest) => some ⟨[], selfClosing, rest⟩
  | some (.slash rest) => tagBody? rest
  | some (.attribute pair rest) => (tagBody? rest).map (TagBody.cons pair)
termination_by s.length
decreasing_by
  all_goals
    exact Nat.lt_of_lt_of_le (length_rest_lt_of_tagPart? _h)
      (List.dropWhile_suffix isHtmlSpace).length_le

/-- The attributes without those whose name came before. -/
def firstOfEach (seen : List String) : List Attribute → List Attribute
  | [] => []
  | a :: rest =>
    if seen.contains a.name then firstOfEach seen rest
    else a :: firstOfEach (a.name :: seen) rest

/-- An attribute as it is written. -/
def writtenAttribute (written : List Char × List Char) : Attribute :=
  ⟨String.ofList (nameText written.1), String.ofList (attributeText written.2)⟩

/-- The tag that begins with a name, and the text after it. -/
def tag? (s : List Char) : Option (Tag × List Char) :=
  (tagBody? (s.dropWhile isTagNameChar)).map fun body =>
    (⟨String.ofList (nameText (s.takeWhile isTagNameChar)),
      firstOfEach [] (body.attributes.map writtenAttribute), body.selfClosing⟩, body.rest)

/-- What follows the body of a tag is no longer than the text it begins. -/
theorem length_rest_le_of_tagBody? {s : List Char} {body : TagBody} (h : tagBody? s = some body) :
    body.rest.length ≤ s.length := by
  fun_induction tagBody? s generalizing body with
  | case1 => cases h
  | case2 s selfClosing rest hp =>
    cases h
    exact Nat.le_trans (Nat.le_of_lt (length_rest_lt_of_tagPart? hp))
      (List.dropWhile_suffix isHtmlSpace).length_le
  | case3 s rest hp ih =>
    exact Nat.le_trans (ih h) (Nat.le_trans (Nat.le_of_lt (length_rest_lt_of_tagPart? hp))
      (List.dropWhile_suffix isHtmlSpace).length_le)
  | case4 s pair rest hp ih =>
    obtain ⟨inner, hi, rfl⟩ := Option.map_eq_some_iff.1 h
    have hr : inner.rest.length ≤ rest.length := ih hi
    exact Nat.le_trans hr (Nat.le_trans (Nat.le_of_lt (length_rest_lt_of_tagPart? hp))
      (List.dropWhile_suffix isHtmlSpace).length_le)

/-- What follows a tag is no longer than the text it begins. -/
theorem length_le_of_tag? {s rest : List Char} {tag : Tag} (h : tag? s = some (tag, rest)) :
    rest.length ≤ s.length := by
  obtain ⟨body, hb, he⟩ := Option.map_eq_some_iff.1 h
  cases he
  exact Nat.le_trans (length_rest_le_of_tagBody? hb)
    (List.dropWhile_suffix isTagNameChar).length_le

end HtmlToHaml.Html
