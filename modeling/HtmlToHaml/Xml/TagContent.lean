import HtmlToHaml.Text.Search
import HtmlToHaml.Text.Space
import HtmlToHaml.Xml.Event

/-!
# The content of a tag

Attributes are read as HTML allows them: values may go without quotes, and an attribute without a
value has an empty one. Only the first attribute of a name counts; reading goes on at the next white
space after a repeated one.
-/

namespace HtmlToHaml.Xml

open Text

/-- A character that continues the name of an attribute. -/
def isKeyChar (c : Char) : Bool :=
  c != '=' && !isTagSpace c

/-- A quotation mark. -/
def isQuote (c : Char) : Bool :=
  c == '"' || c == '\''

/-- The text from its next white space on. -/
def toSpace (s : List Char) : List Char :=
  s.dropWhile (!isTagSpace ·)

/-- The value after an equal sign, and the text after it; none at the end or without a closing
quote. -/
def attributeValue? (s : List Char) : Option (List Char × List Char) :=
  match s.dropWhile isTagSpace with
  | [] => none
  | c :: s =>
    if isQuote c then breakOn [c] s else some (c :: s.takeWhile (!isTagSpace ·), toSpace s)

/-- Skipping never makes a text longer. -/
theorem length_dropWhile_le (p : Char → Bool) (s : List Char) :
    (s.dropWhile p).length ≤ s.length :=
  (List.dropWhile_suffix p).length_le

/-- What follows a value is no longer than the text it begins. -/
theorem length_le_of_attributeValue? {s value rest : List Char}
    (h : attributeValue? s = some (value, rest)) : rest.length ≤ s.length := by
  have hd := length_dropWhile_le isTagSpace s
  unfold attributeValue? at h
  split at h
  · cases h
  · rename_i c t ht
    rw [ht, List.length_cons] at hd
    split at h
    · have := length_lt_of_breakOn (by simp) h
      omega
    · simp only [Option.some.injEq, Prod.mk.injEq] at h
      have := length_dropWhile_le (!isTagSpace ·) t
      rw [← h.2]
      simp only [toSpace]
      omega

/-- The attributes in a text, where those of some names are already there. -/
def attributesAfter (seen : List (List Char)) (s : List Char) : List (List Char × List Char) :=
  match _h : s.dropWhile isTagSpace with
  | [] => []
  | c :: afterFirst =>
    let key := c :: afterFirst.takeWhile isKeyChar
    match _h' : (afterFirst.dropWhile isKeyChar).dropWhile isTagSpace with
    | '=' :: afterEqual =>
      if seen.contains key then attributesAfter seen (toSpace afterEqual)
      else
        match _h'' : attributeValue? afterEqual with
        | some (value, rest) => (key, value) :: attributesAfter (key :: seen) rest
        | none => []
    | rest =>
      if seen.contains key then attributesAfter seen rest
      else (key, []) :: attributesAfter (key :: seen) rest
termination_by s.length
decreasing_by
  all_goals
    have h₁ := length_dropWhile_le isTagSpace s
    have h₂ := length_dropWhile_le isKeyChar afterFirst
    have h₃ := length_dropWhile_le isTagSpace (afterFirst.dropWhile isKeyChar)
    rw [_h, List.length_cons] at h₁
    rw [_h'] at h₃
  · rw [List.length_cons] at h₃
    have := length_dropWhile_le (!isTagSpace ·) afterEqual
    simp only [toSpace]
    omega
  · rw [List.length_cons] at h₃
    have := length_le_of_attributeValue? _h''
    omega
  all_goals omega

/-- What the content of a tag says: the name runs up to the first white space. -/
def Tag.ofContent (content : List Char) : Tag :=
  ⟨content.takeWhile (!isTagSpace ·), attributesAfter [] (toSpace content)⟩

/-- The name in an end tag: everything, without the white space after it. White space alone is the
name. -/
def closedName (content : List Char) : List Char :=
  let name := trimEndBy isTagSpace content
  if name.isEmpty then content else name

end HtmlToHaml.Xml
