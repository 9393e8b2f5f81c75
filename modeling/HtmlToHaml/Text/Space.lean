/-!
# White space and trimming

Three notions of white space meet in markup: the Unicode property, its ASCII part, and the four
characters that separate words in a tag. Trimming always uses the first of them.
-/

namespace HtmlToHaml.Text

/-- The Unicode property White_Space. -/
def isSpace (c : Char) : Bool :=
  let n := c.toNat
  (9 ≤ n && n ≤ 13) || n == 0x20 || n == 0x85 || n == 0xA0 || n == 0x1680 ||
    (0x2000 ≤ n && n ≤ 0x200A) || n == 0x2028 || n == 0x2029 || n == 0x202F || n == 0x205F ||
    n == 0x3000

/-- White space among the ASCII characters: the space, and tab through carriage return. -/
def isAsciiSpace (c : Char) : Bool :=
  (9 ≤ c.toNat && c.toNat ≤ 13) || c == ' '

/-- White space inside a tag: space, tab, line feed and carriage return. -/
def isTagSpace (c : Char) : Bool :=
  c == ' ' || c == '\t' || c == '\n' || c == '\r'

/-- A space or a tab, the characters that indent a line of script. -/
def isIndent (c : Char) : Bool :=
  c == ' ' || c == '\t'

/-- Every ASCII space is a space. -/
theorem isSpace_of_isAsciiSpace {c : Char} (h : isAsciiSpace c = true) : isSpace c = true := by
  simp only [isAsciiSpace, isSpace, Bool.or_eq_true, Bool.and_eq_true, decide_eq_true_eq,
    beq_iff_eq] at h ⊢
  rcases h with h | h
  · simp [h]
  · simp [h]

/-- A line feed is a space. -/
theorem isSpace_newline : isSpace '\n' = true := by decide

/-- The text from its first character that `p` rejects. -/
def trimStartBy (p : Char → Bool) (s : List Char) : List Char :=
  s.dropWhile p

/-- The text up to its last character that `p` rejects. -/
def trimEndBy (p : Char → Bool) (s : List Char) : List Char :=
  (s.reverse.dropWhile p).reverse

/-- The text without the characters of `p` at either end. -/
def trimBy (p : Char → Bool) (s : List Char) : List Char :=
  trimEndBy p (trimStartBy p s)

/-- The text without leading white space. -/
def trimStart (s : List Char) : List Char :=
  trimStartBy isSpace s

/-- The text without trailing white space. -/
def trimEnd (s : List Char) : List Char :=
  trimEndBy isSpace s

/-- The text without white space at either end. -/
def trim (s : List Char) : List Char :=
  trimBy isSpace s

/-- Nothing but white space. -/
def isBlank (s : List Char) : Bool :=
  s.all isSpace

/-- The words of a text: its maximal runs of characters that are no white space. -/
def words (s : List Char) : List (List Char) :=
  (s.splitOnP isSpace).filter (!·.isEmpty)

/-- Trimming at the end keeps a beginning of the text. -/
theorem trimEndBy_isPrefix (p : Char → Bool) (s : List Char) : trimEndBy p s <+: s := by
  have h := List.dropWhile_suffix (l := s.reverse) p
  simpa [trimEndBy] using List.reverse_prefix.2 h

/-- Trimming at the start keeps an end of the text. -/
theorem trimStartBy_isSuffix (p : Char → Bool) (s : List Char) : trimStartBy p s <:+ s :=
  List.dropWhile_suffix p

end HtmlToHaml.Text
