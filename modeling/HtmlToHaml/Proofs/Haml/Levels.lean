import HtmlToHaml.Proofs.Haml.HeaderReading
import HtmlToHaml.Proofs.Haml.OneLine
import HtmlToHaml.Proofs.Text.Lines
import Mathlib.Algebra.Group.Even
import Mathlib.Data.List.Chain

/-!
# Legal nesting

In Haml a line is nested below the last line before it that is less indented. An outline is legal if
it begins at the margin, goes deeper by one step of two spaces at most, and does so only below lines
that can hold others. Blank lines and the lines of preserved text do not count. `Block` builds legal
outlines piece by piece; the main statement is that every block at the margin is a legal outline.
-/

namespace HtmlToHaml.Haml

open Text

variable {style : AttributeStyle} {level : Nat} {s t line body : List Char}
  {lines after : List (List Char)}

/-- The number of spaces a line begins with. -/
def depthOf (line : List Char) : Nat :=
  (line.takeWhile (· == ' ')).length

/-- A line without the spaces it begins with. -/
def lineBody (line : List Char) : List Char :=
  line.dropWhile (· == ' ')

/-- The line in front of preserved text. -/
def preserveLine : List Char :=
  ':' :: Filter.preserve.name.toList

/-- The lines that can hold others. -/
inductive Opener (style : AttributeStyle) : List Char → Prop
  /-- A line that is read as the header of an element, with nothing left of it, if the element does
  not close itself. -/
  | header {line : List Char} {parts : HeaderParts} : '\n' ∉ line →
    readHeader style line = some (parts, []) → parts.selfClosing = false → Opener style line
  /-- What puts the lines below it in front of a word. -/
  | succeed (word : List Char) :
    Opener style ("= succeed ".toList ++ rubyString word ++ " do".toList)
  /-- A comment without text after the slash. -/
  | comment : Opener style ['/']
  /-- A conditional comment without text after the condition. -/
  | condition {inside : List Char} : '\n' ∉ inside → ']' ∉ inside →
    Opener style ('/' :: '[' :: inside ++ [']'])
  /-- A filter for character data. -/
  | cdata : Opener style (':' :: Filter.cdata.name.toList)
  /-- A filter for preserved text. -/
  | preserve : Opener style preserveLine

/-- The second line may follow the first one: it is at most one step deeper, and deeper only if the
first one can hold others. -/
structure MayFollow (style : AttributeStyle) (line next : List Char) : Prop where
  /-- No step is greater than two spaces. -/
  step : depthOf next ≤ depthOf line + 2
  /-- Only some lines hold others. -/
  opener : depthOf line < depthOf next → Opener style (lineBody line)

/-- The lines of a text that are not blank. -/
def shownLines (s : List Char) : List (List Char) :=
  (splitLines s).filter fun line => !isBlank line

/-- The lines without those of preserved text, which are deeper than the line in front of it; a
limit is the depth of that line. -/
def outsidePreserved : (limit : Option Nat) → List (List Char) → List (List Char)
  | _, [] => []
  | limit, line :: rest =>
    if limit.any (· < depthOf line) then outsidePreserved limit rest
    else
      line :: outsidePreserved (if lineBody line = preserveLine then some (depthOf line) else none)
        rest

/-- The lines that count for the nesting. -/
def codeLines (s : List Char) : List (List Char) :=
  outsidePreserved none (shownLines s)

/-- The lines of a legal outline. -/
structure Legal (style : AttributeStyle) (lines : List (List Char)) : Prop where
  /-- The first line stands at the margin. -/
  first : ∀ line ∈ lines.head?, depthOf line = 0
  /-- Lines are indented by steps of two spaces. -/
  even : ∀ line ∈ lines, Even (depthOf line)
  /-- Every line may follow the one before it. -/
  chain : lines.IsChain (MayFollow style)

/-- A line that begins with a character that shows. -/
def Begins (body : List Char) : Prop :=
  ∃ c rest, body = c :: rest ∧ isSpace c = false

/-- Lines at a level and deeper ones, each below a line that can hold it. -/
inductive Block (style : AttributeStyle) : Nat → List Char → Prop
  /-- No lines. -/
  | nil {level : Nat} : Block style level []
  /-- A blank line. -/
  | blank {level : Nat} {line rest : List Char} : isBlank line = true → '\n' ∉ line →
    Block style level rest → Block style level (line ++ '\n' :: rest)
  /-- A line that holds no others. -/
  | line {level : Nat} {body rest : List Char} : Begins body → '\n' ∉ body →
    Block style level rest → Block style level (indentation level ++ body ++ '\n' :: rest)
  /-- A line with others below it. -/
  | nest {level : Nat} {body inner rest : List Char} : Opener style body → body ≠ preserveLine →
    Block style (level + 1) inner → Block style level rest →
    Block style level (indentation level ++ body ++ '\n' :: inner ++ rest)
  /-- Preserved text. -/
  | preserved {level : Nat} {lines : List (List Char)} {rest : List Char} :
    (∀ line ∈ lines, '\n' ∉ line) → Block style level rest →
    Block style level
      (indentation level ++ preserveLine ++ '\n' :: lines.flatMap (preservedLine (level + 1)) ++
        rest)

section Lines

/-- Any line that is not blank is shown. -/
theorem shownLines_line (hn : '\n' ∉ line) :
    shownLines (line ++ '\n' :: s) =
      (if isBlank line then [] else [line]) ++ shownLines s := by
  rw [shownLines, splitLines, List.splitOn_append_cons_self_of_not_mem hn, List.filter_cons]
  by_cases hb : isBlank line = true
  · simp [hb, shownLines, splitLines]
  · simp [hb, shownLines, splitLines]

/-- The lines of a text behind whole lines are lines of their own. -/
theorem shownLines_append (hs : Complete s) :
    shownLines (s ++ t) = shownLines s ++ shownLines t := by
  rcases hs with rfl | hs
  · rfl
  · obtain ⟨front, rfl⟩ := List.getLast?_eq_some_iff.1 hs
    have hend : shownLines (front ++ ['\n']) = shownLines front := by
      rw [shownLines, splitLines_append_newline, List.filter_append]
      exact List.append_nil _
    rw [hend, shownLines, List.append_assoc, List.singleton_append, splitLines_append_newline,
      List.filter_append]
    rfl

/-- A line at a level is as deep as the level. -/
theorem depthOf_indentation_append (hb : Begins body) :
    depthOf (indentation level ++ body) = 2 * level ∧ lineBody (indentation level ++ body) = body ∧
      isBlank (indentation level ++ body) = false := by
  obtain ⟨c, rest, rfl, hc⟩ := hb
  have hspaces : ∀ x ∈ indentation level, (x == ' ') = true := by
    intro x hx
    rw [List.eq_of_mem_replicate hx]
    rfl
  have hne : (c == ' ') = false := by
    rw [beq_eq_false_iff_ne]
    rintro rfl
    cases hc
  refine ⟨?_, ?_, ?_⟩
  · rw [depthOf, List.takeWhile_append_of_pos hspaces, List.takeWhile_cons_of_neg (by simp [hne]),
      List.append_nil, indentation, List.length_replicate]
  · rw [lineBody, List.dropWhile_append_of_pos hspaces, List.dropWhile_cons_of_neg (by simp [hne])]
  · simp [isBlank, hc]

/-- A line at a level is shown. -/
theorem shownLines_body (hb : Begins body) (hn : '\n' ∉ body) :
    shownLines (indentation level ++ body ++ '\n' :: s) =
      (indentation level ++ body) :: shownLines s := by
  obtain ⟨-, -, hshown⟩ := @depthOf_indentation_append level body hb
  have hline : '\n' ∉ indentation level ++ body := by simp [indentation, hn]
  rw [shownLines_line hline, hshown]
  rfl

end Lines

section Openers

/-- A line with a header begins with a character that shows, and not like preserved text. -/
theorem begins_of_readHeader {parts : HeaderParts} {rest : List Char}
    (h : readHeader style line = some (parts, rest)) : Begins line ∧ line ≠ preserveLine := by
  obtain ⟨c, more, rfl, hc⟩ := exists_cons_of_readHeader h
  have hshows : isSpace c = false ∧ c ≠ ':' := by
    simp only [List.mem_cons, List.not_mem_nil, or_false] at hc
    rcases hc with rfl | rfl | rfl <;> decide
  exact ⟨⟨c, more, rfl, hshows.1⟩, fun hp => hshows.2 (List.cons.inj hp).1⟩

/-- The header of an element whose name is an identifier is one line, which is read to its end. -/
theorem exists_readHeader_header {name : List Char} (hname : isCssIdentifier name = true)
    (style : AttributeStyle) (attributes : List DocTree.Attribute) (nuked selfClosing : Bool) :
    '\n' ∉ header style name (Shorthand.of (entries attributes false)) nuked selfClosing ∧
      ∃ parts, parts.selfClosing = selfClosing ∧
        readHeader style (header style name (Shorthand.of (entries attributes false)) nuked
          selfClosing) = some (parts, []) := by
  refine ⟨newline_not_mem_header (newline_not_mem_of_isCssIdentifier hname), ?_⟩
  have hshown := shown_ofShorthand hname attributes nuked selfClosing
  have hread := @readHeader_text style _ [] hshown (by simp [HeadIn])
  rw [List.append_nil, ← header_eq_text_ofShorthand] at hread
  exact ⟨_, rfl, hread⟩

/-- A line that can hold others is not blank, and is one line. -/
theorem Opener.spec (h : Opener style body) : Begins body ∧ '\n' ∉ body := by
  cases h with
  | header hn hread _ => exact ⟨(begins_of_readHeader hread).1, hn⟩
  | succeed word =>
    refine ⟨⟨'=', _, rfl, by decide⟩, ?_⟩
    simp only [List.mem_append, not_or]
    exact ⟨⟨by decide, newline_not_mem_rubyString word⟩, by decide⟩
  | comment => exact ⟨⟨'/', _, rfl, by decide⟩, by decide⟩
  | condition hn => exact ⟨⟨'/', _, rfl, by decide⟩, by simp [hn]⟩
  | cdata => exact ⟨⟨':', _, rfl, by decide⟩, by decide⟩
  | preserve => exact ⟨⟨':', _, rfl, by decide⟩, by decide⟩

end Openers

/-- Lines of preserved text are whole lines. -/
theorem complete_preservedLines (lines : List (List Char)) :
    Complete (lines.flatMap (preservedLine level)) :=
  .flatMap fun _ _ => complete_concat _

namespace Block

/-- A block is made of whole lines. -/
theorem complete (h : Block style level s) : Complete s := by
  induction h with
  | nil => exact complete_nil
  | blank _ _ _ ih => exact ih.cons _
  | line _ _ _ ih => exact ih.cons _
  | nest _ _ _ _ hinner hrest => exact (hinner.cons _).append hrest
  | preserved _ _ ih => exact ((complete_preservedLines _).cons _).append ih

/-- Blocks of a level stand one below the other. -/
theorem append (h : Block style level s) (ht : Block style level t) :
    Block style level (s ++ t) := by
  induction h with
  | nil => exact ht
  | blank hb hn _ ih =>
    rw [List.append_assoc]
    exact .blank hb hn (ih ht)
  | line hb hn _ ih =>
    rw [List.append_assoc]
    exact .line hb hn (ih ht)
  | nest ho hp hinner _ _ ih =>
    rw [List.append_assoc]
    exact .nest ho hp hinner (ih ht)
  | preserved hn _ ih =>
    rw [List.append_assoc]
    exact .preserved hn (ih ht)

end Block

section Legality

/-- Lines that may stand behind those of a level: once the preserved text is left out, the first is
not deeper than the level, and the others may follow each other. -/
structure Fits (style : AttributeStyle) (level : Nat) (lines : List (List Char)) : Prop where
  /-- The first line is not deeper than the level. -/
  first : ∀ line ∈ lines.head?, depthOf line ≤ 2 * level
  /-- Lines are indented by steps of two spaces. -/
  even : ∀ line ∈ outsidePreserved none lines, Even (depthOf line)
  /-- Every line may follow the one before it. -/
  chain : (outsidePreserved none lines).IsChain (MayFollow style)

/-- No line is left out behind a limit that the first line keeps to. -/
theorem outsidePreserved_of_first {limit : Option Nat}
    (h : ∀ line ∈ lines.head?, ∀ depth ∈ limit, depthOf line ≤ depth) :
    outsidePreserved limit lines = outsidePreserved none lines := by
  cases lines with
  | nil => rfl
  | cons line rest =>
    have hany : limit.any (· < depthOf line) = false := by
      cases limit with
      | none => rfl
      | some depth => simpa using h line rfl depth rfl
    rw [outsidePreserved, outsidePreserved, hany]
    rfl

/-- Lines that are deeper than a limit are left out. -/
theorem outsidePreserved_append {limit : Nat} (h : ∀ line ∈ lines, limit < depthOf line) :
    outsidePreserved (some limit) (lines ++ after) = outsidePreserved (some limit) after := by
  induction lines with
  | nil => rfl
  | cons line rest ih =>
    rw [List.cons_append, outsidePreserved, if_pos (by simpa using h line (by simp))]
    exact ih fun line hm => h line (List.mem_cons_of_mem _ hm)

/-- The first line that is kept is the first line. -/
theorem head?_outsidePreserved : (outsidePreserved none lines).head? = lines.head? := by
  cases lines <;> rfl

/-- A line at a level may stand in front of lines that fit there, and in front of lines one step
deeper if it can hold them. -/
theorem Fits.cons {next : Nat} {tail : List (List Char)} (hb : Begins body)
    (hnext : next = level ∨ (next = level + 1 ∧ Opener style body)) (h : Fits style next after)
    (htail : outsidePreserved (if body = preserveLine then some (2 * level) else none) tail =
      outsidePreserved none after) :
    Fits style level ((indentation level ++ body) :: tail) := by
  obtain ⟨hdepth, hbody, -⟩ := @depthOf_indentation_append level body hb
  have hkept : outsidePreserved none ((indentation level ++ body) :: tail) =
      (indentation level ++ body) :: outsidePreserved none after := by
    rw [outsidePreserved, hbody, hdepth, htail]
    rfl
  refine ⟨?_, ?_, ?_⟩
  · intro line hl
    rw [List.head?_cons, Option.mem_some] at hl
    rw [← hl, hdepth]
  · rw [hkept]
    intro line hl
    rcases List.mem_cons.1 hl with rfl | hl
    · rw [hdepth]
      exact ⟨level, Nat.two_mul level⟩
    · exact h.even line hl
  · rw [hkept, List.isChain_cons, head?_outsidePreserved]
    refine ⟨fun line hl => ?_, h.chain⟩
    have hfirst := h.first line hl
    rcases hnext with rfl | ⟨rfl, hopener⟩
    · exact ⟨by omega, fun hd => by omega⟩
    · exact ⟨by omega, fun _ => hbody.symm ▸ hopener⟩

/-- Lines that fit behind a limit are all kept. -/
theorem Fits.outsidePreserved_eq {limit : Option Nat} (h : Fits style level after)
    (hl : ∀ depth ∈ limit, depth = 2 * level) :
    outsidePreserved limit after = outsidePreserved none after :=
  outsidePreserved_of_first fun line hm depth hd => (h.first line hm).trans_eq (hl depth hd).symm

/-- Lines of preserved text are deeper than the line in front of them. -/
theorem lt_depthOf_preservedLines (hn : ∀ line ∈ lines, '\n' ∉ line) :
    ∀ line ∈ shownLines (lines.flatMap (preservedLine (level + 1))), 2 * level < depthOf line := by
  have hspaces : ∀ x ∈ indentation (level + 1), (x == ' ') = true := by
    intro x hx
    rw [List.eq_of_mem_replicate hx]
    rfl
  induction lines with
  | nil => simp [shownLines, splitLines, isBlank]
  | cons line lines ih =>
    have hrest := ih fun line hm => hn line (List.mem_cons_of_mem _ hm)
    rw [List.flatMap_cons, preservedLine, List.append_assoc, List.singleton_append]
    by_cases he : line.isEmpty = true
    · rw [if_pos he, shownLines_line List.not_mem_nil]
      exact hrest
    · have hline : '\n' ∉ indentation (level + 1) ++ line := by
        simpa [indentation] using hn line (by simp)
      have hdepth : 2 * level < depthOf (indentation (level + 1) ++ line) := by
        rw [depthOf, List.takeWhile_append_of_pos hspaces, List.length_append, indentation,
          List.length_replicate]
        omega
      rw [if_neg he, shownLines_line hline]
      intro shown hs
      rcases List.mem_append.1 hs with hs | hs
      · split at hs
        · exact absurd hs List.not_mem_nil
        · exact List.mem_singleton.1 hs ▸ hdepth
      · exact hrest shown hs

/-- **A block stands legally in front of lines that fit at its level.** -/
theorem Block.fits (h : Block style level s) (ha : Fits style level after) :
    Fits style level (shownLines s ++ after) := by
  induction h generalizing after with
  | nil => exact ha
  | blank hb hn _ ih =>
    rw [shownLines_line hn, if_pos hb]
    exact ih ha
  | @line level body rest hb hn _ ih =>
    have hrest := ih ha
    rw [shownLines_body hb hn]
    refine .cons hb (Or.inl rfl) hrest (hrest.outsidePreserved_eq ?_)
    split <;> simp
  | @nest level body inner rest ho hp hinner _ ihinner ih =>
    obtain ⟨hb, hn⟩ := ho.spec
    have hrest := ih ha
    have hdeeper : Fits style (level + 1) (shownLines rest ++ after) :=
      ⟨fun line hl => (hrest.first line hl).trans (by omega), hrest.even, hrest.chain⟩
    rw [List.append_assoc, List.cons_append, shownLines_body hb hn,
      shownLines_append hinner.complete]
    refine .cons hb (Or.inr ⟨rfl, ho⟩) (ihinner hdeeper) ?_
    rw [if_neg hp, List.append_eq, List.append_assoc]
  | @preserved level lines rest hn _ ih =>
    obtain ⟨hb, hpreserve⟩ := (@Opener.preserve style).spec
    have hrest := ih ha
    rw [List.append_assoc, List.cons_append, shownLines_body hb hpreserve,
      shownLines_append (complete_preservedLines lines)]
    refine .cons hb (Or.inl rfl) hrest ?_
    have htail := @Fits.outsidePreserved_eq _ _ _ (some (2 * level)) hrest (by simp)
    rw [if_pos rfl, List.append_eq, List.append_assoc,
      outsidePreserved_append (lt_depthOf_preservedLines hn)]
    exact htail

end Legality

/-- **A block at the margin is a legal outline.** -/
theorem Block.legal (h : Block style 0 s) : Legal style (codeLines s) := by
  have hempty : Fits style 0 [] := ⟨by simp, by simp [outsidePreserved], by simp [outsidePreserved]⟩
  have hfits := h.fits hempty
  rw [List.append_nil] at hfits
  refine ⟨fun line hl => ?_, hfits.even, hfits.chain⟩
  rw [codeLines, head?_outsidePreserved] at hl
  exact Nat.le_zero.1 (hfits.first line hl)

end HtmlToHaml.Haml
