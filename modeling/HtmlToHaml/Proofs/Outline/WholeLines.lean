import HtmlToHaml.Proofs.Haml.Levels
import HtmlToHaml.Proofs.Outline.Grammar

/-!
# Whole lines

With scripts or without, what is written for trees is made of whole lines. Blocks of lines are so by
themselves; a header is not, but what stands after it ends its line, even if that is nothing but the
line feed.
-/

namespace HtmlToHaml.Haml

open Text DocTree

variable {options : Options} {row : WriteRow} {inPre : Bool} {level : Nat} {spot : Spot}
  {tree : Shape} {trees children rest : List Shape} {name : String} {s text body : List Char}

section Pieces

/-- Lines of text are whole. -/
theorem complete_textLines (s : List Char) (level : Nat) (escapeSpecial : Bool) :
    Complete (textLines s level escapeSpecial) := by
  rw [textLines]
  split
  · exact complete_nil
  · exact .flatMap fun _ _ => complete_concat _

/-- A text is written as whole lines. -/
theorem complete_writeText (erb : Bool) (text : List Char) (rest : List Shape) (level : Nat)
    (escapeSpecial : Bool) : Complete (writeText erb text rest level escapeSpecial) := by
  rw [writeText]
  split
  · exact complete_nil
  · exact complete_textLines _ _ _

/-- A comment is made of whole lines. -/
theorem complete_commentBlock (content : List Char) (level : Nat) :
    Complete (commentBlock content level) := by
  simp only [commentBlock]
  split
  · exact (complete_textLines _ _ _).cons _
  split
  · exact complete_concat _
  · exact complete_concat _

/-- A filter is made of whole lines. -/
theorem complete_filterBlock (filter : Filter) (s : List Char) (level : Nat) :
    Complete (filterBlock filter s level) := by
  have hbody : Complete (normalizeBody s (level + 1)) := .flatMap fun _ _ => complete_concat _
  exact hbody.cons _

/-- The lines of a script are whole. -/
theorem complete_indentedLines (level : Nat) (lines : List (List Char)) :
    Complete (indentedLines level lines) :=
  .flatMap fun _ _ => complete_concat _

/-- Text after a header ends the line of the header. -/
theorem getLast?_inlineText (hs : Complete s) : (inlineText s).getLast? = some '\n' := by
  have hstart : Complete (trimStart s) := hs.of_isSuffix (trimStartBy_isSuffix isSpace s)
  simp only [inlineText]
  split
  · rfl
  split
  · exact hs.getLast?_cons
  · rename_i hne _
    rcases hstart with he | hl
    · exact absurd (by rw [he]; rfl) hne
    · rw [List.getLast?_cons, hl, Option.getD_some]

/-- A script after a header ends the line of the header. -/
theorem getLast?_inlineScript (hs : Complete s) : (inlineScript s).getLast? = some '\n' := by
  have hstart : Complete (trimStart s) := hs.of_isSuffix (trimStartBy_isSuffix isSpace s)
  simp only [inlineScript]
  split
  · rfl
  · rename_i hne
    exact hstart.resolve_left fun he => hne (by rw [he]; rfl)

end Pieces

section Rows

/-- Rows come to whole lines. -/
def RowComplete (row : WriteRow) : Prop :=
  ∀ inPre level trees text, row inPre level trees = .ok text → Complete text

/-- What stands after the header of an element ends the line of the header. -/
theorem getLast?_writeBody {erb : Bool} (hrow : RowComplete row)
    (h : writeBody erb row inPre name level children = .ok body) : body.getLast? = some '\n' := by
  have hbelow : (row (name == "pre") (level + 1) children).map ('\n' :: ·) = .ok body →
      body.getLast? = some '\n' := by
    intro hr
    obtain ⟨text, hw, rfl⟩ := exists_of_map_eq_ok hr
    exact (hrow _ _ _ _ hw).getLast?_cons
  rcases children with _ | ⟨child, _ | ⟨second, others⟩⟩
  · exact hbelow h
  · rw [writeBody] at h
    split at h
    · split at h
      · cases h
        exact getLast?_inlineText (complete_writeText _ _ _ _ _)
      split at h
      · cases h
        exact ((complete_preservedLines _).cons _).getLast?_cons
      · exact hbelow h
    · split at h
      · obtain ⟨text, hw, rfl⟩ := exists_of_map_eq_ok h
        exact getLast?_inlineScript (hrow _ _ _ _ hw)
      · exact hbelow h
  · exact hbelow h

/-- An element with a header is written as whole lines. -/
theorem complete_writeTag {glued selfClosing : Bool} {attributes : List Attribute}
    (hrow : RowComplete row)
    (h : writeTag options row inPre glued name attributes selfClosing level children rest =
      .ok text) :
    Complete text := by
  simp only [writeTag] at h
  split at h
  all_goals
    obtain ⟨body, hb, rfl⟩ := exists_of_map_eq_ok h
    exact complete_append_of_getLast? (getLast?_writeBody hrow hb)

/-- A leaf is written as whole lines. -/
theorem complete_writeLeaf {erb : Bool} {leaf : Leaf}
    (h : writeLeaf erb spot level rest leaf = .ok text) : Complete text := by
  cases leaf with
  | text content =>
    cases h
    exact complete_writeText _ _ _ _ _
  | comment content =>
    cases h
    exact complete_commentBlock _ _
  | cdata content =>
    cases h
    exact (complete_textLines _ _ _).cons _
  | doctype name externalId systemId =>
    obtain ⟨line, _, rfl⟩ := exists_of_map_eq_ok h
    exact complete_concat _
  | instruction content =>
    cases h
    exact complete_append_of_getLast? (by decide)

/-- A tree is written as whole lines. -/
theorem complete_writeShape (hrow : RowComplete row)
    (h : writeShape options row inPre level spot rest tree = .ok text) : Complete text := by
  cases tree with
  | leaf leaf => exact complete_writeLeaf h
  | branch kind children =>
    cases kind with
    | document => exact hrow _ _ _ _ h
    | fragment => exact hrow _ _ _ _ h
    | element name attributes selfClosing =>
      cases hm : manner options.erb name attributes with
      | filtered filter =>
        simp only [writeShape, hm] at h
        cases h
        exact complete_filterBlock _ _ _
      | opened =>
        simp only [writeShape, hm] at h
        exact hrow _ _ _ _ h
      | script silent =>
        simp only [writeShape, hm] at h
        cases h
        exact complete_indentedLines _ _
      | tag =>
        simp only [writeShape, hm] at h
        exact complete_writeTag hrow h

/-- A row of trees is written as whole lines. -/
theorem complete_writeFrom (hrow : RowComplete row)
    (h : writeFrom options row inPre level spot trees = .ok text) : Complete text := by
  induction trees generalizing spot text with
  | nil =>
    cases h
    exact complete_nil
  | cons tree rest ih =>
    obtain ⟨first, more, hw, hm, rfl⟩ := exists_of_writeFrom_cons h
    refine .append ?_ (ih hm)
    rw [writeNext] at hw
    split at hw
    · exact complete_writeShape hrow hw
    · cases hw
      exact complete_nil

/-- **Every row of trees is written as whole lines.** -/
theorem rowComplete_writeRow (depth : Nat) : RowComplete (writeRow options depth) :=
  writeRow_invariant (fun _ _ => complete_nil)
    (fun hrow _ _ _ _ h => complete_writeFrom hrow h) depth

end Rows

/-- **What a document or a fragment comes to is made of whole lines.** -/
theorem complete_render {store : Store} {kind : Branch} {answer : String} (h : store.Forest)
    (hkind : kind = .document ∨ kind = .fragment)
    (hs : store.Shows store.root (.branch kind trees)) (hr : render store options = .ok answer) :
    Complete answer.toList := by
  rw [render_eq_writeRow h hkind hs] at hr
  obtain ⟨text, hw, rfl⟩ := exists_of_map_eq_ok hr
  rw [String.toList_ofList]
  exact rowComplete_writeRow _ _ _ _ _ hw

end HtmlToHaml.Haml
