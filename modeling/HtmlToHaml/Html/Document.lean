import HtmlToHaml.Html.Lexeme
import HtmlToHaml.Html.PageRules

/-!
# HTML documents

Every source of HTML gives a tree, whatever mistakes it contains. The tree decides how the source is
read on, so tokens are read and put into the tree one after the other.
-/

namespace HtmlToHaml.Html

open DocTree

/-- The tree after the rest of a source. -/
def Builder.read (b : Builder) : List Char → Builder
  | [] => b.receive .finish
  | c :: s =>
    let lexeme := nextLexeme b.inForeign b.reading c s
    (lexeme.tokens.foldl Builder.receive { b with reading := lexeme.reading }).read lexeme.rest
termination_by s => s.length
decreasing_by
  have := length_nextLexeme_le b.inForeign b.reading c s
  simp only [List.length_cons]
  omega

/-- The tree of a whole document. -/
def document (source : List Char) : Store :=
  (Builder.read {} (normalizeBreaks source)).store

end HtmlToHaml.Html
