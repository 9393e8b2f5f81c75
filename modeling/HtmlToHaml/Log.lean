import HtmlToHaml.Failure
import HtmlToHaml.Haml.FilterBlock
import HtmlToHaml.Options
import HtmlToHaml.Text.Quoted

/-!
# Log

What happens during a conversion is told as a list of events. An event has a level, belongs to
reading or to rendering, and has its own wording.
-/

namespace HtmlToHaml.Log

/-- How much an event matters, the most important level first. -/
inductive Level where
  /-- Something in the source was left out or read in a second way. -/
  | warn
  /-- Progress. -/
  | info
  /-- What was chosen for the whole source. -/
  | debug
  /-- What was chosen for a node. -/
  | trace
  deriving DecidableEq, Repr

/-- The name of a level. -/
def Level.name : Level → String
  | .warn => "WARN"
  | .info => "INFO"
  | .debug => "DEBUG"
  | .trace => "TRACE"

/-- The place of a level, from the most important one on. -/
def Level.rank : Level → Nat
  | .warn => 0
  | .info => 1
  | .debug => 2
  | .trace => 3

/-- The part of a conversion that an event belongs to. -/
inductive Stage where
  /-- Reading a source. -/
  | parse
  /-- Writing a tree. -/
  | render
  deriving DecidableEq, Repr

/-- The name of a stage in a log. -/
def Stage.target : Stage → String
  | .parse => "hamlize::parse"
  | .render => "hamlize::render"

/-- Something that happened during a conversion. -/
inductive Event where
  /-- A source is read as XHTML. -/
  | readingXhtml
  /-- A source is read as HTML because it is no XHTML. -/
  | fallingBack (cause : Failure)
  /-- A source is read as a whole HTML document. -/
  | readingDocument
  /-- A source is read as a piece of an HTML document. -/
  | readingFragment
  /-- An end tag has no element to close. -/
  | strayEndTag (name : String)
  /-- A tree with a number of nodes is written. -/
  | rendering (nodes : Nat) (erb : Bool) (style : AttributeStyle)
  /-- An element is written as a filter. -/
  | filtered (name : String) (filter : Haml.Filter)
  /-- An element loses the white space around it. -/
  | nuked (node : Nat)
  /-- An element is put in front of a token. -/
  | succeeded (node : Nat) (token : List Char)
  /-- A printed script is empty. -/
  | emptyScript
  deriving DecidableEq, Repr

namespace Event

/-- How much the event matters. -/
def level : Event → Level
  | .fallingBack _ | .emptyScript => .warn
  | .filtered _ _ | .nuked _ | .succeeded _ _ => .trace
  | _ => .debug

/-- The stage the event belongs to. -/
def stage : Event → Stage
  | .readingXhtml | .fallingBack _ | .readingDocument | .readingFragment | .strayEndTag _ => .parse
  | _ => .render

/-- The name of an attribute style in a log. -/
def styleName : AttributeStyle → String
  | .symbol => "Symbol"
  | .html => "Html"
  | .ruby19 => "Ruby19"

/-- The event in words. -/
def message : Event → String
  | .readingXhtml => "parsing as XHTML"
  | .fallingBack cause => "XHTML parse failed (" ++ cause.message ++ "), falling back to HTML"
  | .readingDocument => "parsing as HTML document"
  | .readingFragment => "parsing as HTML fragment"
  | .strayEndTag name => "ignoring stray end tag </" ++ name ++ ">"
  | .rendering nodes erb style =>
    "rendering " ++ toString nodes ++ " nodes (erb: " ++ (if erb then "true" else "false") ++
      ", style: " ++ styleName style ++ ")"
  | .filtered name filter => "<" ++ name ++ "> rendered as :" ++ filter.name
  | .nuked node => "nuking outer whitespace of node " ++ toString node
  | .succeeded node token =>
    "wrapping node " ++ toString node ++ " in succeed " ++ String.ofList (Text.quoted token)
  | .emptyScript => "skipping loud marker with no script"

/-- The event as a line of a log. -/
def line (event : Event) : String :=
  "[" ++ event.level.name ++ "] " ++ event.stage.target ++ ": " ++ event.message

end Event

end HtmlToHaml.Log
