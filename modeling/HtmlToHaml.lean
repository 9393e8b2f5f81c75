import HtmlToHaml.Text.Space
import HtmlToHaml.Text.Lines
import HtmlToHaml.Text.Search
import HtmlToHaml.Text.Slices
import HtmlToHaml.Options
import HtmlToHaml.Failure
import HtmlToHaml.DocTree.Walk
import HtmlToHaml.DocTree.Pending
import HtmlToHaml.DocTree.Snapshot
import HtmlToHaml.Entity.Reference
import HtmlToHaml.Entity.Sweep
import HtmlToHaml.Haml.AttributeBlock
import HtmlToHaml.Haml.ScriptLines
import HtmlToHaml.Haml.FilterBlock
import HtmlToHaml.Haml.CommentBlock
import HtmlToHaml.Haml.Prologue
import HtmlToHaml.Haml.Outline
import HtmlToHaml.DocTree.Assembly
import HtmlToHaml.Encoding.Decode
import HtmlToHaml.Encoding.Calls
import HtmlToHaml.Xml.Scan
import HtmlToHaml.Xml.Document
import HtmlToHaml.Xml.Literals
import HtmlToHaml.Html.TagText
import HtmlToHaml.Html.CommentText
import HtmlToHaml.Html.DoctypeText
import HtmlToHaml.Html.RawText
import HtmlToHaml.Html.Lexeme
import HtmlToHaml.Html.Foreign
import HtmlToHaml.Html.OldDoctype
import HtmlToHaml.Html.Document
import HtmlToHaml.Markup
import HtmlToHaml.Opening
import HtmlToHaml.Convert
import HtmlToHaml.Cli.Session
import HtmlToHaml.Main
import HtmlToHaml.Proofs.Text.Case
import HtmlToHaml.Proofs.Text.Lines
import HtmlToHaml.Proofs.Text.Search
import HtmlToHaml.Proofs.Text.Slices
import HtmlToHaml.Proofs.Text.Words
import HtmlToHaml.Proofs.Cli.Atomicity
import HtmlToHaml.Proofs.Cli.Files
import HtmlToHaml.Proofs.Encoding.Calls
import HtmlToHaml.Proofs.Encoding.Characters
import HtmlToHaml.Proofs.Encoding.Reading
import HtmlToHaml.Proofs.Forest.Assembly
import HtmlToHaml.Proofs.Forest.BareAttributes
import HtmlToHaml.Proofs.Forest.Built
import HtmlToHaml.Proofs.Forest.Calls
import HtmlToHaml.Proofs.Forest.Chunks
import HtmlToHaml.Proofs.Forest.Depth
import HtmlToHaml.Proofs.Forest.DocumentOrder
import HtmlToHaml.Proofs.Forest.Edits
import HtmlToHaml.Proofs.Forest.Joining
import HtmlToHaml.Proofs.Forest.Operations
import HtmlToHaml.Proofs.Forest.Order
import HtmlToHaml.Proofs.Forest.Refinement
import HtmlToHaml.Proofs.Forest.Regular
import HtmlToHaml.Proofs.Forest.Shapes
import HtmlToHaml.Proofs.Forest.Walks
import HtmlToHaml.Proofs.Entity.Braces
import HtmlToHaml.Proofs.Entity.Names
import HtmlToHaml.Proofs.Entity.SinglePass
import HtmlToHaml.Proofs.Entity.Unescape
import HtmlToHaml.Proofs.Haml.AlignedLines
import HtmlToHaml.Proofs.Haml.AttributeOrder
import HtmlToHaml.Proofs.Haml.Backslashes
import HtmlToHaml.Proofs.Haml.BlockCount
import HtmlToHaml.Proofs.Haml.BlockReading
import HtmlToHaml.Proofs.Haml.ByteOrder
import HtmlToHaml.Proofs.Haml.Count
import HtmlToHaml.Proofs.Haml.DocumentTypes
import HtmlToHaml.Proofs.Haml.Enclosed
import HtmlToHaml.Proofs.Haml.Escape
import HtmlToHaml.Proofs.Haml.FilterBody
import HtmlToHaml.Proofs.Haml.Framing
import HtmlToHaml.Proofs.Haml.HeaderCount
import HtmlToHaml.Proofs.Haml.HeaderParts
import HtmlToHaml.Proofs.Haml.HeaderReading
import HtmlToHaml.Proofs.Haml.Levels
import HtmlToHaml.Proofs.Haml.LineCounts
import HtmlToHaml.Proofs.Haml.LiteralReading
import HtmlToHaml.Proofs.Haml.LongestRun
import HtmlToHaml.Proofs.Haml.MarkedText
import HtmlToHaml.Proofs.Haml.MarkedValue
import HtmlToHaml.Proofs.Haml.OneLine
import HtmlToHaml.Proofs.Haml.Sealed
import HtmlToHaml.Proofs.Haml.Shift
import HtmlToHaml.Proofs.Haml.TextReading
import HtmlToHaml.Proofs.Outline.Agreement
import HtmlToHaml.Proofs.Outline.Barriers
import HtmlToHaml.Proofs.Outline.CommentLines
import HtmlToHaml.Proofs.Outline.Conservation
import HtmlToHaml.Proofs.Outline.Course
import HtmlToHaml.Proofs.Outline.DepthLimit
import HtmlToHaml.Proofs.Outline.Failures
import HtmlToHaml.Proofs.Outline.FilteredScripts
import HtmlToHaml.Proofs.Outline.Frame
import HtmlToHaml.Proofs.Outline.Grammar
import HtmlToHaml.Proofs.Outline.Headers
import HtmlToHaml.Proofs.Outline.Legality
import HtmlToHaml.Proofs.Outline.Likeness
import HtmlToHaml.Proofs.Outline.Nesting
import HtmlToHaml.Proofs.Outline.Outcome
import HtmlToHaml.Proofs.Outline.Passage
import HtmlToHaml.Proofs.Outline.PreservedText
import HtmlToHaml.Proofs.Outline.Reordering
import HtmlToHaml.Proofs.Outline.ScriptRows
import HtmlToHaml.Proofs.Outline.Scriptless
import HtmlToHaml.Proofs.Outline.Sealing
import HtmlToHaml.Proofs.Outline.Splice
import HtmlToHaml.Proofs.Outline.SpliceRuns
import HtmlToHaml.Proofs.Outline.Visits
import HtmlToHaml.Proofs.Outline.WholeLines
import HtmlToHaml.Proofs.Outline.Writing
import HtmlToHaml.Proofs.Markup.Prolog
import HtmlToHaml.Proofs.Xml.Balance
import HtmlToHaml.Proofs.Xml.Declarations
import HtmlToHaml.Proofs.Xml.Descent
import HtmlToHaml.Proofs.Xml.Prose
import HtmlToHaml.Proofs.Xml.Reading
