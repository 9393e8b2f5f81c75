/-!
# Conversion options

The settings of one conversion and the setters that combine them. The two named attribute styles
exclude each other, and the parenthesised style wins over the keyword style whatever the order in
which they are asked for.
-/

namespace HtmlToHaml

/-- How the explicit attributes of an element are written. -/
inductive AttributeStyle where
  /-- A hash with symbol keys and arrows. -/
  | symbol
  /-- Parentheses with equal signs. -/
  | html
  /-- A hash with keyword keys. -/
  | ruby19
  deriving DecidableEq, Repr

/-- The settings of one conversion. -/
structure Options where
  /-- Whether script markers become lines of script. -/
  erb : Bool := false
  /-- Whether the source is read as XHTML. -/
  xhtml : Bool := false
  /-- How explicit attributes are written. -/
  style : AttributeStyle := .symbol
  /-- The deepest level below the root that is still rendered. -/
  maxDepth : Nat := 512
  deriving DecidableEq, Repr

namespace Options

/-- Script markers on or off. -/
def withErb (options : Options) (on : Bool) : Options :=
  { options with erb := on }

/-- Reading as XHTML on or off. -/
def withXhtml (options : Options) (on : Bool) : Options :=
  { options with xhtml := on }

/-- A given attribute style. -/
def withStyle (options : Options) (style : AttributeStyle) : Options :=
  { options with style }

/-- A given depth limit. -/
def withMaxDepth (options : Options) (limit : Nat) : Options :=
  { options with maxDepth := limit }

/-- Parenthesised attributes on, or off where they are on. -/
def withHtmlStyle (options : Options) (on : Bool) : Options :=
  if on then { options with style := .html }
  else if options.style = .html then { options with style := .symbol }
  else options

/-- Keyword attributes on unless parenthesised ones are, or off where they are on. -/
def withRuby19Style (options : Options) (on : Bool) : Options :=
  if on then
    if options.style = .html then options else { options with style := .ruby19 }
  else if options.style = .ruby19 then { options with style := .symbol }
  else options

end Options

end HtmlToHaml
