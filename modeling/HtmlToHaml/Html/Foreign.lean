import HtmlToHaml.Html.Token
import HtmlToHaml.Html.Vocabulary

/-!
# Names in graphics and formulas

HTML reads names in lower case, but the languages embedded in it have names in mixed case. The
names that differ are restored, and prefixes of linked languages are left out of attribute names.
-/

namespace HtmlToHaml.Html

open DocTree

/-- The names of graphics elements in mixed case, by their lower case. -/
def svgElementNames : List (String × String) :=
  ["altGlyph", "altGlyphDef", "altGlyphItem", "animateColor", "animateMotion", "animateTransform",
    "clipPath", "feBlend", "feColorMatrix", "feComponentTransfer", "feComposite",
    "feConvolveMatrix", "feDiffuseLighting", "feDisplacementMap", "feDistantLight",
    "feDropShadow", "feFlood", "feFuncA", "feFuncB", "feFuncG", "feFuncR", "feGaussianBlur",
    "feImage", "feMerge", "feMergeNode", "feMorphology", "feOffset", "fePointLight",
    "feSpecularLighting", "feSpotLight", "feTile", "feTurbulence", "foreignObject", "glyphRef",
    "linearGradient", "radialGradient", "textPath"].map fun name => (name.toLower, name)

/-- The names of graphics attributes in mixed case, by their lower case. -/
def svgAttributeNames : List (String × String) :=
  ["attributeName", "attributeType", "baseFrequency", "baseProfile", "calcMode", "clipPathUnits",
    "diffuseConstant", "edgeMode", "filterUnits", "glyphRef", "gradientTransform",
    "gradientUnits", "kernelMatrix", "kernelUnitLength", "keyPoints", "keySplines", "keyTimes",
    "lengthAdjust", "limitingConeAngle", "markerHeight", "markerUnits", "markerWidth",
    "maskContentUnits", "maskUnits", "numOctaves", "pathLength", "patternContentUnits",
    "patternTransform", "patternUnits", "pointsAtX", "pointsAtY", "pointsAtZ", "preserveAlpha",
    "preserveAspectRatio", "primitiveUnits", "refX", "refY", "repeatCount", "repeatDur",
    "requiredExtensions", "requiredFeatures", "specularConstant", "specularExponent",
    "spreadMethod", "startOffset", "stdDeviation", "stitchTiles", "surfaceScale",
    "systemLanguage", "tableValues", "targetX", "targetY", "textLength", "viewBox", "viewTarget",
    "xChannelSelector", "yChannelSelector", "zoomAndPan"].map fun name => (name.toLower, name)

/-- The names of formula attributes in mixed case, by their lower case. -/
def mathmlAttributeNames : List (String × String) :=
  [("definitionurl", "definitionURL")]

/-- Attribute names with a prefix, and the name without it. -/
def linkedAttributeNames : List (String × String) :=
  [("xlink:actuate", "actuate"), ("xlink:arcrole", "arcrole"), ("xlink:href", "href"),
    ("xlink:role", "role"), ("xlink:show", "show"), ("xlink:title", "title"),
    ("xlink:type", "type"), ("xml:base", "base"), ("xml:lang", "lang"), ("xml:space", "space"),
    ("xmlns:xlink", "xlink")]

/-- A name as a list gives it, or unchanged. -/
def restored (names : List (String × String)) (name : String) : String :=
  (names.lookup name).getD name

/-- The attributes with names as a list gives them. -/
def restoreAttributes (names : List (String × String)) (attributes : List Attribute) :
    List Attribute :=
  attributes.map fun a => { a with name := restored names a.name }

/-- The attributes of an element in a language. -/
def foreignAttributes (language : Language) (attributes : List Attribute) : List Attribute :=
  restoreAttributes linkedAttributeNames
    (match language with
    | .svg => restoreAttributes svgAttributeNames attributes
    | .mathml => restoreAttributes mathmlAttributeNames attributes
    | .html => attributes)

/-- The name of an element inside an element of a language. -/
def foreignName (language : Language) (name : String) : String :=
  match language with
  | .svg => restored svgElementNames name
  | _ => name

/-- Start tags that end a graphic or a formula. -/
def breakoutNames : NameSet :=
  ["b", "big", "blockquote", "body", "br", "center", "code", "dd", "div", "dl", "dt", "em",
    "embed", "h1", "h2", "h3", "h4", "h5", "h6", "head", "hr", "i", "img", "li", "listing", "menu",
    "meta", "nobr", "ol", "p", "pre", "ruby", "s", "small", "span", "strike", "strong", "sub",
    "sup", "table", "tt", "u", "ul", "var"]

/-- Whether a start tag ends a graphic or a formula; one for a font does so only with an attribute
for its look. -/
def breaksOut (tag : Tag) : Bool :=
  breakoutNames.contains tag.name ||
    (tag.name == "font" &&
      tag.attributes.any fun a => ["color", "face", "size"].contains a.name)

end HtmlToHaml.Html
