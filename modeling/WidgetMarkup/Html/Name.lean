/-
  Names of elements and attributes.

  * An element name is a tag together with the vocabulary it belongs to: HTML,
    SVG or MathML.
  * The sets of HTML tags that tree construction asks about: scopes, implied end
    tags, special and formatting elements.
  * The spelling of foreign names: tags are read in lower case, but the SVG and
    MathML vocabularies have names in mixed case, and the `xlink`, `xml` and
    `xmlns` attributes lose what stands before the colon.
-/
import WidgetMarkup.Document.Basic

namespace WidgetMarkup.Html

/-- The vocabulary of an element. -/
inductive Vocabulary where
  | html
  | svg
  | mathml
deriving DecidableEq

/-- The name of an element. -/
structure Name where
  vocabulary : Vocabulary := .html
  tag : String
deriving DecidableEq

/-- Whether the name is this HTML tag. -/
def Name.is (name : Name) (tag : String) : Bool :=
  name.vocabulary == .html && name.tag == tag

/-- Whether the name is one of these HTML tags. -/
def Name.isOneOf (name : Name) (tags : List String) : Bool :=
  name.vocabulary == .html && tags.contains name.tag

/-! ## Integration points -/

/-- The MathML elements whose text follows the HTML rules. -/
def Name.isMathText (name : Name) : Bool :=
  name.vocabulary == .mathml && ["mi", "mo", "mn", "ms", "mtext"].contains name.tag

/-- The SVG elements whose content follows the HTML rules. -/
def Name.isSvgHost (name : Name) : Bool :=
  name.vocabulary == .svg && ["foreignObject", "desc", "title"].contains name.tag

/-! ## Scopes -/

/-- The elements that bound the search for an open element. -/
def Name.boundsScope (name : Name) : Bool :=
  name.isOneOf ["applet", "caption", "html", "table", "td", "th", "marquee", "object", "template"] ||
    name.isMathText || name.isSvgHost

/-- The bounds of the search for a list item. -/
def Name.boundsListItemScope (name : Name) : Bool :=
  name.boundsScope || name.isOneOf ["ol", "ul"]

/-- The bounds of the search for a paragraph. -/
def Name.boundsButtonScope (name : Name) : Bool :=
  name.boundsScope || name.is "button"

/-- The bounds of the search for a part of a table. -/
def Name.boundsTableScope (name : Name) : Bool :=
  name.isOneOf ["html", "table", "template"]

/-- The bounds of the search for an open `select`. -/
def Name.boundsSelectScope (name : Name) : Bool :=
  !name.isOneOf ["optgroup", "option"]

/-! ## Sets of tags -/

/-- The elements whose end tag may be left out. -/
def Name.hasImpliedEnd (name : Name) : Bool :=
  name.isOneOf ["dd", "dt", "li", "option", "optgroup", "p", "rb", "rp", "rt", "rtc"]

/-- The elements whose end tag is implied by the end of a template. -/
def Name.hasTemplateImpliedEnd (name : Name) : Bool :=
  name.hasImpliedEnd ||
    name.isOneOf ["caption", "colgroup", "tbody", "td", "tfoot", "th", "thead", "tr"]

/-- The headings. -/
def headingTags : List String :=
  ["h1", "h2", "h3", "h4", "h5", "h6"]

/-- The special elements, which a stray end tag does not close. -/
def specialTags : List String :=
  ["address", "applet", "area", "article", "aside", "base", "basefont", "bgsound", "blockquote",
   "body", "br", "button", "caption", "center", "col", "colgroup", "dd", "details", "dir", "div",
   "dl", "dt", "embed", "fieldset", "figcaption", "figure", "footer", "form", "frame", "frameset",
   "h1", "h2", "h3", "h4", "h5", "h6", "head", "header", "hgroup", "hr", "html", "iframe", "img",
   "input", "isindex", "li", "link", "listing", "main", "marquee", "menu", "meta", "nav",
   "noembed", "noframes", "noscript", "object", "ol", "p", "param", "plaintext", "pre", "script",
   "section", "select", "source", "style", "summary", "table", "tbody", "td", "template",
   "textarea", "tfoot", "th", "thead", "title", "tr", "track", "ul", "wbr", "xmp"]

/-- Whether the element is special. -/
def Name.isSpecial (name : Name) : Bool :=
  name.isOneOf specialTags

/-! ## Foreign names -/

/-- The SVG tags that are not all in lower case. -/
def svgTags : List String :=
  ["altGlyph", "altGlyphDef", "altGlyphItem", "animateColor", "animateMotion", "animateTransform",
   "clipPath", "feBlend", "feColorMatrix", "feComponentTransfer", "feComposite",
   "feConvolveMatrix", "feDiffuseLighting", "feDisplacementMap", "feDistantLight", "feDropShadow",
   "feFlood", "feFuncA", "feFuncB", "feFuncG", "feFuncR", "feGaussianBlur", "feImage", "feMerge",
   "feMergeNode", "feMorphology", "feOffset", "fePointLight", "feSpecularLighting", "feSpotLight",
   "feTile", "feTurbulence", "foreignObject", "glyphRef", "linearGradient", "radialGradient",
   "textPath"]

/-- The SVG attributes that are not all in lower case. -/
def svgAttributes : List String :=
  ["attributeName", "attributeType", "baseFrequency", "baseProfile", "calcMode", "clipPathUnits",
   "diffuseConstant", "edgeMode", "filterUnits", "glyphRef", "gradientTransform", "gradientUnits",
   "kernelMatrix", "kernelUnitLength", "keyPoints", "keySplines", "keyTimes", "lengthAdjust",
   "limitingConeAngle", "markerHeight", "markerUnits", "markerWidth", "maskContentUnits",
   "maskUnits", "numOctaves", "pathLength", "patternContentUnits", "patternTransform",
   "patternUnits", "pointsAtX", "pointsAtY", "pointsAtZ", "preserveAlpha", "preserveAspectRatio",
   "primitiveUnits", "refX", "refY", "repeatCount", "repeatDur", "requiredExtensions",
   "requiredFeatures", "specularConstant", "specularExponent", "spreadMethod", "startOffset",
   "stdDeviation", "stitchTiles", "surfaceScale", "systemLanguage", "tableValues", "targetX",
   "targetY", "textLength", "viewBox", "viewTarget", "xChannelSelector", "yChannelSelector",
   "zoomAndPan"]

/-- The MathML attributes that are not all in lower case. -/
def mathmlAttributes : List String :=
  ["definitionURL"]

/-- The foreign attributes that are known without what stands before their colon. -/
def qualifiedAttributes : List (String × String) :=
  [("xlink:actuate", "actuate"), ("xlink:arcrole", "arcrole"), ("xlink:href", "href"),
   ("xlink:role", "role"), ("xlink:show", "show"), ("xlink:title", "title"),
   ("xlink:type", "type"), ("xml:lang", "lang"), ("xml:space", "space"), ("xmlns:xlink", "xlink")]

/-- The spelling in the list of a name in lower case, or the name itself. -/
def respell (spellings : List String) (name : String) : String :=
  (spellings.find? fun s => s.toLower == name).getD name

/-- The tag of a foreign element. -/
def Vocabulary.respellTag (vocabulary : Vocabulary) (tag : String) : String :=
  match vocabulary with
  | .svg => respell svgTags tag
  | .html | .mathml => tag

/-- The key of an attribute of a foreign element. -/
def Vocabulary.respellKey (vocabulary : Vocabulary) (key : String) : String :=
  let key := match vocabulary with
    | .svg => respell svgAttributes key
    | .mathml => respell mathmlAttributes key
    | .html => key
  (qualifiedAttributes.lookup key).getD key

/-- The attributes of a foreign element. -/
def Vocabulary.respellAttributes (vocabulary : Vocabulary) (attrs : List Attribute) :
    List Attribute :=
  attrs.map fun a => { a with key := vocabulary.respellKey a.key }

end WidgetMarkup.Html
