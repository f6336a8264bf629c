/-
  Rules for foreign content, inside SVG and MathML elements.

  `rules` gives the rules of each mode; `foreignRules` falls back on them where HTML
  ends the foreign content.
-/
import WidgetMarkup.Html.Rules.Rest

namespace WidgetMarkup.Html

/-- The rules of a mode. -/
def rules : Mode → Token → Build Verdict
  | .initial => initialRules
  | .beforeHtml => beforeHtmlRules
  | .beforeHead => beforeHeadRules
  | .inHead => inHeadRules
  | .afterHead => afterHeadRules
  | .inBody => inBodyRules
  | .text => textRules
  | .inTable => inTableRules
  | .inTableText => inTableTextRules
  | .inCaption => inCaptionRules
  | .inColumnGroup => inColumnGroupRules
  | .inTableBody => inTableBodyRules
  | .inRow => inRowRules
  | .inCell => inCellRules
  | .inSelect => inSelectRules
  | .inSelectInTable => inSelectInTableRules
  | .inTemplate => inTemplateRules
  | .afterBody => afterBodyRules
  | .inFrameset => inFramesetRules
  | .afterFrameset => afterFramesetRules
  | .afterAfterBody => afterAfterBodyRules
  | .afterAfterFrameset => afterAfterFramesetRules

/-! ## Foreign content -/

/-- The HTML tags that end foreign content. -/
def breakoutTags : List String :=
  ["b", "big", "blockquote", "body", "br", "center", "code", "dd", "div", "dl", "dt", "em",
   "embed", "h1", "h2", "h3", "h4", "h5", "h6", "head", "hr", "i", "img", "li", "listing", "menu",
   "meta", "nobr", "ol", "p", "pre", "ruby", "s", "small", "span", "strong", "strike", "sub", "sup",
   "table", "tt", "u", "ul", "var"]

/-- Whether a start tag ends foreign content. -/
def Tag.breaksOut (tag : Tag) : Bool :=
  breakoutTags.contains tag.name ||
    (tag.name == "font" && tag.attrs.any fun a => ["color", "face", "size"].contains a.key)

/-- Whether a token inside an element follows the rules for foreign content. -/
def Name.isForeignFor (name : Name) (t : Token) : Bool :=
  if name.vocabulary == .html then false
  else match t with
    | .finish => false
    | .startTag tag =>
      !(name.isMathText && tag.name != "mglyph" && tag.name != "malignmark") &&
        !name.isSvgHost &&
        !(name.vocabulary == .mathml && name.tag == "annotation-xml" && tag.name == "svg")
    | .space _ | .text _ | .nul => !name.isMathText && !name.isSvgHost
    | _ => true

/-- Closes the foreign elements, then follows the rules of the present mode. -/
def breakOut (t : Token) : Build Verdict := do
  popUntil fun name => name.vocabulary == .html || name.isMathText || name.isSvgHost
  rules (← get).mode t

/-- Adds a foreign element. -/
def openForeign (vocabulary : Vocabulary) (tag : Tag) : Build Verdict := do
  let name : Name := ⟨vocabulary, vocabulary.respellTag tag.name⟩
  let attrs := vocabulary.respellAttributes tag.attrs
  if tag.selfClosing then
    let _ ← insertClosed name attrs
  else
    let _ ← insertOpen name attrs
  done

/-- What an end tag inside foreign content does. -/
inductive ForeignEnd where
  /-- It closes elements and leaves these open. -/
  | closes (outer : List Opened)
  /-- It follows the rules of the present mode, as an HTML element is met first. -/
  | leaves
  /-- It has no effect, as nothing but the root is left. -/
  | stray

/-- What an end tag inside foreign content does: it closes the innermost element with
    this tag, unless an HTML element is met before. -/
def foreignEnd (tag : String) : List Opened → ForeignEnd
  | [] | [_] => .stray
  | e :: es =>
    if e.name.vocabulary == .html then .leaves
    else if e.name.tag.toLower == tag then .closes es
    else foreignEnd tag es

/-- An end tag inside foreign content. -/
def foreignEndTag (name : String) : Build Verdict := do
  match foreignEnd name (← get).opened with
  | .closes outer =>
    modifyOpened fun _ => outer
    done
  | .leaves => rules (← get).mode (.endTag name)
  | .stray => done

/-- The rules for foreign content inside an element. -/
def foreignRules (vocabulary : Vocabulary) (t : Token) : Build Verdict :=
  match t with
  | .nul => insertText [replacementChar]
  | .space cs => insertText cs
  | .text cs => do
    forbidFrameset
    insertText cs
  | .comment => insertComment
  | .startTag tag => if tag.breaksOut then breakOut t else openForeign vocabulary tag
  | .endTag name => if name == "br" || name == "p" then breakOut t else foreignEndTag name
  | .finish | .doctype _ | .fault => done

end WidgetMarkup.Html
