/-
  Rules for the body, which most other rules fall back on.
-/
import WidgetMarkup.Html.Rules.Head

namespace WidgetMarkup.Html

/-! ## Sets of tags -/

/-- The blocks that close an open paragraph. -/
def blockTags : List String :=
  ["address", "article", "aside", "blockquote", "center", "details", "dialog", "dir", "div", "dl",
   "fieldset", "figcaption", "figure", "footer", "header", "hgroup", "main", "menu", "nav", "ol",
   "p", "search", "section", "summary", "ul"]

/-- The blocks that are closed with all that is open inside them. -/
def closableTags : List String :=
  ["address", "article", "aside", "blockquote", "button", "center", "details", "dialog", "dir",
   "div", "dl", "fieldset", "figcaption", "figure", "footer", "header", "hgroup", "listing",
   "main", "menu", "nav", "ol", "pre", "search", "section", "summary", "ul"]

/-- The formatting elements other than `a` and `nobr`. -/
def formattingTags : List String :=
  ["b", "big", "code", "em", "font", "i", "s", "small", "strike", "strong", "tt", "u"]

/-- The elements that formatting does not cross. -/
def markedTags : List String :=
  ["applet", "marquee", "object"]

/-- The tags that have no meaning in the body. -/
def misplacedTags : List String :=
  ["caption", "col", "colgroup", "frame", "head", "tbody", "td", "tfoot", "th", "thead", "tr"]

/-- Whether the tag is for a hidden input. -/
def Tag.isHidden (tag : Tag) : Bool :=
  match tag.attrs.find? (·.key == "type") with
  | some a => a.value.toLower == "hidden"
  | none => false

/-! ## Start tags -/

/-- Opens an element after closing an open paragraph. -/
def openBlock (tag : Tag) : Build Verdict := do
  closeOpenParagraph
  let _ ← openTag tag
  done

/-- Opens an element inside the formatting at hand. -/
def openInline (tag : Tag) : Build Verdict := do
  reopenFormatting
  let _ ← openTag tag
  done

/-- The tag of the innermost of the open elements that a new list item closes, if no
    special element other than `address`, `div` and `p` is met before. -/
def itemToClose? (tags : List String) : List Opened → Option String
  | [] => none
  | e :: es =>
    if e.name.isOneOf tags then some e.name.tag
    else if e.name.isSpecial && !e.name.isOneOf ["address", "div", "p"] then none
    else itemToClose? tags es

/-- Opens a list item after closing the one before it. -/
def openItem (siblings : List String) (tag : Tag) : Build Verdict := do
  forbidFrameset
  if let some name := itemToClose? siblings (← get).opened then
    closeImpliedExcept name
    popThroughTag name
  openBlock tag

/-- Opens a link after closing an open one. -/
def openLink (tag : Tag) : Build Verdict := do
  let b ← get
  if let some (id, _) := (entriesToMarker b.formatting).find? (·.2.name == "a") then
    closeFormatting "a"
    removeFormatting id
    removeOpened id
  reopenFormatting
  openFormatting tag
  done

/-- Opens a `nobr` after closing an open one. -/
def openNobr (tag : Tag) : Build Verdict := do
  reopenFormatting
  if ← inScope Name.boundsScope "nobr" then
    closeFormatting "nobr"
    reopenFormatting
  openFormatting tag
  done

/-- Opens a button after closing an open one. -/
def openButton (tag : Tag) : Build Verdict := do
  if ← inScope Name.boundsScope "button" then
    closeImplied Name.hasImpliedEnd
    popThroughTag "button"
  reopenFormatting
  let _ ← openTag tag
  forbidFrameset
  done

/-- Opens a form, unless one is open. -/
def openForm (tag : Tag) : Build Verdict := do
  let inTemplate ← isOpen "template"
  if (← get).form.isSome && !inTemplate then done
  else
    closeOpenParagraph
    let id ← openTag tag
    if !inTemplate then modify fun b => { b with form := some id }
    done

/-- Opens a `select`, whose content has rules of its own. -/
def openSelect (tag : Tag) : Build Verdict := do
  reopenFormatting
  let _ ← openTag tag
  forbidFrameset
  let inTable := [Mode.inTable, .inCaption, .inTableBody, .inRow, .inCell].contains (← get).mode
  setMode (if inTable then .inSelectInTable else .inSelect)
  done

/-- Adds an element without content inside the formatting at hand. -/
def addInlineVoid (tag : Tag) : Build Verdict := do
  reopenFormatting
  let _ ← addVoid tag
  if tag.name != "input" || !tag.isHidden then forbidFrameset
  done

/-- Adds the outermost element of another vocabulary. -/
def enterForeign (vocabulary : Vocabulary) (tag : Tag) : Build Verdict := do
  let attrs := vocabulary.respellAttributes tag.attrs
  if tag.selfClosing then
    let _ ← insertClosed ⟨vocabulary, tag.name⟩ attrs
  else
    let _ ← insertOpen ⟨vocabulary, tag.name⟩ attrs
  done

/-- A further `body` tag gives the body the attributes it lacks. -/
def mergeBody (tag : Tag) : Build Verdict := do
  if let some body ← bodyElement? then
    if !(← isOpen "template") then
      forbidFrameset
      modifyDraft (·.addAttributes body.id tag.attrs)
  done

/-- A frameset replaces a body in which nothing has been shown. -/
def replaceBody (tag : Tag) : Build Verdict := do
  if (← get).framesetAllowed then
    if let some body ← bodyElement? then
      modifyDraft (·.detach body.id)
      modifyOpened fun es => es.drop (es.length - 1)
      let _ ← openTag tag
      setMode .inFrameset
  done

/-- A start tag inside the body. -/
def bodyStartTag (tag : Tag) : Build Verdict := do
  let name := tag.name
  if name == "html" then mergeRoot tag
  else if headTags.contains name then inHeadRules (.startTag tag)
  else if name == "body" then mergeBody tag
  else if name == "frameset" then replaceBody tag
  else if blockTags.contains name then openBlock tag
  else if headingTags.contains name then
    closeOpenParagraph
    if ← currentSatisfies (·.isOneOf headingTags) then pop
    let _ ← openTag tag
    done
  else if name == "pre" || name == "listing" then
    let verdict ← openBlock tag
    forbidFrameset
    modify fun b => { b with skipLineFeed := true }
    pure verdict
  else if name == "form" then openForm tag
  else if name == "li" then openItem ["li"] tag
  else if name == "dd" || name == "dt" then openItem ["dd", "dt"] tag
  else if name == "plaintext" then
    let verdict ← openBlock tag
    modify fun b => { b with reading := .plaintext }
    pure verdict
  else if name == "button" then openButton tag
  else if name == "a" then openLink tag
  else if formattingTags.contains name then
    reopenFormatting
    openFormatting tag
    done
  else if name == "nobr" then openNobr tag
  else if markedTags.contains name then
    let verdict ← openInline tag
    addMarker
    forbidFrameset
    pure verdict
  else if name == "table" then
    if !(← get).oldRules then closeOpenParagraph
    let _ ← openTag tag
    forbidFrameset
    setMode .inTable
    done
  else if ["area", "br", "embed", "img", "keygen", "wbr", "input"].contains name then
    addInlineVoid tag
  else if ["param", "source", "track"].contains name then
    let _ ← addVoid tag
    done
  else if name == "hr" then
    closeOpenParagraph
    let _ ← addVoid tag
    forbidFrameset
    done
  else if name == "image" then addInlineVoid { tag with name := "img" }
  else if name == "textarea" then
    modify fun b => { b with skipLineFeed := true }
    forbidFrameset
    openRcdata tag
  else if name == "xmp" then
    closeOpenParagraph
    reopenFormatting
    forbidFrameset
    openRawtext tag
  else if name == "iframe" then
    forbidFrameset
    openRawtext tag
  else if name == "noembed" || name == "noscript" then openRawtext tag
  else if name == "select" then openSelect tag
  else if name == "optgroup" || name == "option" then
    if ← currentIs "option" then pop
    openInline tag
  else if name == "rb" || name == "rtc" then
    if ← inScope Name.boundsScope "ruby" then closeImplied Name.hasImpliedEnd
    let _ ← openTag tag
    done
  else if name == "rp" || name == "rt" then
    if ← inScope Name.boundsScope "ruby" then closeImpliedExcept "rtc"
    let _ ← openTag tag
    done
  else if name == "math" then enterForeign .mathml tag
  else if name == "svg" then enterForeign .svg tag
  else if misplacedTags.contains name then done
  else openInline tag

/-! ## End tags -/

/-- Closes a block that is open in a scope. -/
def closeBlock (name : String) : Build Verdict := do
  if ← inScope Name.boundsScope name then
    closeImplied Name.hasImpliedEnd
    popThroughTag name
  done

/-- Closes the open form. -/
def closeForm : Build Verdict := do
  if ← isOpen "template" then closeBlock "form"
  else
    match (← get).form with
    | none => done
    | some id =>
      modify fun b => { b with form := none }
      if ← inScopeWith Name.boundsScope (·.id == id) then
        closeImplied Name.hasImpliedEnd
        removeOpened id
      done

/-- Closes a list item that is open in a scope. -/
def closeItem (bounds : Name → Bool) (name : String) : Build Verdict := do
  if ← inScope bounds name then
    closeImpliedExcept name
    popThroughTag name
  done

/-- An end tag inside the body. -/
def bodyEndTag (name : String) : Build Verdict := do
  if name == "template" then closeTemplate
  else if name == "body" then
    if ← inScope Name.boundsScope "body" then setMode .afterBody
    done
  else if name == "html" then
    if ← inScope Name.boundsScope "body" then again .afterBody else done
  else if closableTags.contains name then closeBlock name
  else if name == "form" then closeForm
  else if name == "p" then
    if !(← inScope Name.boundsButtonScope "p") then
      let _ ← openImplied "p"
    closeParagraph
    done
  else if name == "li" then closeItem Name.boundsListItemScope name
  else if name == "dd" || name == "dt" then closeItem Name.boundsScope name
  else if headingTags.contains name then
    if ← inScopeWith Name.boundsScope (·.name.isOneOf headingTags) then
      closeImplied Name.hasImpliedEnd
      popThrough (·.isOneOf headingTags)
    done
  else if name == "a" || name == "nobr" || formattingTags.contains name then
    closeFormatting name
    done
  else if markedTags.contains name then
    if ← inScope Name.boundsScope name then
      closeImplied Name.hasImpliedEnd
      popThroughTag name
      clearToMarker
    done
  else if name == "br" then addInlineVoid { name := "br" }
  else
    closeOrdinary name
    done

/-! ## The rules -/

/-- Inside the body. -/
def inBodyRules : Token → Build Verdict
  | .space cs => do
    reopenFormatting
    insertText cs
  | .text cs => do
    reopenFormatting
    forbidFrameset
    insertText cs
  | .comment => insertComment
  | .startTag tag => bodyStartTag tag
  | .endTag name => bodyEndTag name
  | .finish => do
    if (← get).templateModes.isEmpty then done else finishTemplate
  | .nul | .doctype _ | .fault => done

end WidgetMarkup.Html
