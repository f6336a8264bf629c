/-
  Rules for the start of a document: before `html`, before and inside `head`, and
  between `head` and `body`.
-/
import WidgetMarkup.Html.Formatting

namespace WidgetMarkup.Html

/-! ## The root element -/

/-- Creates the root element. -/
def createRoot (attrs : List Attribute) : Build Unit := do
  let id ← createElement ⟨.html, "html"⟩ attrs
  push ⟨id, ⟨.html, "html"⟩⟩
  modifyDraft (·.append Draft.root id)

/-- A further `html` tag gives the root the attributes it lacks. -/
def mergeRoot (tag : Tag) : Build Verdict := do
  if !(← isOpen "template") then
    if let some root ← rootElement? then modifyDraft (·.addAttributes root.id tag.attrs)
  done

/-! ## Templates -/

/-- Whether a template declares a shadow root. -/
def Tag.isShadowRoot (tag : Tag) : Bool :=
  tag.attrs.any fun a => a.key == "shadowrootmode" && ["open", "close"].contains a.value

/-- Opens a template.  A shadow root inside the root element leaves no template behind:
    what it holds goes into the element around it. -/
def openTemplate (tag : Tag) : Build Verdict := do
  if !tag.isShadowRoot || (← get).opened.length ≤ 1 then
    let _ ← openTag tag
  addMarker
  forbidFrameset
  modify fun b => { b with mode := .inTemplate, templateModes := .inTemplate :: b.templateModes }
  done

/-- Leaves the innermost template, whose elements are closed. -/
def leaveTemplate : Build Unit := do
  clearToMarker
  modify fun b => { b with templateModes := b.templateModes.drop 1 }
  resetMode

/-- Closes the innermost open template. -/
def closeTemplate : Build Verdict := do
  if ← isOpen "template" then
    closeImplied Name.hasTemplateImpliedEnd
    popThroughTag "template"
    leaveTemplate
  done

/-- The end of the input closes open templates one after the other. -/
def finishTemplate : Build Verdict := do
  if ← isOpen "template" then
    popThroughTag "template"
    leaveTemplate
    again (← get).mode
  else done

/-! ## The rules -/

/-- The tags that belong into the head wherever they stand. -/
def headTags : List String :=
  ["base", "basefont", "bgsound", "link", "meta", "noframes", "script", "style", "template", "title"]

/-- Before the doctype. -/
def initialRules : Token → Build Verdict
  | .space _ => done
  | .comment => appendComment Draft.root
  | _ => do
    modify fun b => { b with oldRules := true }
    again .beforeHtml

/-- Before the `html` tag. -/
def beforeHtmlRules : Token → Build Verdict
  | .space _ => done
  | .comment => appendComment Draft.root
  | .startTag tag =>
    if tag.name == "html" then do
      createRoot tag.attrs
      setMode .beforeHead
      done
    else do
      createRoot []
      again .beforeHead
  | .endTag name =>
    if ["head", "body", "html", "br"].contains name then do
      createRoot []
      again .beforeHead
    else done
  | _ => do
    createRoot []
    again .beforeHead

/-- Adds the head element. -/
def openHead (tag : Tag) : Build Unit := do
  let id ← openTag tag
  modify fun b => { b with head := some id }

/-- Before the `head` tag. -/
def beforeHeadRules : Token → Build Verdict
  | .space _ => done
  | .comment => insertComment
  | .startTag tag =>
    if tag.name == "html" then mergeRoot tag
    else if tag.name == "head" then do
      openHead tag
      setMode .inHead
      done
    else do
      openHead { name := "head" }
      again .inHead
  | .endTag name =>
    if ["head", "body", "html", "br"].contains name then do
      openHead { name := "head" }
      again .inHead
    else done
  | _ => do
    openHead { name := "head" }
    again .inHead

/-- Leaves the head for a token that does not belong into it. -/
def leaveHead : Build Verdict := do
  pop
  again .afterHead

/-- Inside the head. -/
def inHeadRules : Token → Build Verdict
  | .space cs => insertText cs
  | .comment => insertComment
  | .startTag tag =>
    if tag.name == "html" then mergeRoot tag
    else if ["base", "basefont", "bgsound", "link", "meta"].contains tag.name then do
      let _ ← addVoid tag
      done
    else if tag.name == "title" then openRcdata tag
    else if ["noframes", "style", "noscript"].contains tag.name then openRawtext tag
    else if tag.name == "script" then do
      let _ ← openTag tag
      readText .script
    else if tag.name == "template" then openTemplate tag
    else if tag.name == "head" then done
    else leaveHead
  | .endTag name =>
    if name == "head" then do
      pop
      setMode .afterHead
      done
    else if name == "template" then closeTemplate
    else if ["body", "html", "br"].contains name then leaveHead
    else done
  | _ => leaveHead

/-- Opens the body for a token that does not belong before it. -/
def impliedBody : Build Verdict := do
  let _ ← openImplied "body"
  again .inBody

/-- Between the head and the body. -/
def afterHeadRules : Token → Build Verdict
  | .space cs => insertText cs
  | .comment => insertComment
  | .startTag tag => do
    if tag.name == "html" then mergeRoot tag
    else if tag.name == "body" then
      let _ ← openTag tag
      forbidFrameset
      setMode .inBody
      done
    else if tag.name == "frameset" then
      let _ ← openTag tag
      setMode .inFrameset
      done
    else if headTags.contains tag.name then
      match (← get).head with
      | none => inHeadRules (.startTag tag)
      | some head =>
        push ⟨head, ⟨.html, "head"⟩⟩
        let verdict ← inHeadRules (.startTag tag)
        removeOpened head
        pure verdict
    else if tag.name == "head" then done
    else impliedBody
  | .endTag name =>
    if name == "template" then closeTemplate
    else if ["body", "html", "br"].contains name then impliedBody
    else done
  | _ => impliedBody

end WidgetMarkup.Html
