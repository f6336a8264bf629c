/-
  Rules for raw text, `select`, templates, framesets and what follows the body.
-/
import WidgetMarkup.Html.Rules.Table

namespace WidgetMarkup.Html

/-- Inside an element whose content is raw text. -/
def textRules : Token → Build Verdict
  | .space cs | .text cs => insertText cs
  | .endTag name => do
    pop
    modify fun b => { b with mode := b.returnMode, afterScript := name == "script" }
    done
  | .finish => do
    pop
    again (← get).returnMode
  | _ => done

/-! ## Select -/

/-- Closes the open `select`, if there is one. -/
def closeSelect (verdict : Build Verdict) : Build Verdict := do
  if ← inScope Name.boundsSelectScope "select" then
    popThroughTag "select"
    verdict
  else done

/-- Inside a `select`. -/
def inSelectRules : Token → Build Verdict
  | .space cs | .text cs => insertText cs
  | .comment => insertComment
  | .startTag tag => do
    if tag.name == "html" then mergeRoot tag
    else if tag.name == "option" then
      if ← currentIs "option" then pop
      let _ ← openTag tag
      done
    else if tag.name == "optgroup" then
      if ← currentIs "option" then pop
      if ← currentIs "optgroup" then pop
      let _ ← openTag tag
      done
    else if tag.name == "hr" then
      if ← currentIs "option" then pop
      if ← currentIs "optgroup" then pop
      let _ ← addVoid tag
      done
    else if tag.name == "select" then
      closeSelect do
        resetMode
        done
    else if ["input", "keygen", "textarea"].contains tag.name then
      closeSelect do again (← currentMode)
    else if tag.name == "script" || tag.name == "template" then inHeadRules (.startTag tag)
    else done
  | .endTag name => do
    if name == "optgroup" then
      match (← get).opened with
      | inner :: outer :: _ =>
        if inner.name.is "option" && outer.name.is "optgroup" then pop
      | _ => pure ()
      if ← currentIs "optgroup" then pop
      done
    else if name == "option" then
      if ← currentIs "option" then pop
      done
    else if name == "select" then
      closeSelect do
        resetMode
        done
    else if name == "template" then closeTemplate
    else done
  | .finish => inBodyRules .finish
  | .nul | .doctype _ | .fault => done

/-- The tags of the parts of a table. -/
def tablePartTags : List String :=
  ["caption", "table", "tbody", "tfoot", "thead", "tr", "td", "th"]

/-- Inside a `select` in a table. -/
def inSelectInTableRules (t : Token) : Build Verdict := do
  match t with
  | .startTag tag =>
    if tablePartTags.contains tag.name then
      popThroughTag "select"
      again (← currentMode)
    else inSelectRules t
  | .endTag name =>
    if tablePartTags.contains name then
      if ← inScope Name.boundsTableScope name then
        popThroughTag "select"
        again (← currentMode)
      else done
    else inSelectRules t
  | _ => inSelectRules t

/-! ## Templates -/

/-- Goes on in the template with the rules of a mode. -/
def switchTemplate (mode : Mode) : Build Verdict := do
  modify fun b => { b with templateModes := mode :: b.templateModes.drop 1 }
  again mode

/-- Directly inside a template. -/
def inTemplateRules (t : Token) : Build Verdict :=
  match t with
  | .space _ | .text _ | .comment => inBodyRules t
  | .startTag tag =>
    if headTags.contains tag.name then inHeadRules t
    else if ["caption", "colgroup", "tbody", "tfoot", "thead"].contains tag.name then
      switchTemplate .inTable
    else if tag.name == "col" then switchTemplate .inColumnGroup
    else if tag.name == "tr" then switchTemplate .inTableBody
    else if tag.name == "td" || tag.name == "th" then switchTemplate .inRow
    else switchTemplate .inBody
  | .endTag name => if name == "template" then closeTemplate else done
  | .finish => finishTemplate
  | .nul | .doctype _ | .fault => done

/-! ## After the body -/

/-- Behind the body. -/
def afterBodyRules (t : Token) : Build Verdict := do
  match t with
  | .space _ => inBodyRules t
  | .comment =>
    match ← rootElement? with
    | some root => appendComment root.id
    | none => done
  | .startTag tag => if tag.name == "html" then mergeRoot tag else again .inBody
  | .endTag name =>
    if name == "html" then
      setMode .afterAfterBody
      done
    else again .inBody
  | .finish => done
  | _ => again .inBody

/-- Behind the end of the document. -/
def afterAfterBodyRules (t : Token) : Build Verdict :=
  match t with
  | .space _ => inBodyRules t
  | .comment => appendComment Draft.root
  | .startTag tag => if tag.name == "html" then mergeRoot tag else again .inBody
  | .finish => done
  | _ => again .inBody

/-! ## Framesets -/

/-- Inside a frameset. -/
def inFramesetRules (t : Token) : Build Verdict := do
  match t with
  | .space cs => insertText cs
  | .comment => insertComment
  | .startTag tag =>
    if tag.name == "html" then mergeRoot tag
    else if tag.name == "frameset" then
      let _ ← openTag tag
      done
    else if tag.name == "frame" then
      let _ ← addVoid tag
      done
    else if tag.name == "noframes" then inHeadRules t
    else done
  | .endTag name =>
    if name == "frameset" && 1 < (← get).opened.length then
      pop
      if !(← currentIs "frameset") then setMode .afterFrameset
    done
  | _ => done

/-- Behind a frameset. -/
def afterFramesetRules (t : Token) : Build Verdict := do
  match t with
  | .space cs => insertText cs
  | .comment => insertComment
  | .startTag tag =>
    if tag.name == "html" then mergeRoot tag
    else if tag.name == "noframes" then inHeadRules t
    else done
  | .endTag name =>
    if name == "html" then setMode .afterAfterFrameset
    done
  | _ => done

/-- Behind the end of a document with a frameset. -/
def afterAfterFramesetRules (t : Token) : Build Verdict :=
  match t with
  | .space _ => inBodyRules t
  | .comment => appendComment Draft.root
  | .startTag tag =>
    if tag.name == "html" then mergeRoot tag
    else if tag.name == "noframes" then inHeadRules t
    else done
  | _ => done

end WidgetMarkup.Html
