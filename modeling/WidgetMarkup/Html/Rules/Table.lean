/-
  Rules for tables: what does not belong into a table goes before it.
-/
import WidgetMarkup.Html.Rules.Body

namespace WidgetMarkup.Html

/-- Treats a token as inside the body, but puts what it adds before the table. -/
def fosterInBody (t : Token) : Build Verdict := do
  modify fun b => { b with fostering := true }
  let verdict ← inBodyRules t
  modify fun b => { b with fostering := false }
  pure verdict

/-! ## Tables -/

/-- Collects the text that follows, or puts it before the table. -/
def tableChars (t : Token) : Build Verdict := do
  if ← currentSatisfies (·.isOneOf ["table", "tbody", "tfoot", "thead", "tr"]) then
    modify fun b => { b with returnMode := b.mode }
    again .inTableText
  else fosterInBody t

/-- A start tag directly inside a table. -/
def tableStartTag (tag : Tag) : Build Verdict := do
  let name := tag.name
  if name == "caption" then
    popUntil Name.boundsTableScope
    addMarker
    let _ ← openTag tag
    setMode .inCaption
    done
  else if name == "colgroup" then
    popUntil Name.boundsTableScope
    let _ ← openTag tag
    setMode .inColumnGroup
    done
  else if name == "col" then
    popUntil Name.boundsTableScope
    let _ ← openImplied "colgroup"
    again .inColumnGroup
  else if ["tbody", "tfoot", "thead"].contains name then
    popUntil Name.boundsTableScope
    let _ ← openTag tag
    setMode .inTableBody
    done
  else if ["td", "th", "tr"].contains name then
    popUntil Name.boundsTableScope
    let _ ← openImplied "tbody"
    again .inTableBody
  else if name == "table" then
    if ← inScope Name.boundsTableScope "table" then
      popThroughTag "table"
      again (← currentMode)
    else done
  else if ["style", "script", "template"].contains name then inHeadRules (.startTag tag)
  else if name == "input" && tag.isHidden then
    let _ ← addVoid tag
    done
  else if name == "form" then
    if !(← isOpen "template") && (← get).form.isNone then
      let id ← addVoid tag
      modify fun b => { b with form := some id }
    done
  else fosterInBody (.startTag tag)

/-- Directly inside a table. -/
def inTableRules : Token → Build Verdict
  | .space cs => tableChars (.space cs)
  | .text cs => tableChars (.text cs)
  | .nul => tableChars .nul
  | .comment => insertComment
  | .startTag tag => tableStartTag tag
  | .endTag name => do
    if name == "table" then
      if ← inScope Name.boundsTableScope "table" then
        popThroughTag "table"
        resetMode
      done
    else if ["body", "caption", "col", "colgroup", "html", "tbody", "td", "tfoot", "th", "thead",
        "tr"].contains name then done
    else if name == "template" then closeTemplate
    else fosterInBody (.endTag name)
  | .finish => inBodyRules .finish
  | t => fosterInBody t

/-- The token of a run of characters. -/
def runToken (cs : List Char) : Token :=
  if cs.all isSpace then .space cs else .text cs

/-- Puts the runs of text before the table, in order. -/
def fosterRuns : List (List Char) → Build Unit
  | [] => pure ()
  | cs :: rest => do
    let _ ← fosterInBody (runToken cs)
    fosterRuns rest

/-- Adds the runs of text inside the table, in order. -/
def insertRuns : List (List Char) → Build Unit
  | [] => pure ()
  | cs :: rest => do
    let _ ← insertText cs
    insertRuns rest

/-- Inside a text in a table.  White space stays in the table; any other text goes before
    it with all that was collected. -/
def inTableTextRules : Token → Build Verdict
  | .nul => done
  | .space cs | .text cs => do
    modify fun b => { b with tableText := cs :: b.tableText }
    done
  | _ => do
    let b ← get
    let runs := b.tableText.reverse
    modify fun b => { b with tableText := [] }
    if runs.all (·.all isSpace) then insertRuns runs else fosterRuns runs
    again b.returnMode

/-- Inside a caption. -/
def inCaptionRules (t : Token) : Build Verdict := do
  let closeCaption (verdict : Build Verdict) : Build Verdict := do
    if ← inScope Name.boundsTableScope "caption" then
      closeImplied Name.hasImpliedEnd
      popThroughTag "caption"
      clearToMarker
      verdict
    else done
  match t with
  | .startTag tag =>
    if ["caption", "col", "colgroup", "tbody", "td", "tfoot", "th", "thead", "tr"].contains
        tag.name then
      closeCaption (again .inTable)
    else inBodyRules t
  | .endTag name =>
    if name == "caption" then
      closeCaption do
        setMode .inTable
        done
    else if name == "table" then closeCaption (again .inTable)
    else if ["body", "col", "colgroup", "html", "tbody", "td", "tfoot", "th", "thead",
        "tr"].contains name then done
    else inBodyRules t
  | _ => inBodyRules t

/-- Leaves a column group for a token that does not belong into it. -/
def leaveColumnGroup : Build Verdict := do
  if ← currentIs "colgroup" then
    pop
    again .inTable
  else done

/-- Inside a column group. -/
def inColumnGroupRules : Token → Build Verdict
  | .space cs => insertText cs
  | .comment => insertComment
  | .startTag tag =>
    if tag.name == "html" then mergeRoot tag
    else if tag.name == "col" then do
      let _ ← addVoid tag
      done
    else if tag.name == "template" then openTemplate tag
    else leaveColumnGroup
  | .endTag name => do
    if name == "colgroup" then
      if ← currentIs "colgroup" then
        pop
        setMode .inTable
      done
    else if name == "col" then done
    else if name == "template" then closeTemplate
    else leaveColumnGroup
  | .finish => inBodyRules .finish
  | _ => leaveColumnGroup

/-- The elements that hold the rows of a table, or bound the search for them. -/
def Name.holdsRows (name : Name) : Bool :=
  name.isOneOf ["tbody", "tfoot", "thead", "template", "html"]

/-- The elements that hold the cells of a table, or bound the search for them. -/
def Name.holdsCells (name : Name) : Bool :=
  name.isOneOf ["tr", "template", "html"]

/-- Closes the body of a table for a token that does not belong into it. -/
def leaveTableBody : Build Verdict := do
  if ← inScopeWith Name.boundsTableScope (·.name.isOneOf ["table", "tbody", "tfoot"]) then
    popUntil Name.holdsRows
    pop
    again .inTable
  else done

/-- Inside the body of a table. -/
def inTableBodyRules (t : Token) : Build Verdict := do
  match t with
  | .startTag tag =>
    if tag.name == "tr" then
      popUntil Name.holdsRows
      let _ ← openTag tag
      setMode .inRow
      done
    else if tag.name == "th" || tag.name == "td" then
      popUntil Name.holdsRows
      let _ ← openImplied "tr"
      again .inRow
    else if ["caption", "col", "colgroup", "tbody", "tfoot", "thead"].contains tag.name then
      leaveTableBody
    else inTableRules t
  | .endTag name =>
    if ["tbody", "tfoot", "thead"].contains name then
      if ← inScope Name.boundsTableScope name then
        popUntil Name.holdsRows
        pop
        setMode .inTable
      done
    else if name == "table" then leaveTableBody
    else if ["body", "caption", "col", "colgroup", "html", "td", "th", "tr"].contains name then done
    else inTableRules t
  | _ => inTableRules t

/-- Closes the open row, if there is one. -/
def closeRow (verdict : Build Verdict) : Build Verdict := do
  if ← inScope Name.boundsTableScope "tr" then
    popUntil Name.holdsCells
    pop
    verdict
  else done

/-- Inside a row. -/
def inRowRules (t : Token) : Build Verdict := do
  match t with
  | .startTag tag =>
    if tag.name == "th" || tag.name == "td" then
      popUntil Name.holdsCells
      let _ ← openTag tag
      setMode .inCell
      addMarker
      done
    else if ["caption", "col", "colgroup", "tbody", "tfoot", "thead", "tr"].contains tag.name then
      closeRow (again .inTableBody)
    else inTableRules t
  | .endTag name =>
    if name == "tr" then
      closeRow do
        setMode .inTableBody
        done
    else if name == "table" then closeRow (again .inTableBody)
    else if ["tbody", "tfoot", "thead"].contains name then
      if ← inScope Name.boundsTableScope name then closeRow (again .inTableBody) else done
    else if ["body", "caption", "col", "colgroup", "html", "td", "th"].contains name then done
    else inTableRules t
  | _ => inTableRules t

/-- Closes the open cell. -/
def closeCell : Build Verdict := do
  closeImplied Name.hasImpliedEnd
  popThrough (·.isOneOf ["td", "th"])
  clearToMarker
  again .inRow

/-- Inside a cell. -/
def inCellRules (t : Token) : Build Verdict := do
  match t with
  | .startTag tag =>
    if ["caption", "col", "colgroup", "tbody", "td", "tfoot", "th", "thead", "tr"].contains
        tag.name then
      if ← inScopeWith Name.boundsTableScope (·.name.isOneOf ["td", "th"]) then closeCell else done
    else inBodyRules t
  | .endTag name =>
    if name == "td" || name == "th" then
      if ← inScope Name.boundsTableScope name then
        closeImplied Name.hasImpliedEnd
        popThroughTag name
        clearToMarker
        setMode .inRow
      done
    else if ["body", "caption", "col", "colgroup", "html"].contains name then done
    else if ["table", "tbody", "tfoot", "thead", "tr"].contains name then
      if ← inScope Name.boundsTableScope name then closeCell else done
    else inBodyRules t
  | _ => inBodyRules t

end WidgetMarkup.Html
