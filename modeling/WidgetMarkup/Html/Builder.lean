/-
  The state of tree construction and its elementary steps.

  * The open elements are those whose end has not been seen, the innermost first.
  * The formatting entries are the formatting elements that are to be opened again
    if they were closed implicitly, the latest first; a marker closes off the
    entries before it.
  * `place` says where the next node goes: at the end of the current element, or,
    for what does not belong into a table, before that table.
-/
import WidgetMarkup.Html.Draft
import WidgetMarkup.Html.Lexer

namespace WidgetMarkup.Html

/-- The rules that the next token follows. -/
inductive Mode where
  | initial
  | beforeHtml
  | beforeHead
  | inHead
  | afterHead
  | inBody
  | text
  | inTable
  | inTableText
  | inCaption
  | inColumnGroup
  | inTableBody
  | inRow
  | inCell
  | inSelect
  | inSelectInTable
  | inTemplate
  | afterBody
  | inFrameset
  | afterFrameset
  | afterAfterBody
  | afterAfterFrameset
deriving DecidableEq

/-- An open element. -/
structure Opened where
  id : NodeId
  name : Name

/-- An entry of the formatting elements. -/
inductive Formatting where
  | marker
  | element (id : NodeId) (tag : Tag)

/-- The state of tree construction. -/
structure Builder where
  draft : Draft := {}
  mode : Mode := .initial
  /-- The mode to return to after raw text or table text. -/
  returnMode : Mode := .initial
  /-- The modes of the open templates, the innermost first. -/
  templateModes : List Mode := []
  /-- The open elements, the innermost first. -/
  opened : List Opened := []
  /-- The formatting entries, the latest first. -/
  formatting : List Formatting := []
  head : Option NodeId := none
  form : Option NodeId := none
  /-- Whether a frameset may still replace the body. -/
  framesetAllowed : Bool := true
  /-- Whether a line feed at the start of the next token is dropped. -/
  skipLineFeed : Bool := false
  /-- Whether nodes that would go into a table go before it. -/
  fostering : Bool := false
  /-- Whether the doctype asks for the rules of old documents. -/
  oldRules : Bool := false
  /-- The text runs collected inside a table, the latest first. -/
  tableText : List (List Char) := []
  /-- How the text behind the current token is to be read. -/
  reading : Reading := .data
  /-- Whether the current token ends a script. -/
  afterScript : Bool := false
  /-- The number of line ends met between an equals sign and the value behind it. -/
  valueGaps : Nat := 0

/-- A step of tree construction. -/
abbrev Build := StateM Builder

/-- What became of a token. -/
inductive Verdict where
  | done
  /-- The token follows the rules of another mode. -/
  | again (mode : Mode)

/-- The token is dealt with. -/
def done : Build Verdict :=
  pure .done

/-- The token follows the rules of another mode. -/
def again (mode : Mode) : Build Verdict :=
  pure (.again mode)

/-- Changes the mode. -/
def setMode (mode : Mode) : Build Unit :=
  modify fun b => { b with mode }

/-- From now on no frameset may replace the body. -/
def forbidFrameset : Build Unit :=
  modify fun b => { b with framesetAllowed := false }

/-! ## Open elements -/

/-- Changes the open elements. -/
def modifyOpened (f : List Opened → List Opened) : Build Unit :=
  modify fun b => { b with opened := f b.opened }

/-- Whether the current element satisfies a condition. -/
def currentSatisfies (p : Name → Bool) : Build Bool := do
  match (← get).opened with
  | [] => pure false
  | e :: _ => pure (p e.name)

/-- Whether the current element is this HTML element. -/
def currentIs (tag : String) : Build Bool :=
  currentSatisfies (·.is tag)

/-- Closes the current element. -/
def pop : Build Unit :=
  modifyOpened (·.drop 1)

/-- Opens an element again. -/
def push (e : Opened) : Build Unit :=
  modifyOpened (e :: ·)

/-- Closes elements up to and including the innermost that satisfies a condition. -/
def popThrough (p : Name → Bool) : Build Unit :=
  modifyOpened fun es => (es.dropWhile fun e => !p e.name).drop 1

/-- Closes elements up to and including the innermost with this tag. -/
def popThroughTag (tag : String) : Build Unit :=
  popThrough (·.is tag)

/-- Closes elements until the current one satisfies a condition. -/
def popUntil (p : Name → Bool) : Build Unit :=
  modifyOpened (·.dropWhile fun e => !p e.name)

/-- Takes an element out of the open ones, once if it is open twice. -/
def removeOpened (id : NodeId) : Build Unit :=
  modifyOpened (·.eraseP (·.id == id))

/-- Closes the elements at the top whose end is implied. -/
def closeImplied (implied : Name → Bool) : Build Unit :=
  modifyOpened (·.dropWhile fun e => implied e.name)

/-- Closes the elements at the top whose end is implied, but none with this tag. -/
def closeImpliedExcept (tag : String) : Build Unit :=
  closeImplied fun name => name.hasImpliedEnd && !name.is tag

/-- Whether an element is found before the search meets a bound.  The bound itself is
    searched too. -/
def findsBefore (bounds : Name → Bool) (p : Opened → Bool) : List Opened → Bool
  | [] => false
  | e :: es => p e || (!bounds e.name && findsBefore bounds p es)

/-- Whether some open element in a scope satisfies a condition. -/
def inScopeWith (bounds : Name → Bool) (p : Opened → Bool) : Build Bool := do
  pure (findsBefore bounds p (← get).opened)

/-- Whether this HTML element is open in a scope. -/
def inScope (bounds : Name → Bool) (tag : String) : Build Bool :=
  inScopeWith bounds (·.name.is tag)

/-- Whether this HTML element is open. -/
def isOpen (tag : String) : Build Bool := do
  pure ((← get).opened.any (·.name.is tag))

/-- The outermost element. -/
def rootElement? : Build (Option Opened) := do
  pure (← get).opened.getLast?

/-- The open body, if the second element is one. -/
def bodyElement? : Build (Option Opened) := do
  match (← get).opened.reverse with
  | _ :: e :: _ => pure (if e.name.is "body" then some e else none)
  | _ => pure none

/-! ## Insertion -/

/-- Adds a node that stands nowhere yet. -/
def create (content : Content) : Build NodeId :=
  modifyGet fun b =>
    let (id, draft) := b.draft.create content
    (id, { b with draft })

/-- Changes the draft. -/
def modifyDraft (f : Draft → Draft) : Build Unit :=
  modify fun b => { b with draft := f b.draft }

/-- Creates an element.  A template starts with a fragment for its contents. -/
def createElement (name : Name) (attrs : List Attribute) : Build NodeId := do
  let id ← create (.element name attrs)
  if name.is "template" then
    let contents ← create .fragment
    modifyDraft (·.append id contents)
  pure id

/-- Where a node goes. -/
inductive Place where
  | lastIn (parent : NodeId)
  | before (sibling : NodeId)

/-- The end of an element; for a template, the end of its contents. -/
def endOf (d : Draft) (e : Opened) : Place :=
  if e.name.is "template" then .lastIn ((d.children e.id)[0]?.getD e.id) else .lastIn e.id

/-- The place before the innermost table, or inside a template that is nearer.  A table
    that stands nowhere gives the end of the element around it. -/
def fosterPlace (d : Draft) : List Opened → Place
  | [] => .lastIn Draft.root
  | [e] => .lastIn e.id
  | e :: around :: es =>
    if e.name.is "template" then endOf d e
    else if e.name.is "table" then
      if (d.parent? e.id).isSome then .before e.id else .lastIn around.id
    else fosterPlace d (around :: es)

/-- The place for the next node, seen from a target element. -/
def placeFrom (b : Builder) (target : Opened) : Place :=
  if b.fostering && target.name.isOneOf ["table", "tbody", "tfoot", "thead", "tr"] then
    fosterPlace b.draft b.opened
  else endOf b.draft target

/-- The place for the next node. -/
def place : Build Place := do
  let b ← get
  match b.opened with
  | [] => pure (.lastIn Draft.root)
  | e :: _ => pure (placeFrom b e)

/-- Puts a node at a place. -/
def insertAt (place : Place) (id : NodeId) : Build Unit :=
  match place with
  | .lastIn parent => modifyDraft (·.append parent id)
  | .before sibling => modifyDraft (·.insertBefore sibling id)

/-- Adds text at the place for the next node. -/
def insertText (cs : List Char) : Build Verdict := do
  match ← place with
  | .lastIn parent => modifyDraft (·.appendText parent (String.ofList cs))
  | .before sibling => modifyDraft (·.insertTextBefore sibling (String.ofList cs))
  done

/-- Adds a comment at the place for the next node. -/
def insertComment : Build Verdict := do
  let target ← place
  let id ← create .comment
  insertAt target id
  done

/-- Adds a comment at the end of a node. -/
def appendComment (parent : NodeId) : Build Verdict := do
  let id ← create .comment
  modifyDraft (·.append parent id)
  done

/-- Adds an element that is not left open. -/
def insertClosed (name : Name) (attrs : List Attribute) : Build NodeId := do
  let target ← place
  let id ← createElement name attrs
  insertAt target id
  pure id

/-- Adds an element and leaves it open. -/
def insertOpen (name : Name) (attrs : List Attribute) : Build NodeId := do
  let id ← insertClosed name attrs
  push ⟨id, name⟩
  pure id

/-- Adds the HTML element of a tag and leaves it open. -/
def openTag (tag : Tag) : Build NodeId :=
  insertOpen ⟨.html, tag.name⟩ tag.attrs

/-- Adds the HTML element of a tag that has no content. -/
def addVoid (tag : Tag) : Build NodeId :=
  insertClosed ⟨.html, tag.name⟩ tag.attrs

/-- Adds an HTML element that has no tag in the text and leaves it open. -/
def openImplied (tag : String) : Build NodeId :=
  insertOpen ⟨.html, tag⟩ []

/-! ## Raw text -/

/-- Returns to the present mode after a text that is read in a special way. -/
def readText (reading : Reading) : Build Verdict := do
  modify fun b => { b with returnMode := b.mode, mode := .text, reading }
  done

/-- Adds an element whose content is text with references. -/
def openRcdata (tag : Tag) : Build Verdict := do
  let _ ← openTag tag
  readText (.rcdata tag.name)

/-- Adds an element whose content is text as it stands. -/
def openRawtext (tag : Tag) : Build Verdict := do
  let _ ← openTag tag
  readText (.rawtext tag.name)

/-! ## Paragraphs -/

/-- Closes the open paragraph. -/
def closeParagraph : Build Unit := do
  closeImpliedExcept "p"
  popThroughTag "p"

/-- Closes a paragraph that is open in button scope. -/
def closeOpenParagraph : Build Unit := do
  if ← inScope Name.boundsButtonScope "p" then closeParagraph

/-! ## The mode of the open elements -/

/-- The mode for a `select` inside the given elements. -/
def selectMode (around : List Opened) : Mode :=
  match around.find? fun e => e.name.isOneOf ["template", "table"] with
  | some e => if e.name.is "table" then .inSelectInTable else .inSelect
  | none => .inSelect

/-- The mode that the innermost telling element asks for. -/
def modeOf (b : Builder) : List Opened → Mode
  | [] => .inBody
  | e :: around =>
    if e.name.is "select" then selectMode around
    else if e.name.isOneOf ["td", "th"] && !around.isEmpty then .inCell
    else if e.name.is "tr" then .inRow
    else if e.name.isOneOf ["tbody", "thead", "tfoot"] then .inTableBody
    else if e.name.is "caption" then .inCaption
    else if e.name.is "colgroup" then .inColumnGroup
    else if e.name.is "table" then .inTable
    else if e.name.is "template" then b.templateModes.head?.getD .inBody
    else if e.name.is "head" && !around.isEmpty then .inHead
    else if e.name.is "body" then .inBody
    else if e.name.is "frameset" then .inFrameset
    else if e.name.is "html" then if b.head.isNone then .beforeHead else .afterHead
    else modeOf b around

/-- The mode that the open elements ask for. -/
def currentMode : Build Mode := do
  let b ← get
  pure (modeOf b b.opened)

/-- Sets the mode that the open elements ask for. -/
def resetMode : Build Unit := do
  setMode (← currentMode)

end WidgetMarkup.Html
