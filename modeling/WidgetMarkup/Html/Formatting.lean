/-
  Formatting elements.

  Formatting elements such as `b` may be closed out of order.  Those that were
  closed implicitly are opened again before the next text (`reopenFormatting`), and
  an end tag that crosses a block rebuilds the elements between them
  (`closeFormatting`), so that the block ends up around a copy of the formatting
  element.
-/
import WidgetMarkup.Html.Builder

namespace WidgetMarkup.Html

/-! ## The entries -/

/-- Changes the formatting entries. -/
def modifyFormatting (f : List Formatting → List Formatting) : Build Unit :=
  modify fun b => { b with formatting := f b.formatting }

/-- Adds a marker. -/
def addMarker : Build Unit :=
  modifyFormatting (.marker :: ·)

/-- Whether an entry is a marker. -/
def Formatting.isMarker : Formatting → Bool
  | .marker => true
  | .element _ _ => false

/-- Whether an entry is for this node. -/
def Formatting.isFor (id : NodeId) : Formatting → Bool
  | .marker => false
  | .element id' _ => id' == id

/-- Drops the entries up to and including the latest marker. -/
def clearToMarker : Build Unit :=
  modifyFormatting fun entries => (entries.dropWhile (!·.isMarker)).drop 1

/-- Drops the entry of a node. -/
def removeFormatting (id : NodeId) : Build Unit :=
  modifyFormatting (·.filter (!·.isFor id))

/-- The nodes and tags of the entries since the latest marker, the latest first. -/
def entriesToMarker (entries : List Formatting) : List (NodeId × Tag) :=
  (entries.takeWhile (!·.isMarker)).filterMap fun
    | .marker => none
    | .element id tag => some (id, tag)

/-- The tag of a node's entry. -/
def formattingTag? (id : NodeId) (entries : List Formatting) : Option Tag :=
  entries.findSome? fun
    | .marker => none
    | .element id' tag => if id' == id then some tag else none

/-- Whether two tags have the same name and the same attributes in some order. -/
def Tag.sameAs (a b : Tag) : Bool :=
  a.name == b.name && a.attrs.length == b.attrs.length && a.attrs.all (b.attrs.contains ·)

/-- Adds a formatting element and its entry.  Of the same elements since the latest
    marker at most three have an entry; the earliest gives way. -/
def openFormatting (tag : Tag) : Build Unit := do
  let same := (entriesToMarker (← get).formatting).filter (tag.sameAs ·.2)
  if 3 ≤ same.length then
    if let some (id, _) := same.getLast? then removeFormatting id
  let id ← openTag tag
  modifyFormatting (.element id tag :: ·)

/-! ## Opening again -/

/-- Whether an entry is for an element that is no longer open. -/
def Formatting.isClosed (opened : List Opened) : Formatting → Bool
  | .marker => false
  | .element id _ => !opened.any (·.id == id)

/-- Opens the elements of entries again, the earliest first, and gives their new entries
    before the given ones, the latest first. -/
def reopenEntries (entries : List (NodeId × Tag)) (kept : List Formatting) :
    Build (List Formatting) :=
  match entries with
  | [] => pure kept
  | (_, tag) :: rest => do
    let id ← openTag tag
    reopenEntries rest (.element id tag :: kept)

/-- Opens again the formatting elements that were closed implicitly: those after the
    latest entry that is a marker or still open. -/
def reopenFormatting : Build Unit := do
  let b ← get
  let closed := b.formatting.takeWhile (·.isClosed b.opened)
  if !closed.isEmpty then
    let kept := b.formatting.dropWhile (·.isClosed b.opened)
    let entries ← reopenEntries (entriesToMarker closed).reverse kept
    modifyFormatting fun _ => entries

/-! ## Closing -/

/-- Closes an element that has no rule of its own: elements up to it are closed, unless a
    special element stands in between. -/
def closeOrdinary (tag : String) : Build Unit := do
  let es := (← get).opened
  if findsBefore Name.isSpecial (·.name.is tag) es then
    closeImpliedExcept tag
    popThroughTag tag

/-- Where the entry of a rebuilt formatting element goes. -/
inductive Bookmark where
  /-- In the place of the old one. -/
  | replaceOld
  /-- Right after the entry of a node. -/
  | after (id : NodeId)

/-- Puts a new entry right after that of a node. -/
def insertEntryAfter (id : NodeId) (entry : Formatting) (entries : List Formatting) :
    List Formatting :=
  entries.flatMap fun e => if e.isFor id then [entry, e] else [e]

/-- Puts a new entry in the place of that of a node. -/
def replaceEntry (id : NodeId) (entry : Formatting) (entries : List Formatting) :
    List Formatting :=
  entries.map fun e => if e.isFor id then entry else e

/-- Rebuilds the elements between a block and the formatting element around it, from the
    inside out: the first three with an entry are copied, each around what was rebuilt
    before it, and the others are no longer open.  Gives the outermost node that was
    rebuilt and the place of the new entry. -/
def rebuildBetween (last : NodeId) (bookmark : Bookmark) (count : Nat) :
    List Opened → Build (NodeId × Bookmark)
  | [] => pure (last, bookmark)
  | e :: es => do
    let entries := (← get).formatting
    match if count < 3 then formattingTag? e.id entries else none with
    | none =>
      if 3 ≤ count then removeFormatting e.id
      removeOpened e.id
      rebuildBetween last bookmark (count + 1) es
    | some tag =>
      let id ← createElement ⟨.html, tag.name⟩ tag.attrs
      modifyOpened (·.map fun o => if o.id == e.id then ⟨id, ⟨.html, tag.name⟩⟩ else o)
      modifyFormatting (replaceEntry e.id (.element id tag))
      modifyDraft (·.append id last)
      let bookmark := match bookmark with
        | .replaceOld => .after id
        | kept => kept
      rebuildBetween id bookmark (count + 1) es

/-- Closes the formatting element `id`, which stands around the block `block`. -/
def closeAround (id : NodeId) (tag : Tag) (ancestor : Opened) (block : Opened)
    (between : List Opened) : Build Unit := do
  let (last, bookmark) ← rebuildBetween block.id .replaceOld 0 between
  modifyDraft (·.detach last)
  insertAt (placeFrom (← get) ancestor) last
  let copy ← createElement ⟨.html, tag.name⟩ tag.attrs
  modifyDraft fun d => (d.moveChildren block.id copy).append block.id copy
  match bookmark with
  | .replaceOld => modifyFormatting (replaceEntry id (.element copy tag))
  | .after previous =>
    modifyFormatting (insertEntryAfter previous (.element copy tag))
    removeFormatting id
  removeOpened id
  modifyOpened (·.flatMap fun o => if o.id == block.id then [⟨copy, ⟨.html, tag.name⟩⟩, o] else [o])

/-- One round of closing a formatting element; tells whether another one may follow. -/
def closeFormattingOnce (name : String) : Build Bool := do
  let b ← get
  match (entriesToMarker b.formatting).find? (·.2.name == name) with
  | none =>
    closeOrdinary name
    pure false
  | some (id, tag) =>
    match b.opened.dropWhile (·.id != id) with
    | [] =>
      removeFormatting id
      pure false
    | _ :: outer =>
      if !findsBefore Name.boundsScope (·.id == id) b.opened then pure false
      else
        let inner := (b.opened.takeWhile (·.id != id)).reverse
        match inner.dropWhile (!·.name.isSpecial), outer with
        | block :: _, ancestor :: _ =>
          closeAround id tag ancestor block (inner.takeWhile (!·.name.isSpecial)).reverse
          pure true
        | _, _ =>
          modifyOpened fun _ => outer
          removeFormatting id
          pure false

/-- Repeats rounds of closing, at most `n` of them. -/
def closeFormattingRounds (name : String) : Nat → Build Unit
  | 0 => pure ()
  | n + 1 => do
    if ← closeFormattingOnce name then closeFormattingRounds name n

/-- Closes a formatting element. -/
def closeFormatting (name : String) : Build Unit := do
  let b ← get
  match b.opened with
  | e :: rest =>
    if e.name.is name && !b.formatting.any (·.isFor e.id) then
      modifyOpened fun _ => rest
    else closeFormattingRounds name 8
  | [] => pure ()

end WidgetMarkup.Html
