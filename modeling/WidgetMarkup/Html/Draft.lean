/-
  A tree under construction.

  Tree construction takes nodes out of the tree and puts them elsewhere, so nodes
  are numbered while the tree grows: a `Draft` maps the number of a node to its
  content, its parent and its children.  Node 0 is the document.

  * Text that is added next to a text joins it; a node that is moved does not.
  * `toTrees` gives the finished document.
-/
import WidgetMarkup.Html.Tree

namespace WidgetMarkup.Html

/-- The number of a node. -/
abbrev NodeId := Nat

/-- What a node of a draft is. -/
inductive Content where
  | document
  | element (name : Name) (attrs : List Attribute)
  | text (content : String)
  | comment
  | doctype
  | fragment

/-- Whether the content is that of a text. -/
def Content.isText : Content → Bool
  | .text _ => true
  | _ => false

/-- A node of a draft. -/
structure Slot where
  content : Content
  parent : Option NodeId := none
  children : Array NodeId := #[]

/-- A tree under construction. -/
structure Draft where
  slots : Array Slot := #[{ content := .document }]

namespace Draft

/-- The document. -/
def root : NodeId := 0

/-- The parent of a node. -/
def parent? (d : Draft) (id : NodeId) : Option NodeId :=
  d.slots[id]?.bind (·.parent)

/-- The children of a node. -/
def children (d : Draft) (id : NodeId) : Array NodeId :=
  match d.slots[id]? with
  | some slot => slot.children
  | none => #[]

/-- Changes a node. -/
def modify (d : Draft) (id : NodeId) (f : Slot → Slot) : Draft :=
  ⟨d.slots.modify id f⟩

/-- Adds a node that stands nowhere yet. -/
def create (d : Draft) (content : Content) : NodeId × Draft :=
  (d.slots.size, ⟨d.slots.push { content }⟩)

/-- Takes a node out of its parent. -/
def detach (d : Draft) (id : NodeId) : Draft :=
  match d.parent? id with
  | none => d
  | some parent =>
    (d.modify parent fun slot => { slot with children := slot.children.filter (· != id) }).modify id
      fun slot => { slot with parent := none }

/-- Makes a node the last child of another. -/
def append (d : Draft) (parent id : NodeId) : Draft :=
  ((d.detach id).modify parent fun slot => { slot with children := slot.children.push id }).modify id
    fun slot => { slot with parent := some parent }

/-- Puts a node before a sibling. -/
def insertBefore (d : Draft) (sibling id : NodeId) : Draft :=
  let d := d.detach id
  match d.parent? sibling with
  | none => d
  | some parent =>
    let place := fun (ids : Array NodeId) =>
      ids.flatMap fun child => if child == sibling then #[id, sibling] else #[child]
    (d.modify parent fun slot => { slot with children := place slot.children }).modify id
      fun slot => { slot with parent := some parent }

/-- Whether a node is a text. -/
def isText (d : Draft) (id : NodeId) : Bool :=
  match d.slots[id]? with
  | some slot => slot.content.isText
  | none => false

/-- Adds to the end of a text. -/
def extendText (d : Draft) (id : NodeId) (s : String) : Draft :=
  d.modify id fun slot => match slot.content with
    | .text old => { slot with content := .text (old ++ s) }
    | _ => slot

/-- Adds text at the end of a node. -/
def appendText (d : Draft) (parent : NodeId) (s : String) : Draft :=
  match (d.children parent).back?.filter d.isText with
  | some last => d.extendText last s
  | none => let (id, d) := d.create (.text s); d.append parent id

/-- The sibling before a node. -/
def previous? (d : Draft) (id : NodeId) : Option NodeId :=
  match d.parent? id with
  | none => none
  | some parent => ((d.children parent).toList.takeWhile (· != id)).getLast?

/-- Adds text before a sibling. -/
def insertTextBefore (d : Draft) (sibling : NodeId) (s : String) : Draft :=
  match (d.previous? sibling).filter d.isText with
  | some previous => d.extendText previous s
  | none => let (id, d) := d.create (.text s); d.insertBefore sibling id

/-- Moves the children of a node behind those of another. -/
def moveChildren (d : Draft) (source target : NodeId) : Draft :=
  (d.children source).foldl (fun d id => d.append target id) d

/-- Gives an element the attributes it lacks. -/
def addAttributes (d : Draft) (id : NodeId) (attrs : List Attribute) : Draft :=
  d.modify id fun slot => match slot.content with
    | .element name own =>
      let missing := attrs.filter fun a => !own.any (·.key == a.key)
      { slot with content := .element name (own ++ missing) }
    | _ => slot

/-! ## The finished document -/

/-- The trees of nodes, down to `depth` levels. -/
def treesOf (d : Draft) : Nat → List NodeId → List Tree
  | 0, _ => []
  | depth + 1, ids => ids.filterMap fun id =>
    match d.slots[id]? with
    | none => none
    | some slot =>
      let below := treesOf d depth slot.children.toList
      match slot.content with
      | .document => none
      | .element name attrs => some (.element name attrs below)
      | .text content => some (.text content)
      | .comment => some .comment
      | .doctype => some .doctype
      | .fragment => some (.fragment below)

/-- The document.  No path is longer than the number of nodes. -/
def toTrees (d : Draft) : List Tree :=
  d.treesOf d.slots.size (d.children root).toList

end Draft

end WidgetMarkup.Html
