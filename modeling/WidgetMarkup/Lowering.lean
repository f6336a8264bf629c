/-
  From the body of a document to Yuck definitions.

  * `findBody` looks for the body of a document.
  * `lower` turns a node inside a window or widget into items: texts become
    values, elements become forms, and other nodes vanish.
  * `definitions` turns the windows and widgets directly inside the body into
    definitions.  Whatever is skipped on the way is reported.
-/
import WidgetMarkup.Diagnostic
import WidgetMarkup.Document.Basic
import WidgetMarkup.Yuck.Definition

namespace WidgetMarkup

open Yuck

/-! ## The body -/

/-- The first `body` inside the first `html` of a document. -/
def findBody (document : Document) : Except StructureError Element :=
  match firstTagged? "html" document with
  | none => .error .missingRoot
  | some html =>
    match html.child? "body" with
    | none => .error .missingBody
    | some body => .ok body

/-! ## Nodes inside a definition -/

/-- The properties of a form: the attributes with a value, in source order. -/
def formProperties (attrs : List Attribute) : List Property :=
  (attrs.filter fun a => !a.value.isEmpty).map fun a => .valued a.key (.infer a.value)

mutual
/-- The items of a node at a depth below its window or widget. -/
def lower (depth : Nat) : Node → Reporting (List Item)
  | .text content => pure [.value (.infer content)]
  | .element tag attrs children =>
    if maxDepth ≤ depth then do
      warn (.droppedElement tag)
      pure []
    else if tag.isEmpty then do
      warn .missingTag
      lowerAll (depth + 1) children
    else do
      let items ← lowerAll (depth + 1) children
      pure [.form tag (formProperties attrs) items]
  | .other => pure []

/-- The items of nodes one after the other. -/
def lowerAll (depth : Nat) : List Node → Reporting (List Item)
  | [] => pure []
  | node :: nodes => do
    let items ← lower depth node
    let more ← lowerAll depth nodes
    pure (items ++ more)
end

/-! ## Windows and widgets -/

/-- The name of a definition: its first `name` attribute, or nothing. -/
def definitionName (e : Element) : String :=
  (e.attr? "name").getD ""

/-- The attributes of a definition other than its name. -/
def ownAttributes (e : Element) : List Attribute :=
  e.attrs.filter (·.key != "name")

/-- A property of a window: a flag if the attribute is empty, else a string. -/
def windowProperty (a : Attribute) : Property :=
  if a.value.isEmpty then .flag a.key else .valued a.key (.quoted a.value)

/-- Whether a node is a `geometry` element. -/
def Node.isGeometry : Node → Bool
  | .element tag _ _ => tag == "geometry"
  | .text _ | .other => false

/-- The items of a window's children.  Geometry blocks are left out, and each one
    but the first of the window is reported. -/
def windowItems (name : String) (seen : Bool) : List Node → Reporting (List Item)
  | [] => pure []
  | node :: nodes =>
    if node.isGeometry then do
      if seen then warn (.extraGeometry name)
      windowItems name true nodes
    else do
      let items ← lower 0 node
      let more ← windowItems name seen nodes
      pure (items ++ more)

/-- The definition of a window element. -/
def windowOf (e : Element) : Reporting Window := do
  let name := definitionName e
  if name.isEmpty then warn .unnamedWindow
  let geometry := (e.child? "geometry").map fun g =>
    g.attrs.map fun a => Property.valued a.key (.quoted a.value)
  let children ← windowItems name false e.children
  pure { name, props := (ownAttributes e).map windowProperty, geometry, children }

/-- The definition of a widget element. -/
def widgetOf (e : Element) : Reporting Widget := do
  let name := definitionName e
  if name.isEmpty then warn .unnamedWidget
  let body ← lowerAll 0 e.children
  pure { name, fields := (ownAttributes e).map (·.key), body }

/-! ## Definitions -/

/-- The definition of a node directly inside the body, if it is a window or widget. -/
def definitionOf : Node → Reporting (Option Definition)
  | .text content => do
    warn (.strayText content)
    pure none
  | .other => do
    warn .strayOther
    pure none
  | .element tag attrs children =>
    if tag == "window" then do
      let w ← windowOf ⟨tag, attrs, children⟩
      pure (some (.window w))
    else if tag == "widget" then do
      let w ← widgetOf ⟨tag, attrs, children⟩
      pure (some (.widget w))
    else do
      warn (.unhandledTag tag)
      pure none

/-- The definitions of nodes directly inside the body, in order. -/
def definitionsOf : List Node → Reporting (List Definition)
  | [] => pure []
  | node :: nodes => do
    let d ← definitionOf node
    let ds ← definitionsOf nodes
    pure (d.toList ++ ds)

/-- The definitions of a body element. -/
def definitions (body : Element) : Reporting (List Definition) :=
  definitionsOf body.children

end WidgetMarkup
