/-
  Writing Yuck source text.

  A `Writer` holds the text written so far and the nesting level of the line that
  is being written.  Every `write` function adds to the end of the text; a form
  raises the level for its own properties and children only.

  * `yuck` writes a whole file: the header, an empty line and the definitions, one
    empty line between two of them.
-/
import WidgetMarkup.Yuck.Definition

namespace WidgetMarkup.Yuck

/-- The first line of every generated file. -/
def header : String :=
  ";; Auto-generated Yuck widgets from HTML ;;"

/-- The nesting level of a window's children. -/
def windowLevel : Nat := 1

/-- The nesting level of a widget's body. -/
def widgetLevel : Nat := 2

/-- A text under construction. -/
structure Writer where
  text : String := ""
  /-- The current nesting level. -/
  level : Nat := 0

namespace Writer

/-- Adds to the end of the text. -/
def put (w : Writer) (s : String) : Writer :=
  { w with text := w.text ++ s }

/-- Adds two spaces for each of `n` levels. -/
def putSpaces (w : Writer) : Nat → Writer
  | 0 => w
  | n + 1 => (w.put "  ").putSpaces n

/-- Starts a new line at the current level. -/
def newLine (w : Writer) : Writer :=
  (w.put "\n").putSpaces w.level

/-- Writes a value behind a space. -/
def value (w : Writer) (literal : Literal) : Writer :=
  (w.put " ").put literal.text

/-- Writes one property. -/
def property (w : Writer) (p : Property) : Writer :=
  let w := (w.put ":").put p.key
  match p.value with
  | some literal => w.value literal
  | none => w

/-- Writes each property on a line of its own. -/
def properties (w : Writer) (props : List Property) : Writer :=
  props.foldl (fun w p => w.newLine.property p) w

mutual
/-- Writes a form or a value at the current level. -/
def item (w : Writer) : Item → Writer
  | .form tag props children =>
    let w := (w.newLine.put "(").put tag
    let w := { w with level := w.level + 1 }
    let w := (w.properties props).items children
    { w with level := w.level - 1 }.put ")"
  | .value literal => w.value literal

/-- Writes items one after the other at the current level. -/
def items (w : Writer) : List Item → Writer
  | [] => w
  | i :: is => (w.item i).items is
end

/-- Writes a name behind a space; an empty name leaves no trace. -/
def name (w : Writer) (s : String) : Writer :=
  if s.isEmpty then w else (w.put " ").put s

/-- Writes the geometry block of a window.  Its properties stand on lines indented
    by two spaces, the first one on the line of the block itself. -/
def geometry (w : Writer) (props : List Property) : Writer :=
  let w := w.put ":geometry (geometry "
  let w := match props with
    | [] => w
    | p :: ps => ps.foldl (fun w p => (w.put "\n  ").property p) (w.property p)
  w.put ")"

/-- Writes the fields of a widget, one space between two of them. -/
def fields (w : Writer) (names : List String) : Writer :=
  let w := w.put " ["
  let w := match names with
    | [] => w
    | f :: fs => fs.foldl (fun w f => (w.put " ").put f) (w.put f)
  w.put "]"

/-- Writes a window definition. -/
def window (w : Writer) (d : Window) : Writer :=
  let w := (w.put "(defwindow").name d.name
  let w := { w with level := windowLevel }
  let w := w.properties d.props
  let w := match d.geometry with
    | some props => w.newLine.geometry props
    | none => w
  let w := w.items d.children
  { w with level := 0 }.put ")"

/-- Writes a widget definition. -/
def widget (w : Writer) (d : Widget) : Writer :=
  let w := ((w.put "(defwidget").name d.name).fields d.fields
  let w := { w with level := widgetLevel }
  let w := w.items d.body
  { w with level := 0 }.put ")"

/-- Writes a definition. -/
def definition (w : Writer) : Definition → Writer
  | .window d => w.window d
  | .widget d => w.widget d

/-- Writes definitions, each followed by the end of its line and an empty line
    between two of them. -/
def definitions (w : Writer) : List Definition → Writer
  | [] => w
  | d :: ds => ds.foldl (fun w d => ((w.put "\n").definition d).put "\n") ((w.definition d).put "\n")

end Writer

/-- The Yuck source text of a list of definitions. -/
def yuck (defs : List Definition) : String :=
  ((({} : Writer).put header |>.put "\n\n").definitions defs).text

end WidgetMarkup.Yuck
