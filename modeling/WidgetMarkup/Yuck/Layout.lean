/-
  The layout of Yuck source text.

  `layout` gives the text of a form or value at a nesting level by itself, without
  a text under construction: a form stands on a line of its own, indented by two
  spaces a level, and its properties on lines one level deeper; a value follows
  behind a space.
-/
import WidgetMarkup.Yuck.Writer

namespace WidgetMarkup.Yuck

/-- The start of a line at a nesting level. -/
def lineStart (level : Nat) : String :=
  "\n" ++ String.ofList (List.replicate (2 * level) ' ')

/-- The text of a property. -/
def Property.layout (p : Property) : String :=
  match p.value with
  | some literal => ":" ++ p.key ++ " " ++ literal.text
  | none => ":" ++ p.key

mutual
/-- The text of a form or value at a nesting level. -/
def Item.layout (level : Nat) : Item → String
  | .form tag props children =>
    lineStart level ++ "(" ++ tag ++
      String.join (props.map fun p => lineStart (level + 1) ++ p.layout) ++
      itemsLayout (level + 1) children ++ ")"
  | .value literal => " " ++ literal.text

/-- The text of items one after the other at a nesting level. -/
def itemsLayout (level : Nat) : List Item → String
  | [] => ""
  | i :: is => i.layout level ++ itemsLayout level is
end

/-- The text of a name: behind a space, or nothing if it is empty. -/
def nameLayout (name : String) : String :=
  if name.isEmpty then "" else " " ++ name

/-- The text of a window. -/
def Window.layout (d : Window) : String :=
  "(defwindow" ++ nameLayout d.name ++
    String.join (d.props.map fun p => lineStart windowLevel ++ p.layout) ++
    (match d.geometry with
     | some props => lineStart windowLevel ++ ":geometry (geometry " ++
         "\n  ".intercalate (props.map Property.layout) ++ ")"
     | none => "") ++
    itemsLayout windowLevel d.children ++ ")"

/-- The text of a widget. -/
def Widget.layout (d : Widget) : String :=
  "(defwidget" ++ nameLayout d.name ++ " [" ++ " ".intercalate d.fields ++ "]" ++
    itemsLayout widgetLevel d.body ++ ")"

/-- The text of a definition. -/
def Definition.layout : Definition → String
  | .window d => d.layout
  | .widget d => d.layout

end WidgetMarkup.Yuck
