/-
  Definitions of the Yuck language: windows and widgets.

  The body of a definition is a list of items, each a form (a widget expression
  with properties and nested items) or a positional value.
-/
import WidgetMarkup.Yuck.Literal

namespace WidgetMarkup.Yuck

/-- A property, `:key value`; without a value it is a bare flag. -/
structure Property where
  key : String
  value : Option Literal
deriving DecidableEq

/-- A property without a value. -/
def Property.flag (key : String) : Property :=
  ⟨key, none⟩

/-- A property with a value. -/
def Property.valued (key : String) (value : Literal) : Property :=
  ⟨key, some value⟩

/-- A form or a positional value. -/
inductive Item where
  | form (tag : String) (props : List Property) (children : List Item)
  | value (literal : Literal)

/-- A window. -/
structure Window where
  name : String
  props : List Property := []
  /-- The properties of the geometry block, if the window has one. -/
  geometry : Option (List Property) := none
  children : List Item := []

/-- A widget. -/
structure Widget where
  name : String
  /-- The names of the parameters. -/
  fields : List String := []
  body : List Item := []

/-- A definition at the top of a Yuck file. -/
inductive Definition where
  | window (w : Window)
  | widget (w : Widget)

end WidgetMarkup.Yuck
