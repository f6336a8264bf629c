/-
  Trees of HTML.

  A `Tree` is what an HTML text denotes: elements with their vocabulary, texts,
  comments, doctypes and the fragments that hold the contents of templates.
-/
import WidgetMarkup.Html.Name

namespace WidgetMarkup.Html

/-- A node of an HTML document with everything below it. -/
inductive Tree where
  | element (name : Name) (attrs : List Attribute) (children : List Tree)
  | text (content : String)
  | comment
  | doctype
  /-- The contents of a template. -/
  | fragment (children : List Tree)

end WidgetMarkup.Html
