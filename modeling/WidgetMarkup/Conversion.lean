/-
  From HTML text to Yuck source text.

  * `convertDocument` converts a document, `convertText` an HTML text; both report
    what they skip.
  * `convert` converts an HTML text on its own and gives the diagnostics with the
    result.
-/
import WidgetMarkup.Document.Normal
import WidgetMarkup.Document.OfTree
import WidgetMarkup.Lowering
import WidgetMarkup.Yuck.Writer

namespace WidgetMarkup

/-- The Yuck source text of a document, or why there is none. -/
abbrev Outcome := Except StructureError String

/-- Converts a document. -/
def convertDocument (document : Document) : Reporting Outcome :=
  match findBody document.normalize with
  | .error e => pure (.error e)
  | .ok body => do
    let defs ← definitions body
    pure (.ok (Yuck.yuck defs))

/-- Converts an HTML text. -/
def convertText (html : String) : Reporting Outcome := do
  let document ← parseDocument html
  convertDocument document

/-- Converts an HTML text on its own: the outcome and all diagnostics. -/
def convert (html : String) : Outcome × List Diagnostic :=
  (convertText html).collect

end WidgetMarkup
