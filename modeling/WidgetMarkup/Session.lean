/-
  Sessions: several conversions that report into one sink.
-/
import WidgetMarkup.Conversion

namespace WidgetMarkup

/-- A step of a session. -/
inductive Step where
  | convertText (html : String)
  | parse (html : String)
  | convertDocument (document : Document)
  | definitions (body : Element)
  | report (d : Diagnostic)

/-- The result of a step. -/
inductive StepResult where
  | outcome (result : Outcome)
  | document (document : Document)
  | definitions (defs : List Yuck.Definition)
  | nothing

/-- Runs a step. -/
def Step.run : Step → Reporting StepResult
  | .convertText html => do
    let result ← WidgetMarkup.convertText html
    pure (.outcome result)
  | .parse html => do
    let document ← parseDocument html
    pure (.document document)
  | .convertDocument document => do
    let result ← WidgetMarkup.convertDocument document
    pure (.outcome result)
  | .definitions body => do
    let defs ← WidgetMarkup.definitions body
    pure (.definitions defs)
  | .report d => do
    WidgetMarkup.report d
    pure .nothing

/-- Runs steps one after the other and gives each result with the number of diagnostics
    after its step. -/
def runSession : List Step → Reporting (List (StepResult × Nat))
  | [] => pure []
  | step :: steps => do
    let result ← step.run
    let count := (← get).toList.length
    let results ← runSession steps
    pure ((result, count) :: results)

end WidgetMarkup
