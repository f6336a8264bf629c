/-
  Diagnostics and their collection.

  * `Diagnostic` is what a user is told about a document: a severity, a message
    and hints.
  * `Notice` lists the causes of a warning and `StructureError` the causes that
    make a document unconvertible; their wording stands here and nowhere else.
  * `Sink` collects diagnostics in the order in which they arise, and `Reporting`
    is a computation that may add to it.
-/
namespace WidgetMarkup

/-! ## Diagnostics -/

inductive Severity where
  | error
  | warning
deriving DecidableEq

/-- The word that stands for a severity in a report. -/
def Severity.word : Severity → String
  | .error => "error"
  | .warning => "warning"

/-- A message about a document. -/
structure Diagnostic where
  severity : Severity
  message : String
  /-- How the problem can be avoided or mended. -/
  hints : List String := []
deriving DecidableEq

/-! ## Causes of a warning -/

/-- Elements nested at least this deep are dropped. -/
def maxDepth : Nat := 256

/-- What a warning is about. -/
inductive Notice where
  /-- The document nests elements deeper than `maxDepth`. -/
  | tooDeep
  /-- A text stands directly inside the body. -/
  | strayText (text : String)
  /-- A comment or doctype stands directly inside the body. -/
  | strayOther
  /-- An element other than a window or widget stands directly inside the body. -/
  | unhandledTag (tag : String)
  | unnamedWindow
  | unnamedWidget
  /-- A window has a second geometry block. -/
  | extraGeometry (window : String)
  /-- An element inside a window or widget is nested at depth `maxDepth`. -/
  | droppedElement (tag : String)
  /-- An element inside a window or widget has an empty tag name. -/
  | missingTag
deriving DecidableEq

/-- The wording of a warning. -/
def Notice.message : Notice → String
  | .tooDeep => s!"elements nested deeper than {maxDepth} levels were dropped"
  | .strayText text => s!"skipping top-level text \"{text}\""
  | .strayOther => "skipping top-level comment or doctype"
  | .unhandledTag tag => s!"unhandled top-level tag <{tag}>; skipping"
  | .unnamedWindow => "window has no name"
  | .unnamedWidget => "widget has no name"
  | .extraGeometry window => s!"window `{window}` has more than one <geometry>"
  | .droppedElement tag => s!"<{tag}> is nested deeper than {maxDepth} levels and was dropped"
  | .missingTag => "element without a tag name; keeping only its children"

/-- The advice that goes with a warning. -/
def Notice.hints : Notice → List String
  | .tooDeep => ["flatten the markup"]
  | .strayText _ => ["text is only allowed inside a <window> or <widget>"]
  | .unhandledTag _ => ["only <window> and <widget> can appear directly inside <body>"]
  | .unnamedWindow | .unnamedWidget => ["add a `name` attribute"]
  | .extraGeometry _ => ["only the first one is used as the window geometry"]
  | .strayOther | .droppedElement _ | .missingTag => []

/-- The warning for a cause. -/
def Notice.diagnostic (notice : Notice) : Diagnostic :=
  ⟨.warning, notice.message, notice.hints⟩

/-! ## Causes of failure -/

/-- Why a document cannot be converted. -/
inductive StructureError where
  /-- The document has no `html` element. -/
  | missingRoot
  /-- The first `html` element has no `body` element. -/
  | missingBody
deriving DecidableEq

/-- The wording of an error. -/
def StructureError.message : StructureError → String
  | .missingRoot => "no <html> tag found in input"
  | .missingBody => "no <body> tag found inside <html>"

/-- The advice that goes with an error. -/
def StructureError.hint : StructureError → String
  | .missingRoot => "wrap the definitions in <html><body>...</body></html>"
  | .missingBody => "place the definitions inside a <body> element"

/-- The diagnostic for an error. -/
def StructureError.diagnostic (e : StructureError) : Diagnostic :=
  ⟨.error, e.message, [e.hint]⟩

/-! ## Collecting diagnostics -/

/-- The diagnostics so far, in the order in which they arose. -/
structure Sink where
  diagnostics : Array Diagnostic := #[]

/-- Adds a diagnostic at the end. -/
def Sink.add (sink : Sink) (d : Diagnostic) : Sink :=
  ⟨sink.diagnostics.push d⟩

def Sink.toList (sink : Sink) : List Diagnostic :=
  sink.diagnostics.toList

@[simp]
theorem Sink.toList_add (sink : Sink) (d : Diagnostic) :
    (sink.add d).toList = sink.toList ++ [d] := by
  simp [add, toList]

/-- A computation that may add diagnostics to a sink. -/
abbrev Reporting := StateM Sink

/-- Adds a diagnostic. -/
def report (d : Diagnostic) : Reporting Unit :=
  modify (·.add d)

/-- Adds the warning for a cause. -/
def warn (notice : Notice) : Reporting Unit :=
  report notice.diagnostic

/-- Runs a computation on an empty sink and gives its result and its diagnostics. -/
def Reporting.collect {α : Type} (x : Reporting α) : α × List Diagnostic :=
  let (a, sink) := x.run {}
  (a, sink.toList)

end WidgetMarkup
