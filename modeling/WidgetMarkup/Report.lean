/-
  Printing what happens in a run.

  * Diagnostics and failures are printed in a long or a short format, with or
    without colors.
  * Remarks become log lines if the verbosity asks for them.
-/
import WidgetMarkup.Batch
import WidgetMarkup.Text.Escape

namespace WidgetMarkup

/-- How much is printed of a diagnostic. -/
inductive DiagnosticFormat where
  /-- With hints and an empty line at the end. -/
  | human
  /-- One line. -/
  | short
deriving DecidableEq

/-- How diagnostics and failures are printed. -/
structure Style where
  format : DiagnosticFormat := .human
  colored : Bool := false

/-! ## Colors -/

/-- The control sequence that sets a graphic rendition. -/
def rendition (code : String) : String :=
  "\x1b[" ++ code ++ "m"

/-- Ends all colors and emphasis. -/
def plain : String :=
  rendition "0"

/-- Starts the color of a severity. -/
def Severity.color (severity : Severity) : String :=
  let code := match severity with
    | .error => "9"
    | .warning => "11"
  plain ++ rendition "1" ++ rendition ("38;5;" ++ code)

/-! ## Diagnostics and failures -/

/-- The first line of a diagnostic. -/
def headerLine (colored : Bool) (severity : Severity) (text : String) : String :=
  if colored then
    severity.color ++ severity.word ++ plain ++ rendition "1" ++ ": " ++ text ++ plain ++ "\n"
  else severity.word ++ ": " ++ text ++ "\n"

/-- The line of a hint. -/
def hintLine (colored : Bool) (hint : String) : String :=
  let mark := if colored then plain ++ rendition "34" ++ "=" ++ plain else "="
  " " ++ mark ++ " hint: " ++ hint ++ "\n"

/-- The text of a diagnostic about a file. -/
def Style.diagnostic (style : Style) (path : String) (d : Diagnostic) : String :=
  let header := headerLine style.colored d.severity (path ++ ": " ++ d.message)
  match style.format with
  | .short => header
  | .human => header ++ String.join (d.hints.map (hintLine style.colored)) ++ "\n"

/-- The text of an error that is not about the content of a file. -/
def errorLine (colored : Bool) (message : String) : String :=
  let word := if colored then Severity.error.color ++ "error" ++ plain else "error"
  word ++ ": " ++ message ++ "\n"

/-- What is printed of an event apart from log lines. -/
def Style.event (style : Style) : Event → String
  | .diagnostic path d => style.diagnostic path d
  | .failure f => errorLine style.colored f.message
  | .remark _ | .converted _ _ => ""

/-- What is printed of events apart from log lines. -/
def Style.events (style : Style) (events : List Event) : String :=
  String.join (events.map style.event)

/-! ## Results -/

/-- The line that announces a result. -/
def Event.announcement : Event → String
  | .converted source target => s!"Transpiled: {source} → {target}\n"
  | .remark _ | .diagnostic _ _ | .failure _ => ""

/-- The lines that announce results. -/
def announcements (events : List Event) : String :=
  String.join (events.map Event.announcement)

/-! ## Log lines -/

/-- The levels of log lines, from rare to frequent. -/
inductive LogLevel where
  | warn
  | info
  | debug
  | trace

/-- The verbosity from which on a level is logged. -/
def LogLevel.threshold : LogLevel → Nat
  | .warn => 1
  | .info => 2
  | .debug => 3
  | .trace => 4

/-- The word of a level, five characters wide. -/
def LogLevel.word : LogLevel → String
  | .warn => " WARN"
  | .info => " INFO"
  | .debug => "DEBUG"
  | .trace => "TRACE"

/-- The color of a level. -/
def LogLevel.color : LogLevel → String
  | .warn => rendition "33"
  | .info => rendition "32"
  | .debug => rendition "34"
  | .trace => rendition "35"

/-- The name of the part of the program that logs. -/
def logTarget : String :=
  "yuck_html_cli::transpile"

/-- A log line.  Control characters in the message are written out. -/
def logLine (colored : Bool) (level : LogLevel) (message : String) : String :=
  if colored then
    level.color ++ level.word ++ plain ++ " " ++ rendition "2" ++ logTarget ++ plain ++
      rendition "2" ++ ":" ++ plain ++ " " ++ escape message ++ "\n"
  else level.word ++ " " ++ logTarget ++ ": " ++ escape message ++ "\n"

/-- The level of a remark. -/
def Remark.level : Remark → LogLevel
  | .skippedDirectory _ => .debug
  | .skippedFile _ => .warn
  | .processing _ | .wrote _ => .info
  | .readLines _ => .trace

/-- The text of a remark in the log.  Of the lines of a file only their ends show. -/
def Remark.text (colored : Bool) (r : Remark) : String :=
  let line := logLine colored r.level
  match r with
  | .skippedDirectory path => line s!"Skipping directory: {path}"
  | .skippedFile path => line s!"Skipping non-HTML file: {path}"
  | .processing path => line s!"Processing file: {path}"
  | .wrote path => line s!"Wrote {path}"
  | .readLines count => String.ofList (List.replicate count '\n')

/-- How a run is logged. -/
structure Logging where
  verbosity : Nat := 0
  colored : Bool := true

/-- What is logged of an event. -/
def Logging.event (logging : Logging) : Event → String
  | .remark r => if r.level.threshold ≤ logging.verbosity then r.text logging.colored else ""
  | .diagnostic _ _ | .failure _ | .converted _ _ => ""

/-- What is printed of events, log lines included. -/
def printAll (style : Style) (logging : Logging) (events : List Event) : String :=
  String.join (events.map fun e => logging.event e ++ style.event e)

end WidgetMarkup
