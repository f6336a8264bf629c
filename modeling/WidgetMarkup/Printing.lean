/-
  Runs that print as they go.

  A run on a terminal does what `runBatch` does, but it does not note what happens: it
  prints.  Results are announced on the standard output; diagnostics, errors and log
  lines go to the error stream, between one file operation and the next.

  The error stream may refuse a text, of which nothing is printed then.  If a diagnostic
  is refused, its file has failed; if an error is refused, the run breaks off; a log line
  that is refused is lost.  The standard output takes everything.
-/
import WidgetMarkup.Report

namespace WidgetMarkup

/-! ## Terminals -/

/-- An error stream, by what it can hold. -/
structure ErrorStream where
  /-- Why the stream cannot hold a text, if it cannot. -/
  refusal? : String → Option String := fun _ => none

/-- How and where a run prints. -/
structure Terminal where
  style : Style := {}
  logging : Logging := {}
  stream : ErrorStream := {}

/-- What a run on a terminal has left so far. -/
structure Console where
  files : FileTree
  stdout : String := ""
  /-- What the error stream took. -/
  stderr : String := ""
  written : Array String := #[]
  failed : Nat := 0

/-- A part of a run on a terminal.  If it breaks off, what was done before stays. -/
abbrev Printing := ExceptT Failure (StateM Console)

/-- Announces a result. -/
def announce (source target : String) : Printing Unit :=
  modify fun c => { c with stdout := c.stdout ++ (Event.converted source target).announcement }

namespace Terminal

variable (terminal : Terminal)

/-- Prints a text to the error stream, or says why it is refused. -/
def print (text : String) : StateM Console (Except String Unit) := do
  let printed := (← get).stderr ++ text
  match terminal.stream.refusal? printed with
  | some reason => pure (.error reason)
  | none =>
    modify fun c => { c with stderr := printed }
    pure (.ok ())

/-- Prints a text; if it is refused, that is the given failure. -/
def tell (failure : String → Failure) (text : String) : Printing Unit := do
  match ← terminal.print text with
  | .error reason => throw (failure reason)
  | .ok () => pure ()

/-- Logs a remark if the verbosity asks for it. -/
def log (r : Remark) : Printing Unit := do
  let _ ← terminal.print (terminal.logging.event (.remark r))

/-- Prints an error and counts it. -/
def fail (f : Failure) : Printing Unit := do
  terminal.tell .printError (errorLine terminal.style.colored f.message)
  modify fun c => { c with failed := c.failed + 1 }

/-- Prints diagnostics about a file. -/
def diagnose (path : String) (ds : List Diagnostic) : Printing Unit :=
  ds.forM fun d => terminal.tell .printDiagnostics (terminal.style.diagnostic path d)

/-! ## One file -/

/-- Writes a result, after creating the directories around it that are missing. -/
def writeTarget (target text : String) : Printing Unit := do
  let dir := (Path.parent? target).getD ""
  let (files, created) := (← get).files.createAll dir
  modify fun c => { c with files }
  match created with
  | .error e => throw (.createDirectory dir e)
  | .ok () =>
    match files.write target text.toUTF8 with
    | .error e => throw (.write target e)
    | .ok files =>
      modify fun c => { c with files }
      terminal.log (.wrote target)

/-- Converts a file and says where the result is.  There is none if the content of the file
    cannot be converted; then the diagnostics say why. -/
def translateFile (config : Config) (path : String) : Printing (Option String) := do
  match (← get).files.readText path with
  | .error e => throw (.read path e)
  | .ok html =>
    terminal.log (.readLines (Html.lineEnds html))
    let (outcome, warnings) := convert html
    match outcome with
    | .error e =>
      terminal.diagnose path (warnings ++ [e.diagnostic])
      pure none
    | .ok text =>
      terminal.diagnose path warnings
      let target := outputPath config path
      terminal.writeTarget target text
      pure (some target)

/-- Converts one HTML file.  Whatever fails is printed, and the run goes on. -/
def convertFile (config : Config) (path : String) : Printing Unit := do
  terminal.log (.processing path)
  match ← ExceptT.lift (terminal.translateFile config path).run with
  | .error f => terminal.fail f
  | .ok none => modify fun c => { c with failed := c.failed + 1 }
  | .ok (some target) =>
    announce path target
    modify fun c => { c with written := c.written.push target }

/-- Converts a file if it is an HTML file. -/
def visitFile (config : Config) (path : String) : Printing Unit :=
  if Path.extension? path == some "html" then terminal.convertFile config path
  else terminal.log (.skippedFile path)

/-! ## All files -/

/-- Visits a directory and what is in it, down to `depth` levels. -/
def visitDirectory (config : Config) : Nat → String → Printing Unit
  | 0, _ => pure ()
  | depth + 1, path => do
    let listing := (← get).files.readDirectory path
    terminal.log (.skippedDirectory path)
    match listing with
    | .error e => terminal.fail (.walk path e)
    | .ok entries =>
      entries.forM fun (name, e) =>
        match e with
        | .directory => visitDirectory config depth (Path.join path name)
        | .file _ => terminal.visitFile config (Path.join path name)

/-- Visits the input and all that is below it, as deep as `visitInput` without a terminal. -/
def visitInput (config : Config) : Printing Unit := do
  let files := (← get).files
  match files.find config.input with
  | .error e => terminal.fail (.walk config.input e)
  | .ok (_, .directory) =>
    terminal.visitDirectory config (2 * files.depth + 2) config.input
  | .ok (_, .file _) => terminal.visitFile config config.input

/-- Converts every HTML file at or below the input. -/
def runBatch (config : Config) : Printing Unit := do
  let (files, created) := (← get).files.createAll config.output
  modify fun c => { c with files }
  match created with
  | .error e => throw (.createOutput config.output e)
  | .ok () => terminal.visitInput config

end Terminal

end WidgetMarkup
