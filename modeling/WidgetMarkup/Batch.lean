/-
  Converting all HTML files below a path.

  A run walks the input from top to bottom, the entries of a directory in the order
  of their names, and converts every file whose name ends in `.html`.  The result
  goes to the same place below the output directory, with the extension `.yuck`.  A
  file that fails is reported and counted, and the run goes on.

  * `outputPath` says where the result of a file goes.
  * `convertFile` converts one file and `runBatch` all of them.
  * What a user could see of a run is a list of `Event`s in order; how they are
    printed is not decided here.  `Printing` has the run that prints as it goes.
-/
import WidgetMarkup.Conversion
import WidgetMarkup.Files.FileTree

namespace WidgetMarkup

/-! ## What happens in a run -/

/-- Why something could not be done in a run. -/
inductive Failure where
  | createOutput (path : String) (e : FileError)
  | walk (path : String) (e : FileError)
  | read (path : String) (e : FileError)
  | createDirectory (path : String) (e : FileError)
  | write (path : String) (e : FileError)
  /-- The diagnostics of a file could not be printed. -/
  | printDiagnostics (reason : String)
  /-- An error could not be printed. -/
  | printError (reason : String)
deriving DecidableEq

/-- The wording of a failure. -/
def Failure.message : Failure → String
  | .createOutput path e => s!"failed to create output directory {path} ({e.message})"
  | .walk path e => s!"failed to walk directory (IO error for operation on {path}: {e.message})"
  | .read path e => s!"failed to read {path} ({e.message})"
  | .createDirectory path e => s!"failed to create directory {path} ({e.message})"
  | .write path e => s!"failed to write {path} ({e.message})"
  | .printDiagnostics reason => s!"failed to print diagnostics ({reason})"
  | .printError reason => s!"failed to print error ({reason})"

/-- A remark on the progress of a run. -/
inductive Remark where
  | skippedDirectory (path : String)
  | skippedFile (path : String)
  | processing (path : String)
  | wrote (path : String)
  /-- The lines of a file were read, so many of them ended. -/
  | readLines (count : Nat)

/-- Something that happens in a run. -/
inductive Event where
  | remark (r : Remark)
  | diagnostic (path : String) (d : Diagnostic)
  | failure (f : Failure)
  | converted (source target : String)

/-- What a run is asked to do. -/
structure Config where
  /-- A directory, or a single file. -/
  input : String
  /-- The directory for the results. -/
  output : String

/-- What came out of a run. -/
structure Summary where
  /-- The paths of the results, in the order in which they were written. -/
  written : List String := []
  /-- How many files, or parts of the walk, failed. -/
  failed : Nat := 0
deriving DecidableEq

/-- The state of a run. -/
structure Progress where
  files : FileTree
  events : Array Event := #[]
  written : Array String := #[]
  failed : Nat := 0

/-- A step of a run. -/
abbrev Batch := StateM Progress

/-- Adds an event. -/
def emit (e : Event) : Batch Unit :=
  modify fun p => { p with events := p.events.push e }

/-- Adds a remark. -/
def remark (r : Remark) : Batch Unit :=
  emit (.remark r)

/-- Adds a failure and counts it. -/
def fail (f : Failure) : Batch Unit := do
  emit (.failure f)
  modify fun p => { p with failed := p.failed + 1 }

/-! ## One file -/

/-- The names on the way from the output directory to the result of a file: those on the
    way from the input to the file, with another extension.  If the file is the input itself,
    there is only its name. -/
def targetNames (config : Config) (path : String) : List String :=
  let names := match Path.relativeTo? config.input path with
    | some (c :: cs) => (c :: cs).map Path.Component.text
    | _ => [(Path.fileName? path).getD path]
  names.dropLast ++ [Path.setExtension "yuck" (names.getLast?.getD "")]

/-- Where the result of a file goes. -/
def outputPath (config : Config) (path : String) : String :=
  Path.joinAll config.output (targetNames config path)

/-- Reads and converts a file and reports what is to be said about it. -/
def convertSource (path : String) : Batch (Except Failure (Option String)) := do
  match (← get).files.readText path with
  | .error e => pure (.error (.read path e))
  | .ok html =>
    remark (.readLines (Html.lineEnds html))
    let (outcome, diagnostics) := convert html
    diagnostics.forM fun d => emit (.diagnostic path d)
    match outcome with
    | .ok text => pure (.ok (some text))
    | .error e =>
      emit (.diagnostic path e.diagnostic)
      pure (.ok none)

/-- Writes a result, after creating the directories around it that are missing. -/
def writeTarget (target text : String) : Batch (Except Failure Unit) := do
  let dir := (Path.parent? target).getD ""
  let (files, created) := (← get).files.createAll dir
  modify fun p => { p with files }
  match created with
  | .error e => pure (.error (.createDirectory dir e))
  | .ok () =>
    match files.write target text.toUTF8 with
    | .error e => pure (.error (.write target e))
    | .ok files =>
      modify fun p => { p with files }
      remark (.wrote target)
      pure (.ok ())

/-- Converts one HTML file. -/
def convertFile (config : Config) (path : String) : Batch Unit := do
  remark (.processing path)
  match ← convertSource path with
  | .error f => fail f
  | .ok none => modify fun p => { p with failed := p.failed + 1 }
  | .ok (some text) =>
    let target := outputPath config path
    match ← writeTarget target text with
    | .error f => fail f
    | .ok () =>
      emit (.converted path target)
      modify fun p => { p with written := p.written.push target }

/-- Converts a file if it is an HTML file. -/
def visitFile (config : Config) (path : String) : Batch Unit :=
  if Path.extension? path == some "html" then convertFile config path
  else remark (.skippedFile path)

/-! ## All files -/

/-- Visits a directory and what is in it, down to `depth` levels.  The entries of a
    directory are those that are there when it is reached. -/
def visitDirectory (config : Config) : Nat → String → Batch Unit
  | 0, _ => pure ()
  | depth + 1, path => do
    let listing := (← get).files.readDirectory path
    remark (.skippedDirectory path)
    match listing with
    | .error e => fail (.walk path e)
    | .ok entries =>
      entries.forM fun (name, e) =>
        match e with
        | .directory => visitDirectory config depth (Path.join path name)
        | .file _ => visitFile config (Path.join path name)

/-- Visits the input and all that is below it.  A run adds directories below the output
    directory only, no deeper there than the files of the input are below it, so twice
    the depth of the tree is deep enough. -/
def visitInput (config : Config) : Batch Unit := do
  let files := (← get).files
  match files.find config.input with
  | .error e => fail (.walk config.input e)
  | .ok (_, .directory) => visitDirectory config (2 * files.depth + 2) config.input
  | .ok (_, .file _) => visitFile config config.input

/-- The result of a run. -/
structure BatchResult where
  /-- The files after the run. -/
  files : FileTree
  events : List Event
  outcome : Except Failure Summary

/-- Converts every HTML file at or below the input.  Without an output directory nothing
    is done. -/
def runBatch (config : Config) (files : FileTree) : BatchResult :=
  match files.createAll config.output with
  | (files, .error e) => ⟨files, [], .error (.createOutput config.output e)⟩
  | (files, .ok ()) =>
    let (_, p) := (visitInput config).run { files }
    ⟨p.files, p.events.toList, .ok ⟨p.written.toList, p.failed⟩⟩

end WidgetMarkup
