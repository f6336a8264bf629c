/-
  The program.

  The command line is run on a copy of the files it needs, and the results are
  written afterwards.  The input is a single file, or a directory whose files are
  named on standard input, one path a line, as a listing of the directory gives them.
-/
import WidgetMarkup.Execution

namespace WidgetMarkup

/-- The variables that the program looks at. -/
def environmentOfProcess : IO Environment := do
  pure {
    input := ← IO.getEnv "YUCK_HTML_INPUT"
    output := ← IO.getEnv "YUCK_HTML_OUTPUT"
    noColor := ← IO.getEnv "NO_COLOR" }

/-- The content of a file, if it can be read. -/
def readContent? (path : String) : IO (Option ByteArray) :=
  try
    pure (some (← IO.FS.readBinFile path))
  catch _ => pure none

/-- The lines of a stream up to its end. -/
partial def readLines (stream : IO.FS.Stream) : IO (List String) := do
  let line ← stream.getLine
  if line.isEmpty then pure []
  else pure (line.trimAsciiEnd.toString :: (← readLines stream))

/-- A file tree with the current directory and nothing else. -/
def currentDirectory : IO FileTree := do
  let path := (← IO.currentDir).toString
  let files := (({} : FileTree).createAll path).1
  match files.find path with
  | .ok (loc, _) => pure { files with current := loc }
  | .error _ => pure files

/-- A file tree with the readable ones of the given files. -/
def loadFiles : List String → FileTree → IO FileTree
  | [], files => pure files
  | path :: paths, files => do
    match ← readContent? path with
    | some content => loadFiles paths (files.writeAll path content).1
    | none => loadFiles paths files

/-- The files of an input. -/
def loadInput (input : String) : IO FileTree := do
  let files ← currentDirectory
  match ← readContent? input with
  | some content => pure (files.writeAll input content).1
  | none => loadFiles (← readLines (← IO.getStdin)) files

/-- Writes the results of a run. -/
def saveResults (files : FileTree) : List String → IO Unit
  | [] => pure ()
  | path :: paths => do
    if let .ok content := files.read path then
      IO.FS.createDirAll ((Path.parent? path).getD ".")
      IO.FS.writeBinFile path content
    saveResults files paths

/-- Runs a command line. -/
def runProgram (arguments : List String) : IO UInt32 := do
  let env ← environmentOfProcess
  match parseArguments env arguments with
  | .error e =>
    if e.code = 0 then IO.print e.text else IO.eprint e.text
    pure e.code.toUInt32
  | .ok accepted =>
    let result := accepted.execute env (← loadInput accepted.input)
    if result.files.hasDirectory accepted.output then IO.FS.createDirAll accepted.output
    saveResults result.files result.written
    IO.eprint result.stderr
    IO.print result.stdout
    pure result.code.toUInt32

end WidgetMarkup

/-- The entry point. -/
def main (arguments : List String) : IO UInt32 :=
  WidgetMarkup.runProgram arguments
