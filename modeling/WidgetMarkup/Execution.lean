/-
  Running a command line.

  `execute` reads a command line and runs it on a file tree.  The exit code is 0 if
  all went well, 1 if something failed and 2 if the command line was refused.
  `executeOn` does so with an error stream that may refuse what is printed to it.  If
  a run breaks off, the reason is printed; if that is refused too, the program aborts.
-/
import WidgetMarkup.Arguments
import WidgetMarkup.Printing

namespace WidgetMarkup

/-- What a program leaves behind. -/
structure Execution where
  code : Nat
  stdout : String := ""
  stderr : String := ""
  /-- The paths of the results, in the order in which they were written. -/
  written : List String := []
  /-- The files after the run. -/
  files : FileTree

/-- The style of diagnostics that arguments ask for.  No terminal is at hand, so `auto`
    means no colors. -/
def Arguments.style (arguments : Arguments) : Style :=
  ⟨arguments.format, arguments.color == .always⟩

/-- The logging that arguments and environment ask for. -/
def Arguments.logging (arguments : Arguments) (env : Environment) : Logging :=
  ⟨arguments.verbosity, (env.noColor.getD "").isEmpty⟩

/-- The paths that arguments name. -/
def Arguments.config (arguments : Arguments) : Config :=
  ⟨arguments.input, arguments.output⟩

/-- The terminal that arguments ask for, with an error stream. -/
def Arguments.terminal (arguments : Arguments) (env : Environment) (stream : ErrorStream) :
    Terminal :=
  ⟨arguments.style, arguments.logging env, stream⟩

/-- The exit code of a program that aborts. -/
def abortCode : Nat :=
  101

/-- What a program leaves behind that has a console at the end. -/
def Console.execution (c : Console) (code : Nat) : Execution :=
  { code, stdout := c.stdout, stderr := c.stderr, written := c.written.toList, files := c.files }

/-- Runs an accepted command line with an error stream. -/
def Arguments.executeOn (arguments : Arguments) (stream : ErrorStream) (env : Environment)
    (files : FileTree) : Execution :=
  let terminal := arguments.terminal env stream
  match (terminal.runBatch arguments.config).run.run { files } with
  | (.ok (), c) => c.execution (if c.failed = 0 then 0 else 1)
  | (.error f, c) =>
    match (terminal.print (errorLine terminal.style.colored f.message)).run c with
    | (.ok (), c) => c.execution 1
    | (.error _, c) => c.execution abortCode

/-- Runs an accepted command line with an error stream that takes everything. -/
def Arguments.execute (arguments : Arguments) (env : Environment) (files : FileTree) :
    Execution :=
  arguments.executeOn {} env files

/-- Runs a command line with an error stream, or says why it does not lead to a run. -/
def executeOn (stream : ErrorStream) (env : Environment) (arguments : List String)
    (files : FileTree) : Except UsageError Execution := do
  let arguments ← parseArguments env arguments
  .ok (arguments.executeOn stream env files)

/-- Runs a command line with an error stream that takes everything, or says why it does not
    lead to a run. -/
def execute (env : Environment) (arguments : List String) (files : FileTree) :
    Except UsageError Execution :=
  executeOn {} env arguments files

/-! ## Command lines that do not lead to a run -/

/-- The exit code for a command line that does not lead to a run. -/
def UsageError.code : UsageError → Nat
  | .helpRequested | .versionRequested => 0
  | _ => 2

/-- What is printed for a command line that does not lead to a run. -/
def UsageError.text : UsageError → String
  | .helpRequested => "Usage: yuck-html [OPTIONS] <INPUT> <OUTPUT>\n"
  | .versionRequested => "yuck-html 0.1.0\n"
  | .emptyPath => "error: input and output directories cannot be empty\n"
  | .missingPath => "error: an input and an output path are required\n"
  | .unknownArgument => "error: unexpected argument\n"
  | .invalidValue => "error: missing or invalid value of an option\n"
  | .unexpectedValue => "error: a flag takes no value\n"
  | .repeatedOption => "error: an option cannot be used twice\n"

end WidgetMarkup
