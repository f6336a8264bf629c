/-
  The arguments of the command line.

  Arguments are read from left to right.  A value is checked when the argument
  behind it is reached, or at the end; an argument that is not known at all is
  refused before the value in front of it is checked.

  * `parseArguments` reads a command line; paths that are not given are taken from
    the environment.
  * `UsageError` lists the ways in which a command line is refused, or asks for
    something else than a run.
-/
import WidgetMarkup.Report

namespace WidgetMarkup

/-! ## Results -/

/-- When colors are used. -/
inductive ColorChoice where
  | auto
  | always
  | never
deriving DecidableEq

/-- An accepted command line. -/
structure Arguments where
  input : String
  output : String
  format : DiagnosticFormat := .human
  color : ColorChoice := .auto
  verbosity : Nat := 0
deriving DecidableEq

/-- Why a command line does not lead to a run. -/
inductive UsageError where
  | helpRequested
  | versionRequested
  /-- A path is empty. -/
  | emptyPath
  | missingPath
  | unknownArgument
  /-- The value of an option is missing or not one of the allowed ones. -/
  | invalidValue
  /-- A flag is given a value. -/
  | unexpectedValue
  /-- An option is given twice. -/
  | repeatedOption
deriving DecidableEq

/-- The variables that stand in for missing paths. -/
structure Environment where
  input : Option String := none
  output : Option String := none
  /-- The variable that turns the colors of log lines off. -/
  noColor : Option String := none

/-! ## Reading -/

/-- The options that take a value. -/
inductive ValueOption where
  | format
  | color
deriving DecidableEq

/-- A value that is not checked yet. -/
inductive Pending where
  | input (path : String)
  | output (path : String)
  /-- An option, and its value if that is read already. -/
  | option (o : ValueOption) (value : Option String)

/-- What is read so far. -/
structure Reader where
  input : Option String := none
  output : Option String := none
  format : Option DiagnosticFormat := none
  color : Option ColorChoice := none
  verbosity : Nat := 0
  pending : Option Pending := none
  /-- The number of paths so far. -/
  paths : Nat := 0
  /-- Whether only paths may follow. -/
  pathsOnly : Bool := false

namespace Reader

/-- The formats by name. -/
def formatNamed? : String → Option DiagnosticFormat
  | "human" => some .human
  | "short" => some .short
  | _ => none

/-- The color choices by name. -/
def colorNamed? : String → Option ColorChoice
  | "auto" => some .auto
  | "always" => some .always
  | "never" => some .never
  | _ => none

/-- Sets an option, which must not be set before. -/
def setOption (r : Reader) (o : ValueOption) (value : String) : Except UsageError Reader :=
  match o with
  | .format =>
    if r.format.isSome then .error .repeatedOption
    else match formatNamed? value with
      | some f => .ok { r with format := some f }
      | none => .error .invalidValue
  | .color =>
    if r.color.isSome then .error .repeatedOption
    else match colorNamed? value with
      | some c => .ok { r with color := some c }
      | none => .error .invalidValue

/-- Checks the value that is not checked yet. -/
def settle (r : Reader) : Except UsageError Reader :=
  let settled := { r with pending := none }
  match r.pending with
  | none => .ok r
  | some (.input path) =>
    if path.isEmpty then .error .emptyPath else .ok { settled with input := some path }
  | some (.output path) =>
    if path.isEmpty then .error .emptyPath else .ok { settled with output := some path }
  | some (.option _ none) => .error .invalidValue
  | some (.option o (some value)) => settled.setOption o value

/-- Reads a path: the input first, then the output. -/
def readPath (r : Reader) (path : String) : Except UsageError Reader :=
  match r.paths with
  | 0 => do
    let r ← r.settle
    .ok { r with pending := some (.input path), paths := 1 }
  | 1 => do
    let r ← r.settle
    .ok { r with pending := some (.output path), paths := 2 }
  | _ => .error .unknownArgument

/-- The greatest verbosity. -/
def maxVerbosity : Nat := 255

/-- Raises the verbosity. -/
def raiseVerbosity (r : Reader) : Except UsageError Reader := do
  let r ← r.settle
  .ok { r with verbosity := min maxVerbosity (r.verbosity + 1) }

/-- Stops for a request, once the value in front of it is checked. -/
def request (r : Reader) (e : UsageError) : Except UsageError Reader := do
  let _ ← r.settle
  .error e

/-- Reads flags of one letter. -/
def readLetters (r : Reader) : List Char → Except UsageError Reader
  | [] => .ok r
  | 'v' :: cs => do
    let r ← r.raiseVerbosity
    r.readLetters cs
  | 'h' :: _ => r.request .helpRequested
  | 'V' :: _ => r.request .versionRequested
  | _ :: _ => .error .unknownArgument

/-- Reads a flag, which takes no value. -/
def readFlag (value : Option String) (next : Except UsageError Reader) :
    Except UsageError Reader :=
  if value.isSome then .error .unexpectedValue else next

/-- Reads an option, whose value stands behind its equals sign or in the next argument. -/
def readOption (r : Reader) (o : ValueOption) (value : Option String) :
    Except UsageError Reader := do
  let r ← r.settle
  match value with
  | some v => r.setOption o v
  | none => .ok { r with pending := some (.option o none) }

/-- Reads a flag or option with a long name. -/
def readLong (r : Reader) (name : String) (value : Option String) : Except UsageError Reader :=
  match name with
  | "verbosity" => readFlag value r.raiseVerbosity
  | "help" => readFlag value (r.request .helpRequested)
  | "version" => readFlag value (r.request .versionRequested)
  | "diagnostic-format" => r.readOption .format value
  | "color" => r.readOption .color value
  | _ => .error .unknownArgument

/-- Splits at the first equals sign. -/
def splitEquals (cs : List Char) : String × Option String :=
  let name := cs.takeWhile (· != '=')
  match cs.drop name.length with
  | [] => (String.ofList name, none)
  | _ :: value => (String.ofList name, some (String.ofList value))

/-- Reads a value: that of the option in front of it, or a path. -/
def readValue (r : Reader) (value : String) : Except UsageError Reader :=
  match r.pending with
  | some (.option o none) => .ok { r with pending := some (.option o (some value)) }
  | _ => r.readPath value

/-- Reads one argument. -/
def readArgument (r : Reader) (argument : String) : Except UsageError Reader :=
  if r.pathsOnly then r.readPath argument
  else
    match argument.toList with
    | '-' :: '-' :: [] => .ok { r with pathsOnly := true }
    | '-' :: '-' :: cs =>
      let (name, value) := splitEquals cs
      r.readLong name value
    | '-' :: c :: cs => r.readLetters (c :: cs)
    | _ => r.readValue argument

/-- Reads arguments from left to right. -/
def readAll (r : Reader) : List String → Except UsageError Reader
  | [] => r.settle
  | argument :: arguments => do
    let r ← r.readArgument argument
    r.readAll arguments

end Reader

/-! ## Paths from the environment -/

/-- The path that was given, or that of the environment, which must not be empty. -/
def pathOr (given fallback : Option String) : Except UsageError (Option String) :=
  match given, fallback with
  | some path, _ => .ok (some path)
  | none, some path => if path.isEmpty then .error .emptyPath else .ok (some path)
  | none, none => .ok none

/-- Reads a command line. -/
def parseArguments (env : Environment) (arguments : List String) :
    Except UsageError Arguments := do
  let r ← ({} : Reader).readAll arguments
  let input ← pathOr r.input env.input
  let output ← pathOr r.output env.output
  match input, output with
  | some input, some output =>
    .ok {
      input, output
      format := r.format.getD .human
      color := r.color.getD .auto
      verbosity := r.verbosity }
  | _, _ => .error .missingPath

end WidgetMarkup
