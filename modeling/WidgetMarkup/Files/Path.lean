/-
  Paths as texts.

  A path names a file by the names of directories on the way to it, with slashes
  between them.  Empty parts and `.` between slashes mean nothing, so that one file
  has many paths; `components` gives the parts that matter.

  * `join` puts a name behind a path, `parent?` takes the last component off, and
    `relativeTo?` gives what is left of a path behind another one.
  * `extension?` is the part of a file name behind its last dot, unless that dot is
    its first character.
-/
namespace WidgetMarkup.Path

/-! ## Components -/

/-- A part of a path that matters. -/
inductive Component where
  /-- The slash at the start of an absolute path. -/
  | root
  /-- A `.` at the start of a path. -/
  | here
  /-- The directory around, `..`. -/
  | up
  | name (s : String)
deriving DecidableEq

/-- Splits at slashes; there is one part more than there are slashes. -/
def splitSlashes : List Char → List (List Char)
  | [] => [[]]
  | c :: cs =>
    match splitSlashes cs with
    | [] => [[]]
    | part :: parts => if c == '/' then [] :: part :: parts else (c :: part) :: parts

/-- The parts of a path between slashes. -/
def parts (path : String) : List String :=
  (splitSlashes path.toList).map String.ofList

/-- The component of a part that does not stand first. -/
def component? (part : String) : Option Component :=
  if part == "" || part == "." then none
  else if part == ".." then some .up
  else some (.name part)

/-- The parts of a path that matter. -/
def components (path : String) : List Component :=
  match parts path with
  | [] => []
  | first :: rest =>
    let start := if first == "" && !rest.isEmpty then [.root]
      else if first == "." then [.here]
      else (component? first).toList
    start ++ rest.filterMap component?

/-- The name at the end of a path. -/
def fileName? (path : String) : Option String :=
  match (components path).getLast? with
  | some (.name s) => some s
  | _ => none

/-- What is left of components behind others. -/
def stripBase? : List Component → List Component → Option (List Component)
  | [], cs => some cs
  | b :: bs, c :: cs => if b = c then stripBase? bs cs else none
  | _ :: _, [] => none

/-- What is left of a path behind another one, if it starts with it. -/
def relativeTo? (base path : String) : Option (List Component) :=
  stripBase? (components base) (components path)

/-- The name of a component. -/
def Component.text : Component → String
  | .root => "/"
  | .here => "."
  | .up => ".."
  | .name s => s

/-! ## Building paths -/

/-- Puts a name behind a path. -/
def join (path name : String) : String :=
  if path.isEmpty || path.toList.getLast? == some '/' then path ++ name else path ++ "/" ++ name

/-- Puts names behind a path, one after the other. -/
def joinAll (path : String) (names : List String) : String :=
  names.foldl join path

/-- Drops slashes and `.` parts at the end of a path that is written backwards; the slash
    of the root stays. -/
def trimEndBackwards : List Char → List Char
  | '/' :: cs => if cs.isEmpty then ['/'] else trimEndBackwards cs
  | '.' :: '/' :: cs => if cs.isEmpty then ['/'] else trimEndBackwards cs
  | cs => cs

/-- The path without its last component. -/
def parent? (path : String) : Option String :=
  match (components path).getLast? with
  | none | some .root => none
  | some _ =>
    let backwards := trimEndBackwards path.toList.reverse
    let rest := trimEndBackwards (backwards.dropWhile (· != '/'))
    some (String.ofList rest.reverse)

/-- At most `n` paths around a path, the nearest first. -/
def parents : Nat → String → List String
  | 0, _ => []
  | n + 1, path =>
    match parent? path with
    | none => []
    | some p => p :: parents n p

/-- The paths around a path, the nearest first.  Each is shorter than the one before it. -/
def ancestors (path : String) : List String :=
  parents path.length path

/-! ## File names -/

/-- Splits a file name at its last dot into stem and extension.  A dot at the start of the
    name starts no extension. -/
def splitExtension (name : String) : String × Option String :=
  let backwards := name.toList.reverse
  let ext := backwards.takeWhile (· != '.')
  match backwards.drop ext.length with
  | [] => (name, none)
  | _ :: stem =>
    if stem.isEmpty || name == ".." then (name, none)
    else (String.ofList stem.reverse, some (String.ofList ext.reverse))

/-- The extension of the name at the end of a path. -/
def extension? (path : String) : Option String :=
  (fileName? path).bind fun name => (splitExtension name).2

/-- The file name with another extension.  What stands before the old extension keeps its
    dot, and `..` is no file name, so it takes no extension. -/
def setExtension (ext name : String) : String :=
  match splitExtension name with
  | (stem, some _) => if stem == "." then ".." else stem ++ "." ++ ext
  | (stem, none) => stem ++ "." ++ ext

end WidgetMarkup.Path
