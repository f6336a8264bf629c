/-
  Trees of files.

  A file tree holds directories and files.  The `Location` of an entry is the list
  of names on the way to it from the root, and entries are kept in the order of their
  locations: a directory comes before what is in it, and names are ordered character
  by character.  The root is no entry of its own; it is always there.  Relative paths
  are looked up from the current directory, and `..` leads out of the directory that
  was reached before it, unless that is the root.

  * `makeDirectory` creates one directory, `createAll` a directory with all those
    around it; `readDirectory` lists a directory, `read` and `write` deal with the
    content of a file.
  * `FileError` lists the ways in which they fail.

  Nothing else goes wrong with a file tree.  There are no permissions and no full disks,
  and a file that could be opened is read or written in full.  There are no links, so an
  entry has one location, and names are texts: those that are not UTF-8 are left out.
-/
import WidgetMarkup.Files.Path

namespace WidgetMarkup

/-- Why a file operation failed. -/
inductive FileError where
  | notFound
  | alreadyExists
  | notDirectory
  | isDirectory
  | nameTooLong
  /-- A path contains the character NUL. -/
  | nulInPath
  /-- The content of a file is not valid UTF-8. -/
  | notText
deriving DecidableEq

/-- The wording of a file error. -/
def FileError.message : FileError → String
  | .notFound => "No such file or directory (os error 2)"
  | .alreadyExists => "File exists (os error 17)"
  | .notDirectory => "Not a directory (os error 20)"
  | .isDirectory => "Is a directory (os error 21)"
  | .nameTooLong => "File name too long (os error 36)"
  | .nulInPath => "file name contained an unexpected NUL byte"
  | .notText => "stream did not contain valid UTF-8"

/-- The names on the way from the root to an entry. -/
abbrev Location := List String

/-- An entry of a file tree. -/
inductive Entry where
  | directory
  | file (content : ByteArray)

/-- Whether an entry is a directory. -/
def Entry.isDirectory : Entry → Bool
  | .directory => true
  | .file _ => false

/-- A tree of files. -/
structure FileTree where
  /-- The entries in the order of their locations. -/
  entries : List (Location × Entry) := []
  /-- The location of the current directory. -/
  current : Location := []

namespace FileTree

/-! ## Entries -/

/-- The entry at a location.  The root is a directory. -/
def get? (files : FileTree) (loc : Location) : Option Entry :=
  if loc = [] then some .directory else files.entries.lookup loc

/-- Puts an entry into an ordered list, in the place of one at the same location. -/
def putEntry (loc : Location) (e : Entry) : List (Location × Entry) → List (Location × Entry)
  | [] => [(loc, e)]
  | (loc', e') :: rest =>
    if loc = loc' then (loc, e) :: rest
    else if loc < loc' then (loc, e) :: (loc', e') :: rest
    else (loc', e') :: putEntry loc e rest

/-- Puts an entry at a location. -/
def put (files : FileTree) (loc : Location) (e : Entry) : FileTree :=
  { files with entries := putEntry loc e files.entries }

/-- The names in a directory with their entries, in order. -/
def list (files : FileTree) (dir : Location) : List (String × Entry) :=
  files.entries.filterMap fun (loc, e) =>
    match loc.getLast? with
    | some name => if loc.dropLast = dir then some (name, e) else none
    | none => none

/-- The greatest number of names on the way to an entry. -/
def depth (files : FileTree) : Nat :=
  files.entries.foldl (fun n (loc, _) => max n loc.length) 0

/-- The entries below the current directory with their locations seen from there, in
    order. -/
def inside (files : FileTree) : List (Location × Entry) :=
  files.entries.filterMap fun (loc, e) =>
    if files.current.isPrefixOf loc && loc != files.current then
      some (loc.drop files.current.length, e)
    else none

/-! ## Looking up paths -/

/-- The greatest number of bytes of a name. -/
def maxNameBytes : Nat := 255

/-- The greatest number of bytes of a path. -/
def maxPathBytes : Nat := 4095

/-- Why a path cannot be looked up, whatever files there are. -/
def pathError? (path : String) : Option FileError :=
  if path.toList.contains '\x00' then some .nulInPath
  else if path.isEmpty then some .notFound
  else if maxPathBytes < path.utf8ByteSize then some .nameTooLong
  else none

/-- Where the parts of a path start. -/
def startOf (files : FileTree) (path : String) : Location :=
  if path.toList.head? == some '/' then [] else files.current

/-- Follows the parts of a path from a location.  Every part is looked up in a directory;
    the last one need not be there. -/
def follow (files : FileTree) (loc : Location) : List String → Except FileError Location
  | [] => .ok loc
  | part :: parts =>
    match files.get? loc with
    | none => .error .notFound
    | some (.file _) => .error .notDirectory
    | some .directory =>
      if part == "" || part == "." then files.follow loc parts
      else if part == ".." then files.follow loc.dropLast parts
      else if maxNameBytes < part.utf8ByteSize then .error .nameTooLong
      else files.follow (loc ++ [part]) parts

/-- The location that a path leads to; there need not be an entry. -/
def locate (files : FileTree) (path : String) : Except FileError Location :=
  files.follow (files.startOf path) (Path.parts path)

/-- The location and the entry that a path leads to. -/
def find (files : FileTree) (path : String) : Except FileError (Location × Entry) :=
  match pathError? path with
  | some e => .error e
  | none =>
    match files.locate path with
    | .error e => .error e
    | .ok loc =>
      match files.get? loc with
      | some e => .ok (loc, e)
      | none => .error .notFound

/-- Whether a path leads to a directory. -/
def hasDirectory (files : FileTree) (path : String) : Bool :=
  match files.find path with
  | .ok (_, e) => e.isDirectory
  | .error _ => false

/-- The parts of a path without empty ones at its end. -/
def partsToEntry (path : String) : List String :=
  ((Path.parts path).reverse.dropWhile (·.isEmpty)).reverse

/-- The directory that a path leads through and the last part of the path. -/
def findParent (files : FileTree) (path : String) : Except FileError (Location × String) :=
  match pathError? path, (partsToEntry path).getLast? with
  | some e, _ => .error e
  | none, none => .error .alreadyExists
  | none, some last =>
    match files.follow (files.startOf path) (partsToEntry path).dropLast with
    | .error e => .error e
    | .ok loc =>
      match files.get? loc with
      | none => .error .notFound
      | some (.file _) => .error .notDirectory
      | some .directory =>
        if maxNameBytes < last.utf8ByteSize then .error .nameTooLong else .ok (loc, last)

/-! ## Operations -/

/-- Creates one directory. -/
def makeDirectory (files : FileTree) (path : String) : Except FileError FileTree :=
  match files.findParent path with
  | .error e => .error e
  | .ok (loc, last) =>
    if last == "." || last == ".." || (files.get? (loc ++ [last])).isSome then .error .alreadyExists
    else .ok (files.put (loc ++ [last]) .directory)

/-- Creates one directory, unless it is there already. -/
def ensureDirectory (files : FileTree) (path : String) : FileTree × Except FileError Unit :=
  match files.makeDirectory path with
  | .ok files => (files, .ok ())
  | .error e => (files, if files.hasDirectory path then .ok () else .error e)

/-- Creates the first directory of a list, unless it is there already; those behind it in
    the list are the ones around it, the nearest first, and are created before it if they
    are missing.  Gives the files as they are then, and the error if one stops it. -/
def createChain (files : FileTree) : List String → FileTree × Except FileError Unit
  | [] => (files, .error .notFound)
  | path :: around =>
    if (Path.components path).isEmpty then (files, .ok ())
    else
      match files.ensureDirectory path with
      | (files, .error .notFound) =>
        match files.createChain around with
        | (files, .error e) => (files, .error e)
        | (files, .ok ()) => files.ensureDirectory path
      | result => result

/-- Creates a directory and those around it that are missing. -/
def createAll (files : FileTree) (path : String) : FileTree × Except FileError Unit :=
  files.createChain (path :: Path.ancestors path)

/-- The names in the directory that a path leads to, with their entries, in order. -/
def readDirectory (files : FileTree) (path : String) : Except FileError (List (String × Entry)) :=
  match files.find path with
  | .error e => .error e
  | .ok (_, .file _) => .error .notDirectory
  | .ok (loc, .directory) => .ok (files.list loc)

/-- The content of a file. -/
def read (files : FileTree) (path : String) : Except FileError ByteArray :=
  match files.find path with
  | .error e => .error e
  | .ok (_, .directory) => .error .isDirectory
  | .ok (_, .file content) => .ok content

/-- The content of a file as text. -/
def readText (files : FileTree) (path : String) : Except FileError String :=
  match files.read path with
  | .error e => .error e
  | .ok content =>
    match String.fromUTF8? content with
    | some s => .ok s
    | none => .error .notText

/-- Writes a file, in the place of one that is there already. -/
def write (files : FileTree) (path : String) (content : ByteArray) : Except FileError FileTree :=
  match files.findParent path with
  | .error e => .error e
  | .ok (loc, last) =>
    if last == "." || last == ".." || path.toList.getLast? == some '/' then .error .isDirectory
    else
      match files.get? (loc ++ [last]) with
      | some .directory => .error .isDirectory
      | _ => .ok (files.put (loc ++ [last]) (.file content))

/-- Writes a file after creating the directories around it that are missing. -/
def writeAll (files : FileTree) (path : String) (content : ByteArray) :
    FileTree × Except FileError Unit :=
  match files.createAll ((Path.parent? path).getD "") with
  | (files, .error e) => (files, .error e)
  | (files, .ok ()) =>
    match files.write path content with
    | .ok files => (files, .ok ())
    | .error e => (files, .error e)

/-- Removes an entry and all that is in it. -/
def remove (files : FileTree) (path : String) : Except FileError FileTree :=
  match files.find path with
  | .error e => .error e
  | .ok (loc, _) =>
    .ok { files with entries := files.entries.filter fun (loc', _) => !loc.isPrefixOf loc' }

end FileTree

end WidgetMarkup
