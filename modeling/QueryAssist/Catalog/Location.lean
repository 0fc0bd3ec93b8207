import QueryAssist.Catalog.Document
import QueryAssist.Catalog.Files
import QueryAssist.Failure

/-!
# Finding and loading the catalog

The catalog is a file. It is looked for at the configured path, which may also be a directory that
holds it, then at the places where it is shipped, and at last in the working directory.

## Main definitions

* `Catalog.Places`, `Catalog.candidatePaths` — the paths that are searched, in order
* `Catalog.findPath?` — the first of them that is a file
* `Catalog.load`, `Catalog.loadDefault` — the catalog in a file
-/

namespace QueryAssist.Catalog

/-- The name of the file that holds a catalog. -/
def fileName : String := "schema.json"

/-- The path of a file in a directory. -/
def joinPath (directory file : String) : String :=
  if directory = "" ∨ directory.toList.getLast? = some '/' then directory ++ file
  else directory ++ "/" ++ file

/-- Where a catalog may be. -/
structure Places where
  /-- The value of the environment variable `pathVariable`, if it is set. -/
  configured : Option String
  /-- The directory of the running program, if it is known. -/
  programDirectory : Option String
  /-- The directory that the assistant is installed in. -/
  installDirectory : String

/-- The path of the catalog that is shipped in a directory. -/
def shippedIn (directory : String) : String := joinPath (joinPath directory "resources") fileName

/-- The paths that are searched: the configured path, the catalog in the directory with that path,
the catalogs shipped with the running program and with the assistant, and the one in the working
directory. -/
def candidatePaths (places : Places) : List String :=
  (match places.configured with
    | some path => [path, joinPath path fileName]
    | none => []) ++
  (places.programDirectory.toList ++ [places.installDirectory]).map shippedIn ++ [fileName]

/-- The first of the paths at which there is a file. -/
def findPath? (files : Files) (paths : List String) : Option String :=
  paths.find? fun p => (files p).isSome

/-- The catalog in the file at a path. The file must hold UTF-8. -/
def load (files : Files) (path : String) : Except Failure Catalog :=
  match files path with
  | none => .error (.catalogUnreadable path "there is no such file")
  | some bytes =>
    match String.fromUTF8? bytes with
    | none => .error (.catalogUnreadable path "the file is not valid UTF-8")
    | some document =>
      match ofDocument document with
      | .error fault => .error (.catalogUnreadable path fault.message)
      | .ok c => .ok c

/-- The catalog in the first file found. -/
def loadDefault (files : Files) (paths : List String) : Except Failure Catalog :=
  match findPath? files paths with
  | none => .error (.catalogNotFound paths)
  | some path => load files path

end QueryAssist.Catalog
