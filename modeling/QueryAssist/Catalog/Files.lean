import QueryAssist.Text.Lines

/-!
# Files and the paths that lead to them

A path is a walk from the outermost directory, one name after another. An empty name and `.` stay
where they are and `..` goes back, so several paths lead to one file; but every name on the way
starts from a directory, and a path with a name behind a file leads nowhere.

## Main definitions

* `Catalog.Files` — the files that can be read
* `Catalog.FileTree` — files in directories
* `Catalog.FileTree.toFiles` — the file at the end of a path
-/

namespace QueryAssist.Catalog

/-- The contents of the files that can be read, by path. -/
abbrev Files := String → Option ByteArray

/-- The names in a path, which stand between its slashes. -/
def pathNames (path : String) : List String :=
  (Text.piecesBetween '/' path.toList).map String.ofList

/-- Files in directories. A place in the tree is given by the names on the way to it, and the
directories are the places on the way to a file. -/
structure FileTree where
  /-- The files with their places. -/
  files : List (List String × ByteArray)

namespace FileTree

/-- The place that a name leads to. The directory around the outermost one is the outermost one. -/
def step (place : List String) (name : String) : List String :=
  if name = "" ∨ name = "." then place
  else if name = ".." then place.dropLast
  else place ++ [name]

/-- The tree with the given files. A file takes the place of those before it with the same path. -/
def ofList (l : List (String × ByteArray)) : FileTree :=
  ⟨l.reverse.map fun (path, bytes) => ((pathNames path).foldl step [], bytes)⟩

/-- Whether there is a directory at a place. -/
def isDirectory (t : FileTree) (place : List String) : Bool :=
  place.isEmpty || t.files.any fun (file, _) => place.isPrefixOf file && place != file

/-- The place that names lead to, one after another, from directory to directory. -/
def walk? (t : FileTree) (place : List String) : List String → Option (List String)
  | [] => some place
  | name :: names => if t.isDirectory place then t.walk? (step place name) names else none

/-- The file at the end of a path. -/
def toFiles (t : FileTree) : Files := fun path =>
  (t.walk? [] (pathNames path)).bind fun place => t.files.lookup place

end FileTree

end QueryAssist.Catalog
