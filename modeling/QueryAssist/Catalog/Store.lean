import QueryAssist.Catalog.Location

/-!
# The catalog in force

A store holds the catalog in force, and the path of the file it comes from, if it comes from one.
A catalog that cannot be loaded counts as empty.

## Main definitions

* `Store` — the store
* `Store.ofFile`, `Store.discover` — stores that come from a file
* `Store.reload`, `Store.replace` — changes of the catalog
-/

namespace QueryAssist

/-- The catalog in force. -/
structure Store where
  /-- The catalog. -/
  catalog : Catalog := ∅
  /-- The path it is loaded from. -/
  source : Option String := none

namespace Store

open Catalog (Files)

instance : EmptyCollection Store := ⟨{}⟩
instance : Inhabited Store := ⟨∅⟩

/-- The catalog in a file, or the empty one if it cannot be loaded. -/
def loadOrEmpty (files : Files) (path : String) : Catalog :=
  match Catalog.load files path with
  | .ok c => c
  | .error _ => ∅

/-- The store of a catalog that comes from no file. -/
def ofCatalog (c : Catalog) : Store := { catalog := c }

/-- The store of the catalog in a file. -/
def ofFile (files : Files) (path : String) : Store := ⟨loadOrEmpty files path, some path⟩

/-- The store of the catalog in the first file found, or the empty store. -/
def discover (files : Files) (paths : List String) : Store :=
  match Catalog.findPath? files paths with
  | some path => ofFile files path
  | none => ∅

/-- Loads the catalog again. A store without a file keeps its catalog. -/
def reload (files : Files) (s : Store) : Store :=
  match s.source with
  | some path => { s with catalog := loadOrEmpty files path }
  | none => s

/-- Puts another catalog in force. -/
def replace (s : Store) (c : Catalog) : Store := { s with catalog := c }

end Store

end QueryAssist
