import QueryAssist.Text.Quoted

/-!
# Failures

Only finding and loading the catalog can fail; everything that is asked at a position answers with
nothing instead.

## Main definitions

* `Failure` — what can go wrong
* `Failure.message` — the text that tells it
* `Catalog.pathVariable` — the environment variable that helps against a missing catalog
-/

namespace QueryAssist

/-- What can go wrong. -/
inductive Failure where
  /-- No catalog was found at any of the paths. -/
  | catalogNotFound (searched : List String)
  /-- The catalog at a path cannot be read. -/
  | catalogUnreadable (path reason : String)
  /-- Something happened that must not. -/
  | internal (reason : String)
deriving DecidableEq, Repr

/-- The name of the environment variable with the path at which the catalog is looked for first. -/
def Catalog.pathVariable : String := "KQL_SCHEMA_PATH"

/-- The text that tells what went wrong. -/
def Failure.message : Failure → String
  | catalogNotFound searched =>
    "Schema catalog not found. Searched paths: [" ++
      ", ".intercalate (searched.map Text.quoted) ++
      "]. Set " ++ Catalog.pathVariable ++ " to specify location."
  | catalogUnreadable path reason =>
    "Failed to load schema catalog from " ++ path ++ ": " ++ reason
  | internal reason => "Internal error: " ++ reason

end QueryAssist
