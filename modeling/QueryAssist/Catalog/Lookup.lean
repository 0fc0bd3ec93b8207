import QueryAssist.Catalog.Basic

/-!
# Looking names up in the catalog

Tables are found by their name in lower case, in any script. All other names are compared up to
the case of ASCII letters, and of several that fit the first one is found.

## Main definitions

* `Catalog.findTable?`, `findOperator?`, `findFunction?`, `findKeyword?`, `findResourceType?`
* `Catalog.resourceTypesOf` — the resource types stored in a table
-/

namespace QueryAssist.Catalog

variable (c : Catalog) (name : String)

/-- The table with a name. -/
def findTable? : Option Table := c.tables.get? (Text.lower name)

/-- The operator with a name. -/
def findOperator? : Option Entry :=
  c.operators.find? fun e => Text.sameIgnoringAsciiCase e.name name

/-- The function with a name. -/
def findFunction? : Option Entry :=
  c.functions.find? fun e => Text.sameIgnoringAsciiCase e.name name

/-- The keyword with a name. -/
def findKeyword? : Option Keyword :=
  c.keywords.find? fun k => Text.sameIgnoringAsciiCase k.name name

/-- The resource type with an identifier, or else with a name shown to people, together with its
identifier. -/
def findResourceType? : Option (String × ResourceType) :=
  (c.resourceTypes.entries.find? fun e => Text.sameIgnoringAsciiCase e.1 name).or
    (c.resourceTypes.entries.find? fun e => Text.sameIgnoringAsciiCase e.2.name name)

/-- Whether resources of the type are stored in the table `table`. -/
def ResourceType.isStoredIn (r : ResourceType) (table : String) : Bool :=
  r.tables.any fun t => Text.sameIgnoringAsciiCase t table

/-- The resource types stored in a table, with their identifiers. -/
def resourceTypesOf (table : String) : List (String × ResourceType) :=
  c.resourceTypes.entries.filter fun e => e.2.isStoredIn table

end QueryAssist.Catalog
