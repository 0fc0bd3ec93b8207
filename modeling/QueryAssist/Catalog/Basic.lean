import QueryAssist.SortedMap
import QueryAssist.Text.LetterCase

/-!
# The catalog of the query language

Everything that is known about the query language: its tables, operators, functions, resource
types and keywords, with their documentation.

## Main definitions

* `Catalog` — the catalog
* `Catalog.Table`, `Catalog.Entry`, `Catalog.ResourceType`, `Catalog.Keyword`, `Catalog.Example` —
  its parts
* `Catalog.addTable` and its kin — catalogs built up piece by piece
* `Catalog.normalized` — the catalog with keys in lower case and names filled in
-/

namespace QueryAssist

namespace Catalog

/-- An example query. -/
structure Example where
  /-- The text of the query. -/
  code : String
  /-- What it shows. -/
  description : Option String := none
deriving DecidableEq, Repr

/-- A table. -/
structure Table where
  /-- The name in the spelling of the catalog. -/
  name : String := ""
  /-- What the table holds. -/
  description : String := ""
  /-- The resource types stored in it. -/
  resourceTypes : List String := []
  /-- Example queries. -/
  examples : List Example := []
deriving DecidableEq, Repr

/-- The documentation of an operator or a function. -/
structure Entry where
  /-- The name as written in queries. -/
  name : String := ""
  /-- The group the entry belongs to. -/
  category : String := ""
  /-- What it does. -/
  description : Option String := none
  /-- How it is written. -/
  usage : Option String := none
  /-- Its parameters. -/
  parameters : Option String := none
  /-- What it gives. -/
  returns : Option String := none
  /-- Example queries. -/
  examples : List Example := []
  /-- Where more is to be read. -/
  referenceUrl : Option String := none
deriving DecidableEq, Repr

/-- A type of resources. -/
structure ResourceType where
  /-- The name shown to people. -/
  name : String := ""
  /-- The tables that hold such resources. -/
  tables : List String := []
deriving DecidableEq, Repr

/-- A keyword. -/
structure Keyword where
  /-- The word. -/
  name : String := ""
  /-- The group the keyword belongs to. -/
  category : String := ""
deriving DecidableEq, Repr

end Catalog

/-- A catalog. Tables stand under their names in lower case, resource types under identifiers. -/
structure Catalog where
  /-- The tables. -/
  tables : SortedMap Catalog.Table := ∅
  /-- The tabular operators. -/
  operators : List Catalog.Entry := []
  /-- The scalar and aggregate functions. -/
  functions : List Catalog.Entry := []
  /-- The resource types. -/
  resourceTypes : SortedMap Catalog.ResourceType := ∅
  /-- The keywords. -/
  keywords : List Catalog.Keyword := []

namespace Catalog

instance : EmptyCollection Catalog := ⟨{}⟩
instance : Inhabited Catalog := ⟨∅⟩

/-- Whether nothing is known. -/
def isEmpty (c : Catalog) : Bool :=
  c.tables.isEmpty && c.operators.isEmpty && c.functions.isEmpty && c.resourceTypes.isEmpty &&
    c.keywords.isEmpty

/-- Whether the entry is a function over a group of rows, which its category tells. -/
def Entry.isAggregate (e : Entry) : Bool :=
  "aggregat".toList.isPrefixOf (Text.lower e.category).toList

/-! ### Building catalogs -/

/-- Adds a table under its name in lower case. -/
def addTable (c : Catalog) (t : Table) : Catalog :=
  { c with tables := c.tables.insert (Text.lower t.name) t }

/-- Adds an operator behind the others. -/
def addOperator (c : Catalog) (e : Entry) : Catalog := { c with operators := c.operators ++ [e] }

/-- Adds a function behind the others. -/
def addFunction (c : Catalog) (e : Entry) : Catalog := { c with functions := c.functions ++ [e] }

/-- Adds a resource type under an identifier. -/
def addResourceType (c : Catalog) (id : String) (r : ResourceType) : Catalog :=
  { c with resourceTypes := c.resourceTypes.insert id r }

/-- Adds a keyword behind the others. -/
def addKeyword (c : Catalog) (k : Keyword) : Catalog := { c with keywords := c.keywords ++ [k] }

/-! ### Normal form -/

/-- The table with the name `key` if it has none. -/
def Table.named (t : Table) (key : String) : Table :=
  if t.name = "" then { t with name := key } else t

/-- The resource type with the name `key` if it has none. -/
def ResourceType.named (r : ResourceType) (key : String) : ResourceType :=
  if r.name = "" then { r with name := key } else r

/-- Puts tables under their keys in lower case, and gives tables and resource types without a name
their key as name. Of tables whose keys differ in case only, the one with the greatest key stays. -/
def normalized (c : Catalog) : Catalog :=
  { c with
    tables := c.tables.entries.foldl (fun m e => m.insert (Text.lower e.1) (e.2.named e.1)) ∅
    resourceTypes := c.resourceTypes.map fun key r => r.named key }

end Catalog

end QueryAssist
