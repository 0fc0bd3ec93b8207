import QueryAssist.Catalog.Lookup
import QueryAssist.Line.Context

/-!
# Completion items

What can be offered at a position, and where it is taken from.

## Main definitions

* `Completion.Item` — an offered name, with its `Kind` and its `Tier`
* `Completion.Source` — a part of the catalog that items are taken from
* `Completion.sources` — the sources for a kind of position
* `Completion.Query` — what an offer depends on
* `Completion.sourceItems` — all items of a source
-/

namespace QueryAssist.Completion

/-- The kind of thing an item names. -/
inductive Kind where
  /-- A keyword. -/
  | keyword
  /-- A scalar function. -/
  | function
  /-- A function over a group of rows. -/
  | aggregateFunction
  /-- A table. -/
  | table
  /-- A property. -/
  | property
  /-- A tabular operator. -/
  | operator
  /-- A resource type. -/
  | resourceType
deriving DecidableEq, Repr

/-- The written name of a kind. -/
def Kind.name : Kind → String
  | keyword => "Keyword"
  | function => "Function"
  | aggregateFunction => "AggregateFunction"
  | table => "Table"
  | property => "Property"
  | operator => "Operator"
  | resourceType => "ResourceType"

/-- The groups in which items are offered. -/
inductive Tier where
  /-- The word that has to come next. -/
  | continuation
  /-- Tables. -/
  | table
  /-- Operators. -/
  | operator
  /-- Functions. -/
  | function
  /-- Properties. -/
  | property
  /-- Resource types. -/
  | resourceType
  /-- Keywords. -/
  | keyword
deriving DecidableEq, Repr

namespace Tier

/-- The place of a group in the offer. -/
def rank : Tier → Nat
  | continuation => 0
  | table => 1
  | operator => 2
  | function => 3
  | property => 4
  | resourceType => 5
  | keyword => 6

/-- The written name of a group. -/
def name : Tier → String
  | continuation => "Continuation"
  | table => "Table"
  | operator => "Operator"
  | function => "Function"
  | property => "Property"
  | resourceType => "ResourceType"
  | keyword => "Keyword"

end Tier

/-- An offered name. -/
structure Item where
  /-- The name that is shown. -/
  label : String
  /-- What it names. -/
  kind : Kind
  /-- A remark on it. -/
  detail : String
  /-- The text that is inserted. -/
  insertText : String
  /-- The group it is offered in. -/
  tier : Tier
deriving DecidableEq, Repr

/-- An item that inserts its label. -/
def Item.plain (label : String) (kind : Kind) (detail : String) (tier : Tier) : Item :=
  ⟨label, kind, detail, label, tier⟩

/-- What an offer depends on. -/
structure Query where
  /-- What is expected at the position. -/
  context : Context
  /-- The table in force. -/
  tableScope : Option String := none
  /-- The word being typed. -/
  partialWord : String := ""
  /-- Whether the position is inside a string literal. -/
  insideQuotes : Bool := false
deriving DecidableEq, Repr

/-- Where items are taken from. -/
inductive Source where
  /-- The word that has to come next. -/
  | continuation
  /-- The tables of the catalog. -/
  | tables
  /-- The operators of the catalog. -/
  | operators
  /-- The functions of the catalog. -/
  | functions
  /-- The properties of the settings. -/
  | properties
  /-- The resource types of the catalog, those of the table in force if there is one. -/
  | resourceTypes
  /-- The keywords of the catalog. -/
  | keywords
deriving DecidableEq, Repr

/-- The sources for a kind of position, in the order in which they are asked. -/
def sources : Context → List Source
  | .startOfStatement => [.tables, .operators]
  | .afterPipe => [.operators]
  | .orderBy => [.continuation, .properties]
  | .resourceTypeLiteral => [.resourceTypes]
  | .propertyList => [.properties, .functions, .resourceTypes]
  | .functionArgument => [.keywords, .properties, .functions]
  | .other => [.keywords, .operators, .functions, .properties]

/-- The item for a resource type; its identifier is put in quotes unless there is one already. -/
def resourceTypeItem (insideQuotes : Bool) (id : String) (r : Catalog.ResourceType) : Item where
  label := id
  kind := .resourceType
  detail := r.name
  insertText := if insideQuotes then id else "'" ++ id ++ "'"
  tier := .resourceType

/-- All items of a source. -/
def sourceItems (c : Catalog) (properties : List String) (q : Query) : Source → List Item
  | .continuation =>
    [.plain "by" .keyword (((c.findKeyword? "by").map (·.category)).getD "Keyword") .continuation]
  | .tables =>
    c.tables.values.map fun t =>
      .plain t.name .table (if t.description = "" then "Table" else t.description) .table
  | .operators => c.operators.map fun e => .plain e.name .operator e.category .operator
  | .functions =>
    c.functions.map fun e =>
      .plain e.name (if e.isAggregate then .aggregateFunction else .function) e.category .function
  | .properties => properties.map fun p => .plain p .property "Property" .property
  | .resourceTypes =>
    let offered := match q.tableScope with
      | some table => c.resourceTypesOf table
      | none => c.resourceTypes.entries
    offered.map fun e => resourceTypeItem q.insideQuotes e.1 e.2
  | .keywords => c.keywords.map fun k => .plain k.name .keyword k.category .keyword

end QueryAssist.Completion
