import QueryAssist.Catalog.Basic
import QueryAssist.Json.Decoder

/-!
# Catalogs as JSON documents

A catalog is written as one object. Reading is more liberal than writing: some fields have a second
key, most may be absent, a record may be an array of its fields, and an example may be any value.

## Main definitions

* `Catalog.ofDocument` — the normal form of the catalog in a document
* `Catalog.toJson` — the JSON value of a catalog
-/

namespace QueryAssist.Catalog

open Json (Decoder Field)

/-! ### Reading -/

/-- The example that a value stands for: a text is the query, an object may hold it under `code`,
and of anything else the written form is the query. -/
def Example.ofJson (v : Json) : Example :=
  match v.text?, (v.field? "code").bind Json.text? with
  | some code, _ => ⟨code, none⟩
  | none, some code => ⟨code, (v.field? "description").bind Json.text?⟩
  | none, none => ⟨v.render, none⟩

/-- Reads an example. -/
def Example.decoder : Decoder Example := fun depth => do
  return Example.ofJson (← Decoder.value depth)

/-- Reads a table. -/
def Table.decoder : Decoder Table :=
  .record
    [.default "name" .text fun t v => { t with name := v },
     .default "description" .text fun t v => { t with description := v },
     (Field.default "resourceTypes" (.list .text) fun t v => { t with resourceTypes := v }).orKey
       "resourceTypeNames",
     .default "examples" (.list Example.decoder) fun t v => { t with examples := v }]
    {}

/-- Reads the documentation of an operator or a function. -/
def Entry.decoder : Decoder Entry :=
  .record
    [(Field.default "name" .text fun e v => { e with name := v }).require,
     .default "category" .text fun e v => { e with category := v },
     .default "description" (.optional .text) fun e v => { e with description := v },
     .default "syntax" (.optional .text) fun e v => { e with usage := v },
     (Field.default "parametersDoc" (.optional .text) fun e v => { e with parameters := v }).orKey
       "parameters",
     (Field.default "returnsDoc" (.optional .text) fun e v => { e with returns := v }).orKey
       "returns",
     .default "examples" (.list Example.decoder) fun e v => { e with examples := v },
     (Field.default "referenceUrl" (.optional .text) fun e v => { e with referenceUrl := v }).orKey
       "url"]
    {}

/-- Reads a resource type. -/
def ResourceType.decoder : Decoder ResourceType :=
  .record
    [.default "name" .text fun r v => { r with name := v },
     .default "tables" (.list .text) fun r v => { r with tables := v }]
    {}

/-- Reads a keyword. -/
def Keyword.decoder : Decoder Keyword :=
  .record
    [(Field.default "name" .text fun k v => { k with name := v }).require,
     .default "category" .text fun k v => { k with category := v }]
    {}

/-- Reads a catalog as it is written. -/
def decoder : Decoder Catalog :=
  .record
    [.default "tables" (.map Table.decoder) fun c v => { c with tables := v },
     .default "operators" (.list Entry.decoder) fun c v => { c with operators := v },
     .default "functions" (.list Entry.decoder) fun c v => { c with functions := v },
     .default "resourceTypes" (.map ResourceType.decoder) fun c v => { c with resourceTypes := v },
     .default "keywords" (.list Keyword.decoder) fun c v => { c with keywords := v }]
    ∅

/-- The catalog in a document, in normal form. -/
def ofDocument (document : String) : Except Json.Fault Catalog :=
  (decoder.decode document).map normalized

/-! ### Writing -/

/-- The field with an optional text, if there is one. -/
def optionalField (key : String) (value : Option String) : List (String × Json) :=
  match value with
  | some s => [(key, .text s)]
  | none => []

/-- The JSON value of an example. -/
def Example.toJson (e : Example) : Json :=
  .ofFields (("code", .text e.code) :: optionalField "description" e.description)

/-- The JSON value of a table. -/
def Table.toJson (t : Table) : Json :=
  .ofFields
    [("name", .text t.name), ("description", .text t.description),
     ("resourceTypes", .array (t.resourceTypes.map .text)),
     ("examples", .array (t.examples.map Example.toJson))]

/-- The JSON value of the documentation of an operator or a function. -/
def Entry.toJson (e : Entry) : Json :=
  .ofFields
    ([("name", .text e.name), ("category", .text e.category)] ++
      optionalField "description" e.description ++ optionalField "syntax" e.usage ++
      optionalField "parametersDoc" e.parameters ++ optionalField "returnsDoc" e.returns ++
      [("examples", .array (e.examples.map Example.toJson))] ++
      optionalField "referenceUrl" e.referenceUrl)

/-- The JSON value of a resource type. -/
def ResourceType.toJson (r : ResourceType) : Json :=
  .ofFields [("name", .text r.name), ("tables", .array (r.tables.map .text))]

/-- The JSON value of a keyword. -/
def Keyword.toJson (k : Keyword) : Json :=
  .ofFields [("name", .text k.name), ("category", .text k.category)]

/-- The JSON value of a catalog. -/
def toJson (c : Catalog) : Json :=
  .ofFields
    [("tables", .object (c.tables.map fun _ t => t.toJson).entries),
     ("operators", .array (c.operators.map Entry.toJson)),
     ("functions", .array (c.functions.map Entry.toJson)),
     ("resourceTypes", .object (c.resourceTypes.map fun _ r => r.toJson).entries),
     ("keywords", .array (c.keywords.map Keyword.toJson))]

end QueryAssist.Catalog
