import QueryAssist.Decimal.Notation
import QueryAssist.Hover.Symbol

/-!
# Hover cards

The documentation of a thing as a piece of Markdown: a heading and sections with an empty line
between any two.

## Main definitions

* `Hover.Card.ofEntry`, `ofKeyword`, `ofTable`, `ofResourceType` — the cards
-/

namespace QueryAssist.Hover.Card

/-- Sections with an empty line between any two. -/
def sections (parts : List String) : String := "\n\n".intercalate parts

/-- The heading: the name, and below it what it names and the group it belongs to. -/
def heading (name what group : String) : String :=
  "### " ++ name ++ "\n\n*" ++ what ++ (if group = "" then "" else " · " ++ group) ++ "*"

/-- A query set as code. -/
def codeBlock (code : String) : String := "```kusto\n" ++ code ++ "\n```"

/-- The section with examples, each behind what it shows. -/
def exampleSection (examples : List Catalog.Example) : List String :=
  if examples.isEmpty then []
  else
    let blocks := examples.flatMap fun e => e.description.toList ++ [codeBlock e.code]
    [sections ("**Examples**" :: blocks)]

/-- A section with a title, if there is something to put into it. -/
def titled (title : String) (body : Option String) : List String :=
  body.toList.map fun b => title ++ "\n\n" ++ b

/-- The card of an operator or a function. -/
def ofEntry (e : Catalog.Entry) (what : String) : String :=
  sections <|
    [heading e.name what e.category] ++ e.description.toList ++
      titled "**Syntax**" (e.usage.map codeBlock) ++ titled "**Parameters**" e.parameters ++
      titled "**Returns**" e.returns ++ exampleSection e.examples ++
      e.referenceUrl.toList.map fun url => "[Reference](" ++ url ++ ")"

/-- The card of a keyword. -/
def ofKeyword (k : Catalog.Keyword) : String := heading k.name "Keyword" k.category

/-- The card of a resource type. -/
def ofResourceType (id : String) (r : Catalog.ResourceType) : String :=
  sections <|
    [heading r.name "Resource type" "", "`" ++ id ++ "`"] ++
      (if r.tables.isEmpty then [] else ["**Tables**: " ++ ", ".intercalate r.tables])

/-- The largest number of resource types on the card of a table. -/
def maxResourceTypes : Nat := 10

/-- The list of the resource types of a table. If there are too many, the rest is counted. -/
def resourceTypeSection (ids : List String) : List String :=
  if ids.isEmpty then []
  else
    let shown := (ids.take maxResourceTypes).map fun id => "\n- `" ++ id ++ "`"
    let more := ids.length - maxResourceTypes
    let rest := if more = 0 then "" else "\n- ...and " ++ Decimal.digitText more ++ " more"
    ["**Resource types**\n" ++ String.join shown ++ rest]

/-- The card of a table with the given examples. The resource types are those that the table
itself names, or else those that the catalog stores in it. -/
def ofTable (c : Catalog) (t : Catalog.Table) (codes : List String) : String :=
  let ids := if t.resourceTypes.isEmpty then (c.resourceTypesOf t.name).map (·.1)
    else t.resourceTypes
  sections <|
    [heading t.name "Table" ""] ++ (if t.description = "" then [] else [t.description]) ++
      resourceTypeSection ids ++ exampleSection (codes.map fun code => ⟨code, none⟩)

end QueryAssist.Hover.Card
