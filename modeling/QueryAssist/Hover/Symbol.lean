import QueryAssist.Catalog.Lookup
import QueryAssist.Line.Token

/-!
# What a name stands for

A name is looked up in several parts of the catalog. In front of a parenthesis it is taken for a
function first; elsewhere it is taken for an operator first, and may also be a table or a resource
type. A name with `!` or `~` that is found nowhere is looked up without them.

## Main definitions

* `Hover.Symbol` — a documented thing
* `Hover.Symbol.resolve?` — the thing that a token stands for
-/

namespace QueryAssist.Hover

/-- A documented thing. -/
inductive Symbol where
  /-- A function. -/
  | function (e : Catalog.Entry)
  /-- An operator. -/
  | operator (e : Catalog.Entry)
  /-- A keyword. -/
  | keyword (k : Catalog.Keyword)
  /-- A table. -/
  | table (t : Catalog.Table)
  /-- A resource type with its identifier. -/
  | resourceType (id : String) (r : Catalog.ResourceType)
deriving DecidableEq, Repr

namespace Symbol

/-- The name of the thing; for a resource type, its identifier. -/
def name : Symbol → String
  | function e => e.name
  | operator e => e.name
  | keyword k => k.name
  | table t => t.name
  | resourceType id _ => id

/-- The thing with a name in front of a parenthesis. -/
def ofCall? (c : Catalog) (name : String) : Option Symbol :=
  ((c.findFunction? name).map function).or
    (((c.findOperator? name).map operator).or ((c.findKeyword? name).map keyword))

/-- The thing with a name that no parenthesis follows. -/
def ofName? (c : Catalog) (name : String) : Option Symbol :=
  ((c.findOperator? name).map operator).or
    (((c.findKeyword? name).map keyword).or
      (((c.findFunction? name).map function).or
        (((c.findTable? name).map table).or
          ((c.findResourceType? name).map fun e => resourceType e.1 e.2))))

/-- The thing that a token stands for, given the text behind it. -/
def resolve? (c : Catalog) (token : String) (after : List Char) : Option Symbol :=
  let lookUp := if after.head? = some '(' then ofCall? c else ofName? c
  (lookUp token).or (lookUp (Token.stripDecoration token))

end Symbol

end QueryAssist.Hover
