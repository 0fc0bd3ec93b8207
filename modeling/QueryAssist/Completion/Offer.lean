import QueryAssist.Completion.Item

/-!
# The offer at a position

Of the items of all sources, those that contain the word being typed, one for each label, in groups
and alphabetically within a group. Case does not matter.

## Main definitions

* `Completion.candidates` — the items that contain the word being typed
* `Completion.offer` — the items that are offered
* `Completion.Request` — an offer that is worked out when it is first asked for
-/

namespace QueryAssist.Completion

/-- Whether `s` contains `needle` without a gap. -/
def containsText (needle s : List Char) : Bool :=
  match s with
  | [] => needle.isEmpty
  | _ :: rest => needle.isPrefixOf s || containsText needle rest

namespace Item

/-- The label in lower case, up to which items are the same. -/
def key (i : Item) : String := Text.lower i.label

/-- Whether the label or the remark contains `needle`, both in lower case. -/
def mentions (needle : String) (i : Item) : Bool :=
  needle.isEmpty || containsText needle.toList (Text.lower i.label).toList ||
    containsText needle.toList (Text.lower i.detail).toList

/-- The order of the offer: by group, then by the label in lower case. -/
def precedes (a b : Item) : Bool :=
  a.tier.rank < b.tier.rank || (a.tier.rank == b.tier.rank && decide (a.key ≤ b.key))

end Item

/-- The items of all sources, in the order of the sources. -/
def allItems (c : Catalog) (properties : List String) (q : Query) : List Item :=
  (sources q.context).flatMap (sourceItems c properties q)

/-- The items that contain the word being typed. -/
def candidates (c : Catalog) (properties : List String) (q : Query) : List Item :=
  (allItems c properties q).filter (·.mentions (Text.lower q.partialWord))

/-- Keeps the first item of every label that is not among `seen`. -/
def firstOfEach : (seen : List String) → List Item → List Item
  | _, [] => []
  | seen, i :: rest =>
    if seen.contains i.key then firstOfEach seen rest else i :: firstOfEach (i.key :: seen) rest

/-- The items that are offered. -/
def offer (c : Catalog) (properties : List String) (q : Query) : List Item :=
  -- sorting comes first, so that of equal labels the one in the best group stays
  firstOfEach [] ((candidates c properties q).mergeSort Item.precedes)

/-- A request for completions. It keeps the catalog it was made with; the items are worked out when
the first one is asked for. -/
structure Request where
  /-- The catalog at the time of the request. -/
  catalog : Catalog
  /-- The properties that are offered. -/
  properties : List String
  /-- What is asked. -/
  query : Query
  /-- The items that have not been given yet, once they are known. -/
  remaining : Option (List Item) := none

namespace Request

/-- The items that are still to be given. -/
def items (r : Request) : List Item := r.remaining.getD (offer r.catalog r.properties r.query)

/-- The next item, and the request without it. -/
def next (r : Request) : Option Item × Request :=
  match r.items with
  | [] => (none, { r with remaining := some [] })
  | i :: rest => (some i, { r with remaining := some rest })

/-- The request when all its items have been given. -/
def exhausted (r : Request) : Request := { r with remaining := some [] }

end Request

end QueryAssist.Completion
