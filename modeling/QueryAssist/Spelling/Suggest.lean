import QueryAssist.Spelling.Distance

/-!
# Spelling suggestions

For an unknown name, the known names that are close to it, the closest first. Names that differ in
case only are one suggestion.

## Main definitions

* `Spelling.suggestBy` — the suggestions for a given notion of closeness
* `Spelling.suggest` — the suggestions whose similarity is above a threshold
-/

namespace QueryAssist.Spelling

/-- A known name that may be meant, with what its place among the suggestions depends on. -/
structure Scored where
  /-- The edit distance to the unknown name, both in lower case. -/
  distance : Nat
  /-- The name in lower case. -/
  lowered : String
  /-- The name as it is written. -/
  name : String
deriving DecidableEq, Repr

namespace Scored

/-- The order of suggestions: by distance, then by the lower-case name, then by the name. -/
def precedes (a b : Scored) : Bool :=
  a.distance < b.distance ||
    (a.distance == b.distance &&
      (a.lowered < b.lowered || (a.lowered == b.lowered && decide (a.name ≤ b.name))))

/-- Drops every entry whose lower-case name is that of the entry kept before it. -/
def dropVariants : List Scored → List Scored
  | [] => []
  | a :: rest => a :: go a rest
where
  /-- Goes on after the kept entry `last`. -/
  go (last : Scored) : List Scored → List Scored
    | [] => []
    | b :: rest => if b.lowered = last.lowered then go last rest else b :: go b rest

end Scored

/-- The score of a candidate for the lower-case name `needle`, if it begins with the same
character or is close enough. -/
def score? (isClose : String → String → Bool) (needle candidate : String) : Option Scored :=
  let lowered := Text.lower candidate
  let first := needle.toList.head?
  -- an empty name begins with no character, so it shares none with the candidate
  if (first.isSome && lowered.toList.head? == first) || isClose needle lowered then
    some ⟨textDistance needle lowered, lowered, candidate⟩
  else
    none

/-- Up to `limit` candidates for an unknown name: those that begin with the same character or are
close enough, in lower case; the least distant first, then by name. -/
def suggestBy (isClose : String → String → Bool) (unknown : String) (candidates : List String)
    (limit : Nat) : List String :=
  let scored := candidates.filterMap (score? isClose (Text.lower unknown))
  -- sorting brings names that differ in case only next to each other
  ((Scored.dropVariants (scored.mergeSort Scored.precedes)).take limit).map (·.name)

/-- The suggestions for the closeness "more similar than `threshold`". -/
def suggest (unknown : String) (candidates : List String) (limit : Nat) (threshold : Float) :
    List String :=
  suggestBy (fun a b => threshold < similarity a b) unknown candidates limit

end QueryAssist.Spelling
