import QueryAssist.Hover.Card
import QueryAssist.Hover.Sampler

/-!
# Hovering

A table with too many examples shows a sample of them. While one goes on hovering over the same
table the sample stays the same; hovering over anything else ends the session, and the next sample
is a fresh one.

## Main definitions

* `Hover.Session` — what is remembered between hovers
* `Hover.Session.hover` — the card for a token
-/

namespace QueryAssist.Hover

/-- The sample last drawn. -/
structure Sample where
  /-- The name of the table in lower case. -/
  symbol : String
  /-- How many examples were drawn. -/
  count : Nat
  /-- The examples, the shortest one first. -/
  codes : List String
deriving DecidableEq, Repr

/-- What is remembered between hovers, with a sampler whose states are of type `σ`. -/
structure Session (σ : Type) where
  /-- The sample of the table hovered over last. -/
  sample : Option Sample
  /-- The state of the sampler. -/
  state : σ

namespace Session

variable {σ : Type}

/-- The session before the first hover. -/
def start (state : σ) : Session σ := ⟨none, state⟩

/-- Ends the session unless its sample belongs to `symbol`. -/
def endUnless (s : Session σ) (symbol : String) : Session σ :=
  { s with sample := s.sample.filter (·.symbol == Text.lower symbol) }

/-- Queries by their length in bytes, the shortest one first. -/
def shortestFirst (codes : List String) : List String :=
  codes.mergeSort fun a b => a.utf8ByteSize ≤ b.utf8ByteSize

/-- The examples shown for a table: all of them if there are at most `count`, and otherwise the
sample of the session or a fresh one. -/
def examples (sampler : Sampler σ) (count : Nat) (t : Catalog.Table) (s : Session σ) :
    List String × Session σ :=
  let pool := t.examples.map (·.code)
  if pool.length ≤ count then (shortestFirst pool, s.endUnless t.name)
  else
    let symbol := Text.lower t.name
    match s.sample.filter fun sample => sample.symbol == symbol && sample.count == count with
    | some sample => (sample.codes, s)
    | none =>
      -- positions are drawn and not examples, for two examples may be equal
      let (positions, state) := sampler.draw pool.length count s.state
      let codes := shortestFirst (positions.filterMap (pool[·]?))
      (codes, ⟨some ⟨symbol, count, codes⟩, state⟩)

/-- The card for a token with the text `after` behind it, if it stands for something, and the
session behind the hover. -/
def hover (sampler : Sampler σ) (count : Nat) (c : Catalog) (token : String) (after : List Char)
    (s : Session σ) : Option String × Session σ :=
  match Symbol.resolve? c token after with
  | none => (none, s.endUnless (Token.stripDecoration token))
  | some symbol =>
    match symbol with
    | .table t =>
      let (codes, s) := examples sampler count t s
      (some (Card.ofTable c t codes), s)
    | .function e => (some (Card.ofEntry e "Function"), s.endUnless symbol.name)
    | .operator e => (some (Card.ofEntry e "Operator"), s.endUnless symbol.name)
    | .keyword k => (some (Card.ofKeyword k), s.endUnless symbol.name)
    | .resourceType id r => (some (Card.ofResourceType id r), s.endUnless symbol.name)

end Session

end QueryAssist.Hover
