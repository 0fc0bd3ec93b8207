import QueryAssist.Pattern.Basic

/-!
# Searching a line for a pattern

A search finds the leftmost match, and of those that begin there the preferred one. Repeated
searches go on where the last match ended.

## Main definitions

* `Pattern.Match` — a match in a line
* `Pattern.find?` — the leftmost match
* `Pattern.findAll` — all matches from left to right, without overlaps
* `Pattern.isFoundIn` — whether there is a match
-/

namespace QueryAssist.Pattern

/-- A match: where it begins, and the place where it ends. -/
structure Match where
  /-- The first column of the match. -/
  start : Nat
  /-- The place where the match ends. -/
  stop : Place

/-- The columns of the group with number `k`. -/
def Match.group? (m : Match) (k : Nat) : Option Span := m.stop.groups.lookup k

/-- The preferred match that begins at a place. -/
def matchAt? (a : Pattern) (s : Place) : Option Match :=
  (a.places { s with groups := [] }).head?.map fun t => ⟨s.column, t⟩

/-- The leftmost match that begins at the place `s` or later; `rest` is what follows `s`. -/
def findFrom? (a : Pattern) : (rest : List Char) → Place → Option Match
  | [], s => a.matchAt? s
  | c :: rest, s => (a.matchAt? s).or (findFrom? a rest (s.step c rest))

/-- The leftmost match in a line. -/
def find? (a : Pattern) (line : List Char) : Option Match := a.findFrom? line (.first line)

/-- At most `n` matches from the place `s` on, each search beginning where the last match ended.
A match that is empty is followed by a search one character further on. -/
def findAllFrom (a : Pattern) : Nat → Place → List Match
  | 0, _ => []
  | n + 1, s =>
    match a.findFrom? s.after s with
    | none => []
    | some m =>
      if m.start < m.stop.column then m :: findAllFrom a n m.stop
      else
        match m.stop.after with
        | [] => [m]
        | c :: rest => m :: findAllFrom a n (m.stop.step c rest)

/-- The matches in a line from left to right, without overlaps. -/
def findAll (a : Pattern) (line : List Char) : List Match :=
  a.findAllFrom (line.length + 1) (.first line)

/-- Whether a line has a match. -/
def isFoundIn (a : Pattern) (line : List Char) : Bool := (a.find? line).isSome

/-- The characters of group `k` of the leftmost match. -/
def findGroup? (a : Pattern) (k : Nat) (line : List Char) : Option (List Char) :=
  (a.find? line).bind fun m => (m.group? k).map (·.of line)

end QueryAssist.Pattern
