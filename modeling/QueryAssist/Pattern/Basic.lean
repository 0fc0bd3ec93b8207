import QueryAssist.Text.Word

/-!
# Patterns

Patterns describe pieces of a line. A pattern is data; its meaning is the list of *all* ways to
match it from a place in the line, the preferred way first: the left alternative before the right
one, and more repetitions before fewer.

## Main definitions

* `Pattern` — the patterns
* `Pattern.Place` — a position in a line during matching, with the groups captured so far
* `Pattern.places` — the places a match can end at, in order of preference
-/

namespace QueryAssist

/-- A description of pieces of text. -/
inductive Pattern where
  /-- The empty piece. -/
  | empty
  /-- One character of a class. -/
  | one (p : Char → Bool)
  /-- A run of characters of a class, as long as possible by preference. -/
  | run (p : Char → Bool)
  /-- One piece after another. -/
  | seq (a b : Pattern)
  /-- The first pattern, or else the second. -/
  | alt (a b : Pattern)
  /-- Any number of repetitions, as many as possible by preference. -/
  | star (a : Pattern)
  /-- A piece remembered under a number. -/
  | group (k : Nat) (a : Pattern)
  /-- The empty piece at the beginning of the line. -/
  | lineStart
  /-- The empty piece at the end of the line. -/
  | lineEnd
  /-- The empty piece between a word character and something else. -/
  | wordBoundary

namespace Pattern

/-- Columns `start` to `stop`, the latter excluded. -/
structure Span where
  /-- The first column. -/
  start : Nat
  /-- The column just past the last one. -/
  stop : Nat
deriving DecidableEq, Repr

/-- The characters of `line` that a span covers. -/
def Span.of (span : Span) (line : List Char) : List Char :=
  (line.drop span.start).take (span.stop - span.start)

/-- A position in a line while a pattern is being matched. -/
structure Place where
  /-- The characters before the position, nearest first. -/
  before : List Char
  /-- The characters after the position. -/
  after : List Char
  /-- The number of characters before the position. -/
  column : Nat
  /-- The groups captured on the way, latest first. -/
  groups : List (Nat × Span)

namespace Place

/-- The beginning of a line. -/
def first (line : List Char) : Place := ⟨[], line, 0, []⟩

/-- One character further on. -/
def step (s : Place) (c : Char) (rest : List Char) : Place :=
  { s with before := c :: s.before, after := rest, column := s.column + 1 }

/-- Whether exactly one of the two neighbouring characters is a word character. -/
def atWordBoundary (s : Place) : Bool :=
  (s.before.head?.map Text.isWord).getD false != (s.after.head?.map Text.isWord).getD false

end Place

/-- The places reached by runs of `p` from a place whose remaining characters are given, the
longest run first, followed by the places in `shorter`. -/
def runPlaces (p : Char → Bool) : List Char → Place → (shorter : List Place) → List Place
  | [], s, shorter => s :: shorter
  | c :: rest, s, shorter =>
    if p c then runPlaces p rest (s.step c rest) (s :: shorter) else s :: shorter

/-- The places reached by at most `n` rounds of `round`, more rounds first. A round that does not
move ends the repetition. -/
def starPlaces (round : Place → List Place) : Nat → Place → List Place
  | 0, s => [s]
  | n + 1, s =>
    ((round s).filter (s.column < ·.column)).flatMap (starPlaces round n) ++ [s]

/-- The places at which a match of the pattern that begins at a place can end, in order of
preference. -/
def places : Pattern → Place → List Place
  | .empty, s => [s]
  | .one p, s =>
    match s.after with
    | [] => []
    | c :: rest => if p c then [s.step c rest] else []
  | .run p, s => runPlaces p s.after s []
  | .seq a b, s => (a.places s).flatMap b.places
  | .alt a b, s => a.places s ++ b.places s
  | .star a, s => starPlaces a.places s.after.length s
  | .group k a, s =>
    (a.places s).map fun t => { t with groups := (k, ⟨s.column, t.column⟩) :: t.groups }
  | .lineStart, s => if s.before.isEmpty then [s] else []
  | .lineEnd, s => if s.after.isEmpty then [s] else []
  | .wordBoundary, s => if s.atWordBoundary then [s] else []

/-! ### Common shapes -/

/-- The pieces in the given order. -/
def sequence : List Pattern → Pattern
  | [] => .empty
  | [a] => a
  | a :: b :: rest => .seq a (sequence (b :: rest))

/-- The first pattern of the list that fits. -/
def choice (a : Pattern) : List Pattern → Pattern
  | [] => a
  | b :: rest => .alt a (choice b rest)

/-- The pattern or nothing, the pattern by preference. -/
def optional (a : Pattern) : Pattern := .alt a .empty

/-- A nonempty run of characters of a class. -/
def run1 (p : Char → Bool) : Pattern := .seq (.one p) (.run p)

/-- Exactly the character `c`. -/
def char (c : Char) : Pattern := .one (· == c)

/-- The letter that `c` stands for when case does not matter: ASCII letters in lower case, and
the two other characters that fold to one, the long s and the Kelvin sign. -/
def foldLetter (c : Char) : Char :=
  if c = 'ſ' then 's' else if c = '\u212A' then 'k' else c.toLower

/-- The given word, in any mixture of cases. -/
def word (w : String) : Pattern :=
  sequence (w.toList.map fun c => .one fun d => foldLetter d == c)

end Pattern

end QueryAssist
