/-!
# String literals and comments in a line

A literal opens with `'` or `"` and closes with the same quote; a backslash inside it protects the
next character. Outside of literals `//` begins a comment that runs to the end of the line.

## Main definitions

* `Literal.State` — where a left-to-right scan of a line stands
* `Literal.mask` — the line with the contents of literals and comments blanked out
* `Literal.OpenQuote` — what is known of literals where comments are not looked for
* `Literal.isOpenAfter` — whether a literal is still open after a piece of a line
-/

namespace QueryAssist.Literal

/-- Where a scan stands with respect to string literals. -/
inductive State where
  /-- Not in a literal. -/
  | outside
  /-- In a literal that `quote` closes; `escaped` if a backslash stands right before. -/
  | inside (quote : Char) (escaped : Bool)
deriving DecidableEq, Repr

namespace State

/-- The state after reading `c`. -/
def next : State → Char → State
  | outside, c => if c = '\'' ∨ c = '"' then inside c false else outside
  | inside quote true, _ => inside quote false
  | inside quote false, c =>
    if c = '\\' then inside quote true else if c = quote then outside else inside quote false

/-- What is left of the character `c` when contents of literals are blanked out: everything
outside of literals, and the quotes. -/
def shown : State → Char → Char
  | outside, c => c
  | inside _ true, _ => ' '
  | inside quote false, c => if c ≠ '\\' ∧ c = quote then c else ' '

/-- Whether a comment begins with `c` when `rest` follows it. -/
def opensComment (s : State) (c : Char) (rest : List Char) : Bool :=
  s == outside && c == '/' && rest.head? == some '/'

end State

/-- As many spaces as there are characters. -/
def blanked (s : List Char) : List Char := s.map fun _ => ' '

/-- Blanks out literals and comments in a piece of a line that the scan enters in state `s`. -/
def maskFrom : State → List Char → List Char
  | _, [] => []
  | s, c :: rest =>
    if s.opensComment c rest then blanked (c :: rest)
    else s.shown c :: maskFrom (s.next c) rest

/-- The line with spaces for the contents of literals and for comments. Every character that
stays keeps its column. -/
def mask (line : List Char) : List Char := maskFrom .outside line

/-- The literal that is open in a piece of a line. Comments are not looked for. -/
structure OpenQuote where
  /-- The quote that closes the literal; nothing if no literal is open. -/
  quote : Option Char := none
  /-- Whether a backslash in the literal protects the next character. -/
  escaped : Bool := false
deriving DecidableEq, Repr

/-- The open literal after reading `c`. -/
def OpenQuote.next (o : OpenQuote) (c : Char) : OpenQuote :=
  match o.quote with
  | some quote =>
    if o.escaped then { o with escaped := false }
    else if c = '\\' then { o with escaped := true }
    else if c = quote then { o with quote := none }
    else o
  | none => if c = '\'' ∨ c = '"' then { o with quote := some c } else o

/-- Whether a literal is open at the end of a piece of a line. -/
def isOpenAfter (piece : List Char) : Bool := (piece.foldl OpenQuote.next {}).quote.isSome

end QueryAssist.Literal
