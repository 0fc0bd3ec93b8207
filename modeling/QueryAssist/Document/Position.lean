import QueryAssist.Text.Lines

/-!
# Positions in a document

Lines and columns count from zero; columns count characters.

## Main definitions

* `Position`, `Range` — places and stretches in a document
* `Cursor` — the text around a position
* `Cursor.locate` — the text around a given position of a document
-/

namespace QueryAssist

/-- A place in a document. -/
structure Position where
  /-- The line. -/
  line : Nat
  /-- The column. -/
  column : Nat
deriving DecidableEq, Repr

/-- The form in which positions are shown. -/
def Position.toText (p : Position) : String := s!"{p.line}:{p.column}"

instance : ToString Position := ⟨Position.toText⟩

/-- Whether one position is not behind another one. -/
def Position.precedes (p q : Position) : Bool :=
  p.line < q.line || (p.line == q.line && p.column ≤ q.column)

/-- The stretch from one position up to another one, the latter excluded. -/
structure Range where
  /-- Where it begins. -/
  start : Position
  /-- The position just past it. -/
  stop : Position
deriving DecidableEq, Repr

/-- The columns `start` to `stop` of a line, the latter excluded. -/
def Range.onLine (line start stop : Nat) : Range := ⟨⟨line, start⟩, ⟨line, stop⟩⟩

/-- The text of a document around a position. -/
structure Cursor where
  /-- Everything before the position, earlier lines included. -/
  before : List Char
  /-- The line of the position, without its line break. -/
  line : List Char
  /-- The part of the line before the position. -/
  lineStart : List Char
  /-- The column, which is at most the length of the line. -/
  column : Nat

namespace Cursor

/-- Steps over the first `n` lines of a text. The result is what was stepped over, latest
character first, and what is left. -/
def skipLines : (n : Nat) → (passed : List Char) → List Char → List Char × List Char
  | _, passed, [] => (passed, [])
  | 0, passed, rest => (passed, rest)
  | n + 1, passed, c :: rest =>
    if c = '\n' then skipLines n (c :: passed) rest else skipLines (n + 1) (c :: passed) rest

/-- The text around a position. A line beyond the end stands for the end of the text, and a column
beyond the end of the line for the end of the line. -/
def locate (text : List Char) (p : Position) : Cursor :=
  let (passed, rest) := skipLines p.line [] text
  let line := Text.dropReturn (rest.takeWhile (· != '\n'))
  let lineStart := line.take p.column
  ⟨passed.reverse ++ lineStart, line, lineStart, lineStart.length⟩

end Cursor

end QueryAssist
