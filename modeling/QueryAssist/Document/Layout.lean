import QueryAssist.Line.Literal
import QueryAssist.Text.Lines

/-!
# The layout of piped statements

Every pipe outside of parentheses, literals and comments begins a line of its own, indented like
the line its statement begins with.

## Main definitions

* `Layout.layoutLine` — the lines that one line is turned into
* `Layout.alignPipes` — the layout of a text
-/

namespace QueryAssist.Layout

/-- What is carried from line to line. -/
structure State where
  /-- How many parentheses are open. -/
  depth : Nat := 0
  /-- The blanks before the statement. -/
  indent : List Char := []
deriving DecidableEq, Repr

/-- The number of open parentheses after a character. -/
def depthAfter (depth : Nat) (c : Char) : Nat :=
  if c = '(' then depth + 1 else if c = ')' then depth - 1 else depth

/-- Cuts a line at its top-level pipes. The line is given as pairs of a character and what is left
of it when literals and comments are blanked out. The result is the number of open parentheses
behind the line, the piece before the first pipe, and the pieces behind the pipes. -/
def cutAtPipes : (depth : Nat) → List (Char × Char) → Nat × List Char × List (List Char)
  | depth, [] => (depth, [], [])
  | depth, (c, shown) :: rest =>
    let (depth', head, pieces) := cutAtPipes (depthAfter depth shown) rest
    if shown = '|' ∧ depth = 0 then (depth', [], head :: pieces)
    else (depth', c :: head, pieces)

/-- A line that begins with a pipe. -/
def pipeLine (indent piece : List Char) : List Char :=
  match Text.trim piece with
  | [] => indent ++ ['|']
  | piece => indent ++ '|' :: ' ' :: piece

/-- Whether a line stays as it is, blanks at its end apart: it is blank, a comment, or begins
inside of parentheses. -/
def staysWhole (depth : Nat) (line : List Char) : Bool :=
  let trimmed := Text.trim line
  trimmed.isEmpty || "//".toList.isPrefixOf trimmed || depth > 0

/-- The lines that a line is turned into, and the state behind it. -/
def layoutLine (s : State) (line : List Char) : State × List (List Char) :=
  if staysWhole s.depth line then
    ({ s with depth := (Literal.mask line).foldl depthAfter s.depth }, [Text.trimEnd line])
  else
    let (depth, head, pieces) := cutAtPipes s.depth (line.zip (Literal.mask line))
    if (Text.trim head).isEmpty then
      -- the line goes on with the statement above, whose indentation it takes
      ({ s with depth }, pieces.map (pipeLine s.indent))
    else
      let indent := Text.leadingBlanks line
      (⟨depth, indent⟩, Text.trimEnd head :: pieces.map (pipeLine indent))

/-- The lines that lines are turned into. -/
def layoutLines : State → List (List Char) → List (List Char)
  | _, [] => []
  | s, line :: rest =>
    let (s, out) := layoutLine s line
    out ++ layoutLines s rest

/-- The text with every top-level pipe at the beginning of a line. A line break at the end stays. -/
def alignPipes (text : List Char) : List Char :=
  Text.joinLines (layoutLines {} (Text.lines text)) ++
    (if Text.endsInLineBreak text then ['\n'] else [])

end QueryAssist.Layout
