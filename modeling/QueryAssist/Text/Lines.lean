import QueryAssist.Text.Blank

/-!
# Lines of a text

Lines are separated by `\n`. What a `\r` before a line break means depends on the purpose, so
there are several views of the lines of a text.

## Main definitions

* `Text.piecesBetween` — the pieces of a text between the occurrences of a separator
* `Text.pieces` — the pieces between line breaks, as they are
* `Text.lines` — the lines of a document: without the `\r` of a line break, and without an empty
  line after the last line break
* `Text.joinLines` — lines put together with line breaks between them
-/

namespace QueryAssist.Text

/-- The pieces of a text between separators; one more than there are separators. -/
def piecesBetween (separator : Char) : List Char → List (List Char)
  | [] => [[]]
  | c :: s =>
    if c = separator then [] :: piecesBetween separator s
    else
      match piecesBetween separator s with
      | [] => [[c]]
      | piece :: rest => (c :: piece) :: rest

/-- The pieces of a text between line breaks. -/
abbrev pieces (text : List Char) : List (List Char) := piecesBetween '\n' text

/-- Lines with a line break between any two. -/
def joinLines : List (List Char) → List Char
  | [] => []
  | [line] => line
  | line :: next :: rest => line ++ '\n' :: joinLines (next :: rest)

/-- A line without one `\r` at its end. -/
def dropReturn (line : List Char) : List Char :=
  match line.reverse with
  | '\r' :: rest => rest.reverse
  | _ => line

/-- A line without any `\r` at its end. -/
def dropReturns (line : List Char) : List Char :=
  (line.reverse.dropWhile (· == '\r')).reverse

/-- The lines that the pieces of a text stand for: every piece but the last one ends in a line
break, of which a `\r` is part, and an empty last piece is no line. -/
def linesOfPieces : List (List Char) → List (List Char)
  | [] => []
  | [last] => if last.isEmpty then [] else [last]
  | piece :: next :: rest => dropReturn piece :: linesOfPieces (next :: rest)

/-- The lines of a document. -/
def lines (text : List Char) : List (List Char) := linesOfPieces (pieces text)

/-- Whether a text ends in a line break. -/
def endsInLineBreak (text : List Char) : Bool := text.getLast? == some '\n'

end QueryAssist.Text
