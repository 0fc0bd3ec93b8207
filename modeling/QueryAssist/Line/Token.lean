import QueryAssist.Pattern.Search
import QueryAssist.Text.Numeric

/-!
# Tokens of a line

A token is a name as it is written in queries: runs of name characters joined by single hyphens,
possibly with a `!` in front and a `~` behind.

## Main definitions

* `Token` — a token and the columns it covers
* `Token.at?` — the token at a column
* `Token.stripDecoration` — a name without `!` and `~`
-/

namespace QueryAssist

/-- A character of a name: alphabetic, numeric or `_`. -/
def isNameChar (c : Char) : Bool := Text.isAlphanumeric c || c == '_'

/-- A token with the columns from `start` to `stop`, the latter excluded. -/
structure Token where
  /-- The characters of the token, with its `!` and `~`. -/
  text : String
  /-- The first column. -/
  start : Nat
  /-- The column just past the token. -/
  stop : Nat
deriving DecidableEq, Repr

namespace Token

/-- A name without one leading `!` and one trailing `~`. -/
def stripDecoration (name : String) : String :=
  let undecorated := match name.toList with
    | '!' :: rest => rest
    | cs => cs
  String.ofList <| match undecorated.reverse with
    | '~' :: rest => rest.reverse
    | _ => undecorated

/-- The text of the token without its `!` and `~`. -/
def baseName (t : Token) : String := stripDecoration t.text

/-- Whether a list of characters begins with a name character. -/
def beginsName : List Char → Bool
  | [] => false
  | c :: _ => isNameChar c

/-- The length of the longest beginning that consists of name characters and of hyphens with a
name character right after them. -/
def nameLength : List Char → Nat
  | [] => 0
  | c :: rest =>
    if isNameChar c || (c == '-' && beginsName rest) then nameLength rest + 1 else 0

/-- The column of the name character that a cursor at `column` refers to, in a line with the
characters `before` (nearest first) and `after` the cursor: the one under it, the one behind a `!`
under it, the one before it, or the one before a `~` before it. -/
def anchor? (column : Nat) (before after : List Char) : Option Nat :=
  if beginsName after then some column
  else if after.head? == some '!' && beginsName after.tail then some (column + 1)
  else if beginsName before then some (column - 1)
  else if before.head? == some '~' && beginsName before.tail then some (column - 2)
  else none

/-- The shape of tokens: word characters in runs joined by single hyphens, with an optional `!`
before and an optional `~` behind. -/
def shape : Pattern :=
  .sequence [.lineStart, .optional (.char '!'), .run1 Text.isWord,
    .star (.seq (.char '-') (.run1 Text.isWord)), .optional (.char '~'), .lineEnd]

/-- The token around the name character at column `anchor`, if what is found there has the shape
of a token and contains a letter. -/
def around? (line : List Char) (anchor : Nat) : Option Token :=
  let before := (line.take anchor).reverse
  let after := line.drop anchor
  let left := nameLength before
  let right := nameLength after
  -- a `!` and a `~` are taken in only next to the name
  let start := anchor - left - (if (before.drop left).head? = some '!' then 1 else 0)
  let stop := anchor + right + (if (after.drop right).head? = some '~' then 1 else 0)
  let text := (line.drop start).take (stop - start)
  if shape.isFoundIn text && text.any Text.isAlphabetic then
    some ⟨String.ofList text, start, stop⟩
  else
    none

/-- The token at a column of a line, or right before it. Columns beyond the end of the line count
as its end. -/
def at? (line : List Char) (column : Nat) : Option Token :=
  let column := min column line.length
  (anchor? column (line.take column).reverse (line.drop column)).bind (around? line)

end Token

end QueryAssist
