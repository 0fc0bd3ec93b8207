import QueryAssist.Catalog.Lookup
import QueryAssist.Line.Context
import QueryAssist.Text.Lines

/-!
# The table a statement is about

The table in force at the cursor is looked for line by line from the cursor backwards. A line
settles it by opening a join whose parenthesis is still open, by a table in front of a pipe, or by
a table at its beginning.

## Main definitions

* `Catalog.tableScope?` — the table in force at the end of a text
-/

namespace QueryAssist

namespace TableScope

/-- The characters an identifier can begin with when case does not matter. -/
def isFoldedIdentifierStart (c : Char) : Bool := (Pattern.foldLetter c).isAlpha || c == '_'

/-- A join with a parenthesis, which is group 1, and the name behind it, which is group 2. -/
def joinPattern : Pattern :=
  .sequence [.wordBoundary, .word "join", Context.blanks1,
    .optional (.sequence [.word "kind", Context.blanks, .char '=', Context.blanks,
      .run1 Text.isWord, Context.blanks]),
    .group 1 (.char '('), Context.blanks,
    .group 2 (.seq (.one isFoldedIdentifierStart) (.run Text.isWord))]

/-- An identifier at the beginning of a line. -/
def leadingIdentifierPattern : Pattern := .seq .lineStart (.group 1 Context.identifier)

/-- The number of opening parentheses less the number of closing ones. -/
def netDepth (s : List Char) : Int :=
  s.foldl (fun d c => if c = '(' then d + 1 else if c = ')' then d - 1 else d) 0

/-- Whether a line has nothing but blanks, or a comment. -/
def isIdle (line : List Char) : Bool :=
  let trimmed := Text.trim line
  trimmed.isEmpty || "//".toList.isPrefixOf trimmed

/-- The name in the spelling of the catalog, if it is the name of a table. -/
def tableName? (c : Catalog) (name : List Char) : Option String :=
  (c.findTable? (String.ofList name)).map (·.name)

/-- The table joined by a match of the join pattern in a line, if its parenthesis is still open:
the rest of the text, in which the later lines have net depth `later`, opens more than it closes. -/
def joined? (c : Catalog) (line : List Char) (later : Int) (m : Pattern.Match) : Option String := do
  let paren ← m.group? 1
  let name ← m.group? 2
  -- the text from the parenthesis on is the rest of this line and all later lines
  if 0 < netDepth (line.drop paren.start) + later then tableName? c (name.of line) else none

/-- The table that a line settles, when the later lines have net depth `later`: that of the last
join still open, the one in front of the first pipe, or the one the line begins with. -/
def ofLine? (c : Catalog) (later : Int) (line : List Char) : Option String :=
  if isIdle line then none
  else
    let byJoin := (joinPattern.findAll line).reverse.findSome? (joined? c line later)
    -- a line that goes on with a pipe names no table apart from joined ones
    if (Text.trim line).head? = some '|' then byJoin
    else
      let byPipe :=
        if line.contains '|' then tableName? c (Text.trim (line.takeWhile (· != '|'))) else none
      let byStart := (leadingIdentifierPattern.findGroup? 1 line).bind (tableName? c)
      byJoin.or (byPipe.or byStart)

/-- The table settled by the first of the given lines that settles one; the lines go backwards,
and those after them have net depth `later`. -/
def ofLines? (c : Catalog) : (later : Int) → List (List Char) → Option String
  | _, [] => none
  | later, line :: earlier =>
    (ofLine? c later (Text.dropReturns line)).or (ofLines? c (netDepth line + later) earlier)

end TableScope

/-- The table in force at the end of a text, in the spelling of the catalog. -/
def Catalog.tableScope? (c : Catalog) (before : List Char) : Option String :=
  TableScope.ofLines? c 0 (Text.pieces before).reverse

end QueryAssist
