import QueryAssist.Pattern.Search
import QueryAssist.Text.Blank

/-!
# What is expected at the cursor

The part of a line before the cursor decides what kind of name can follow. The kinds overlap, so
they are tried in a fixed order.

## Main definitions

* `Context` — the kinds of positions
* `Context.ofLineStart` — the kind of position at the end of a line's beginning
* `Context.partialWord` — the word being typed there
-/

namespace QueryAssist

/-- What is expected at the cursor. -/
inductive Context where
  /-- A statement: the line is blank, a comment, or a single identifier so far. -/
  | startOfStatement
  /-- The `by` after `sort` or `order`. -/
  | orderBy
  /-- An operator, right after a `|`. -/
  | afterPipe
  /-- The value in `type == '...'`. -/
  | resourceTypeLiteral
  /-- A member of a list, or anything after a blank. -/
  | propertyList
  /-- An argument of a call or the right-hand side of an assignment. -/
  | functionArgument
  /-- Nothing more specific. -/
  | other
deriving DecidableEq, Repr

namespace Context

/-- The written name of the kind. -/
def name : Context → String
  | startOfStatement => "StartOfStatement"
  | orderBy => "OrderByExpected"
  | afterPipe => "AfterPipe"
  | resourceTypeLiteral => "ResourceTypeLiteral"
  | propertyList => "PropertyList"
  | functionArgument => "FunctionArgument"
  | other => "Default"

instance : ToString Context := ⟨name⟩

/-! ### Patterns -/

/-- The characters an identifier can begin with. -/
def isIdentifierStart (c : Char) : Bool := c.isAlpha || c == '_'

/-- An identifier: an ASCII letter or `_`, then word characters. -/
def identifier : Pattern := .seq (.one isIdentifierStart) (.run Text.isWord)

/-- Blanks, as many as there are. -/
def blanks : Pattern := .run Text.isBlank

/-- At least one blank. -/
def blanks1 : Pattern := .run1 Text.isBlank

/-- A word character or `-`. -/
def isHyphenated (c : Char) : Bool := Text.isWord c || c == '-'

/-- A word character or `.`. -/
def isDotted (c : Char) : Bool := Text.isWord c || c == '.'

/-- A character of a resource type: a word character, `.`, `/` or `-`. -/
def isResourcePath (c : Char) : Bool := Text.isWord c || c == '.' || c == '/' || c == '-'

/-- A line that has nothing but blanks, nothing but a comment, or one identifier. -/
def startOfStatementPattern : Pattern :=
  .sequence [.lineStart,
    .choice blanks
      [.sequence [blanks, .char '/', .char '/', .run (· != '\n')],
       identifier],
    .lineEnd]

/-- The word `sort` or `order`, blanks, and the beginning of the next word. -/
def orderByPattern : Pattern :=
  .sequence [.wordBoundary, .choice (.word "sort") [.word "order"], blanks1, .run Text.isWord,
    .lineEnd]

/-- A pipe, blanks, and the beginning of an operator. -/
def afterPipePattern : Pattern :=
  .sequence [.char '|', blanks, .run isHyphenated, .lineEnd]

/-- The word `type`, `==` or `=~`, an optional quote, and the beginning of a resource type, which
is group 1. -/
def resourceTypePattern : Pattern :=
  .sequence [.wordBoundary, .word "type", blanks,
    .choice (.seq (.char '=') (.char '=')) [.seq (.char '=') (.char '~')], blanks,
    .optional (.one fun c => c == '\'' || c == '"'), .group 1 (.run isResourcePath), .lineEnd]

/-- The operators that take a list of properties. -/
def listOperators : Pattern :=
  .choice (.word "project")
    [.word "project-keep", .word "project-away", .word "project-rename", .word "project-reorder",
     .word "extend", .word "summarize", .word "distinct", .word "by"]

/-- A list operator with finished members and the beginning of another one; or a comma or blank
and the beginning of a member. -/
def propertyListPattern : Pattern :=
  .choice
    (.sequence [.wordBoundary, listOperators, blanks1,
      .star (.sequence [.run1 isDotted, blanks, .char ',', blanks]), .run isDotted, .lineEnd])
    [.sequence [.one fun c => c == ',' || Text.isBlank c, blanks, .run isDotted, .lineEnd]]

/-- An opening parenthesis behind a word, or an equals sign, and the beginning of an argument. -/
def functionArgumentPattern : Pattern :=
  .seq
    (.choice (.sequence [.one Text.isWord, blanks, .char '(', blanks, .run isDotted])
      [.sequence [.char '=', blanks, .run isDotted]])
    .lineEnd

/-- The word characters and hyphens a line ends with. -/
def trailingWordPattern : Pattern := .seq (.run isHyphenated) .lineEnd

/-! ### Classification -/

/-- The kinds that have a pattern, in the order in which they are tried. -/
def patterns : List (Context × Pattern) :=
  [(startOfStatement, startOfStatementPattern), (orderBy, orderByPattern),
   (afterPipe, afterPipePattern), (resourceTypeLiteral, resourceTypePattern),
   (propertyList, propertyListPattern), (functionArgument, functionArgumentPattern)]

/-- What is expected after the beginning `lineStart` of a line: the first kind whose pattern is
found in it. -/
def ofLineStart (lineStart : List Char) : Context :=
  ((patterns.find? fun k => k.2.isFoundIn lineStart).map (·.1)).getD other

/-- The word being typed at the end of `lineStart`. In a resource type it may contain `.` and `/`;
elsewhere it is made of word characters and hyphens. -/
def partialWord (lineStart : List Char) (context : Context) : List Char :=
  let trailing := (trailingWordPattern.find? lineStart).map fun m => lineStart.drop m.start
  let typed := if context = resourceTypeLiteral then resourceTypePattern.findGroup? 1 lineStart
    else none
  (typed.or trailing).getD []

end Context

end QueryAssist
