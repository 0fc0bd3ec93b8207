import QueryAssist.Catalog.Lookup
import QueryAssist.Diagnostic.Basic
import QueryAssist.Line.Context
import QueryAssist.Line.Literal
import QueryAssist.Settings
import QueryAssist.Spelling.Suggest

/-!
# Looking through a document

Three things are remarked on: a statement that begins with a name that nothing has, a name behind a
pipe that is no operator or keyword, and a pipe in the middle of a line. A catalog without tables
accepts all tables, and one without operators and keywords accepts all operators.

## Main definitions

* `Diagnostic.ofLine` — the diagnostics of one line
* `Diagnostic.scan` — the diagnostics of a document
-/

namespace QueryAssist.Diagnostic

/-- The kind of remark on an unknown table. -/
def unknownTable : String := "unknown-table"

/-- The kind of remark on an unknown operator. -/
def unknownOperator : String := "unknown-operator"

/-- The kind of remark on a pipe in the middle of a line. -/
def pipeStyle : String := "pipe-style"

/-- An identifier at the beginning of a line, which is group 1, with a blank, a pipe or the end of
the line behind it. -/
def statementStartPattern : Pattern :=
  .sequence [.lineStart, .group 1 Context.identifier,
    .choice (.one Text.isBlank) [.char '|', .lineEnd]]

/-- A pipe and the word behind it, which is group 1. -/
def pipedWordPattern : Pattern :=
  .sequence [.char '|', Context.blanks,
    .group 1 (.seq (.one Context.isIdentifierStart) (.run Context.isHyphenated))]

/-- The text of the remark on an unknown name. -/
def unknownNameMessage (what name : String) (suggestions : List String) : String :=
  let unknown := "Unknown " ++ what ++ " '" ++ name ++ "'"
  if suggestions.isEmpty then unknown
  else
    let quoted := suggestions.map fun s => "'" ++ s ++ "'"
    unknown ++ ". Did you mean " ++ ", ".intercalate quoted ++ "?"

/-- The remark on the unknown name that stands in the columns `span` of a line, with suggestions
from the names `known`. -/
def unknownName (settings : Settings) (what code : String) (lineNumber : Nat) (line : List Char)
    (span : Pattern.Span) (known : List String) : Diagnostic :=
  let name := String.ofList (span.of line)
  let suggestions :=
    Spelling.suggest name known settings.maxSuggestions settings.similarityThreshold
  { range := .onLine lineNumber span.start span.stop
    message := unknownNameMessage what name suggestions
    severity := .warning
    code := some code
    suggestions }

/-- Whether a name may begin a statement: a table, or else a keyword, an operator or a function. -/
def beginsStatement (c : Catalog) (name : String) : Bool :=
  (c.findTable? name).isSome || (c.findKeyword? name).isSome || (c.findOperator? name).isSome ||
    (c.findFunction? name).isSome

/-- The names that may stand behind a pipe. -/
def pipedNames (c : Catalog) : List String := c.operators.map (·.name) ++ c.keywords.map (·.name)

/-- The remark on the beginning of a line without literals and comments, if it is an unknown
name. -/
def ofStatementStart (c : Catalog) (settings : Settings) (lineNumber : Nat) (line : List Char) :
    List Diagnostic :=
  match (statementStartPattern.find? line).bind (·.group? 1) with
  | none => []
  | some span =>
    if c.tables.isEmpty || beginsStatement c (String.ofList (span.of line)) then []
    else
      let known := c.tables.values.map (·.name)
      [unknownName settings "table" unknownTable lineNumber line span known]

/-- The remarks on unknown names behind the pipes of a line without literals and comments. -/
def ofPipedWords (c : Catalog) (settings : Settings) (lineNumber : Nat) (line : List Char) :
    List Diagnostic :=
  let known := pipedNames c
  if known.isEmpty then []
  else
    (pipedWordPattern.findAll line).filterMap fun m => do
      let span ← m.group? 1
      if known.any (Text.sameIgnoringAsciiCase · (String.ofList (span.of line))) then none
      else some (unknownName settings "operator" unknownOperator lineNumber line span known)

/-- The remark on the first pipe of a line without literals and comments. -/
def ofInlinePipe (lineNumber : Nat) (line : List Char) : List Diagnostic :=
  match line.idxOf? '|' with
  | none => []
  | some column =>
    [{ range := .onLine lineNumber column (column + 1)
       message := "Consider starting each piped operator on its own line"
       severity := .information
       code := some pipeStyle }]

/-- The diagnostics of a line. A line that is blank or a comment has none, and a line that begins
with a pipe has no remark on its pipes. -/
def ofLine (c : Catalog) (settings : Settings) (lineNumber : Nat) (raw : List Char) :
    List Diagnostic :=
  let trimmed := Text.trim raw
  if trimmed.isEmpty || "//".toList.isPrefixOf trimmed then []
  else
    -- blanking out keeps the columns, so what is found is at its place in the document
    let line := Literal.mask raw
    ofStatementStart c settings lineNumber line ++ ofPipedWords c settings lineNumber line ++
      (if settings.pipeStyleHints && trimmed.head? != some '|' then ofInlinePipe lineNumber line
       else [])

/-- The diagnostics of a document, sorted by where they begin. -/
def scan (c : Catalog) (settings : Settings) (text : List Char) : List Diagnostic :=
  ((Text.lines text).zipIdx.flatMap fun l => ofLine c settings l.2 l.1).mergeSort
    fun a b => a.range.start.precedes b.range.start

/-- The diagnostics of a document, or nothing if they are not wanted any more. -/
def scanUnless (cancelled : Bool) (c : Catalog) (settings : Settings) (text : List Char) :
    Option (List Diagnostic) :=
  if cancelled then none else some (scan c settings text)

end QueryAssist.Diagnostic
