import QueryAssist.Catalog.Lookup
import QueryAssist.Line.Literal
import QueryAssist.Line.Token
import QueryAssist.Text.Lines

/-!
# The call around the cursor

## Main definitions

* `Call.openCall?` — the innermost call that is still open at the end of a text
* `Call.Signature` — how the called function or operator is written
* `Catalog.signature?` — the signature of the innermost open call
-/

namespace QueryAssist

namespace Call

/-- The innermost open call: the number of commas between its parenthesis and the end of the text,
and the text before the parenthesis, last character first. The text is given backwards; `depth`
parentheses have been closed behind it, and `commas` commas stand at the level of the end. -/
def openCall? : (depth commas : Nat) → List Char → Option (Nat × List Char)
  | _, _, [] => none
  | depth, commas, c :: before =>
    if c = ')' then openCall? (depth + 1) commas before
    else if c = '(' then
      match depth with
      | 0 => some (commas, before) -- nothing behind has closed it
      | depth + 1 => openCall? depth commas before
    else if c = ',' ∧ depth = 0 then openCall? depth (commas + 1) before
    else openCall? depth commas before

/-- The text with the literals and comments of every line blanked out. -/
def maskLines (text : List Char) : List Char :=
  Text.joinLines ((Text.pieces text).map Literal.mask)

/-- The name in front of a parenthesis, given the text before it backwards: name characters and
hyphens, with blanks between them and the parenthesis. -/
def nameBefore (before : List Char) : List Char :=
  ((before.dropWhile Text.isBlank).takeWhile fun c => isNameChar c || c == '-').reverse

/-- How a function or an operator is called. -/
structure Signature where
  /-- The form of the call. -/
  label : String
  /-- Its description and its parameters. -/
  documentation : Option String
  /-- The number of arguments before the one the cursor is in. -/
  activeParameter : Nat
deriving DecidableEq, Repr

/-- Two texts with an empty line between them, or the one that is there. -/
def paragraphs (a b : Option String) : Option String :=
  match a, b with
  | some a, some b => some (a ++ "\n\n" ++ b)
  | some a, none => some a
  | none, b => b

/-- The signature of a call of the entry with the cursor behind `commas` commas. -/
def Signature.ofEntry (e : Catalog.Entry) (commas : Nat) : Signature where
  label := e.usage.getD (e.name ++ "()")
  documentation := paragraphs e.description e.parameters
  activeParameter := commas

end Call

/-- The signature of the innermost call that is still open at the end of a text, if the catalog
knows a function or else an operator with its name. -/
def Catalog.signature? (c : Catalog) (before : List Char) : Option Call.Signature := do
  let (commas, head) ← Call.openCall? 0 0 (Call.maskLines before).reverse
  let name := Call.nameBefore head
  if name.isEmpty then none
  let entry ← (c.findFunction? (String.ofList name)).or (c.findOperator? (String.ofList name))
  return .ofEntry entry commas

end QueryAssist
