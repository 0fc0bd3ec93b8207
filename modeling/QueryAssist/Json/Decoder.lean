import QueryAssist.Json.Reader

/-!
# Decoding documents into records

A decoder reads a value of a Lean type directly from the text of a document, so that the first
fault from left to right is the one reported, be it in the format or in the content.

## Main definitions

* `Json.Decoder` — decoders
* `Json.Decoder.text`, `natural`, `float`, `boolean`, `value`, `optional`, `list`, `map` —
  decoders for values of one kind
* `Json.Field`, `Json.Decoder.record` — records, written as objects or as arrays of their fields
* `Json.Decoder.decode` — runs a decoder on a whole document
-/

namespace QueryAssist.Json

/-- Reads a value, given how many brackets may still be nested. -/
abbrev Decoder (α : Type) := (depth : Nat) → Reader α

namespace Decoder

variable {α σ : Type}

/-- Refuses the value that comes next. A value without brackets is read first, so that a fault in
it goes before. -/
def refuse : Reader α := do
  match ← peekToken? with
  | some '[' | some '\x7b' => throw .wrongType
  | _ =>
    let _ ← readScalar
    throw .wrongType

/-- Goes on with one bracket less to nest, behind the opening bracket that comes next. -/
def nested (depth : Nat) (inner : Decoder α) : Reader α :=
  match depth with
  | 0 => throw .malformed
  | depth + 1 => do
    let _ ← next
    inner depth

/-- Any value. -/
def value : Decoder Json := readValue

/-- A text. -/
def text : Decoder String := fun _ => do
  match ← peekToken? with
  | some '"' => readText
  | _ => refuse

/-- A truth value. -/
def boolean : Decoder Bool := fun _ => do
  match ← peekToken? with
  | some 't' => expect "true".toList; return true
  | some 'f' => expect "false".toList; return false
  | _ => refuse

/-- A number, or a refusal. -/
def number : Decoder Number := fun _ => do
  match ← peekToken? with
  | some c => if c = '-' ∨ c.isDigit then readNumber else refuse
  | none => refuse

/-- An integer that is not negative. -/
def natural : Decoder Nat := fun depth => do
  match ← number depth with
  | .integer n => if 0 ≤ n then return n.toNat else throw .wrongType
  | .float _ => throw .wrongType

/-- A number as a floating-point value. -/
def float : Decoder Float := fun depth => do
  match ← number depth with
  | .integer n => return (if n < 0 then -n.natAbs.toFloat else n.natAbs.toFloat)
  | .float x => return x

/-- A value or `null`. -/
def optional (inner : Decoder α) : Decoder (Option α) := fun depth => do
  match ← peekToken? with
  | some 'n' => expect "null".toList; return none
  | _ => return some (← inner depth)

/-- A list of values. -/
def list (inner : Decoder α) : Decoder (List α) := fun depth => do
  match ← peekToken? with
  | some '[' =>
    nested depth fun depth => do
      let items ← readSeparated ']' (fun items => do return (← inner depth) :: items) []
      return items.reverse
  | _ => refuse

/-- Values under keys; of those under the same key the last one counts. -/
def map (inner : Decoder α) : Decoder (SortedMap α) := fun depth => do
  match ← peekToken? with
  | some '\x7b' =>
    nested depth fun depth =>
      readSeparated '\x7d' (fun m => do
        let key ← readText
        readColon
        return m.insert key (← inner depth)) ∅
  | _ => refuse

end Decoder

/-! ### Records -/

/-- A field of a record of type `σ`. -/
structure Field (σ : Type) where
  /-- The key of the field. -/
  name : String
  /-- Further keys under which it may stand. -/
  aliases : List String
  /-- Whether it must be there. -/
  required : Bool
  /-- Reads the value of the field into a record. -/
  read : σ → Decoder σ

namespace Field

variable {α σ : Type}

/-- A field that need not be there. -/
def default (name : String) (value : Decoder α) (set : σ → α → σ) : Field σ :=
  ⟨name, [], false, fun s depth => do return set s (← value depth)⟩

/-- The same field with one more key. -/
def orKey (f : Field σ) (key : String) : Field σ := { f with aliases := key :: f.aliases }

/-- The same field, made required. -/
def require (f : Field σ) : Field σ := { f with required := true }

/-- Whether the field may stand under `key`. -/
def accepts (f : Field σ) (key : String) : Bool := key == f.name || f.aliases.contains key

end Field

namespace Decoder

variable {σ : Type}

/-- Reads one field of an object into a record. Keys that no field has are skipped with their
value, and a field that has been seen is refused as soon as its key is read. -/
def readField (fields : List (Field σ)) (depth : Nat) (state : σ × List String) :
    Reader (σ × List String) := do
  let key ← readText
  match fields.find? (·.accepts key) with
  | none =>
    readColon
    skipValue
    return state
  | some f =>
    -- a repeated field is refused before its colon is looked for
    if state.2.contains f.name then throw (.duplicateField f.name)
    readColon
    return (← f.read state.1 depth, f.name :: state.2)

/-- Reads the fields of an object, behind its bracket, into the record `s`. -/
def readFields (fields : List (Field σ)) (depth : Nat) (s : σ) : Reader σ := do
  let (s, seen) ← readSeparated '\x7d' (readField fields depth) (s, [])
  -- only the closing bracket shows that a field is missing
  match fields.find? fun f => f.required && !seen.contains f.name with
  | some f => throw (.missingField f.name)
  | none => return s

/-- Reads the fields of a record from an array in their order, behind a bracket or, if `later`,
behind a value. Fields at the end that are not required may be absent. -/
def readPositions (depth : Nat) : (later : Bool) → List (Field σ) → σ → Reader σ
  | _, [], s => do
    match ← peekToken? with
    | none => throw .endOfInput
    | some c =>
      if c ≠ ']' then throw .malformed
      let _ ← next
      return s
  | later, f :: fields, s => do
    match ← peekToken? with
    | none => throw .endOfInput
    | some c =>
      if c = ']' then
        if (f :: fields).any (·.required) then throw .wrongType
        let _ ← next
        return s
      if later then
        if c ≠ ',' then throw .malformed
        let _ ← next
        match ← peekToken? with
        | none => throw .endOfInput
        | some c => if c = ']' then throw .malformed
      let s ← f.read s depth
      readPositions depth true fields s

/-- A record with the given fields, as an object or as an array of the fields in their order;
what is absent keeps its value in `start`. -/
def record (fields : List (Field σ)) (start : σ) : Decoder σ := fun depth => do
  match ← peekToken? with
  | some '\x7b' => nested depth fun depth => readFields fields depth start
  | some '[' => nested depth fun depth => readPositions depth false fields start
  | _ => refuse

/-! ### Documents -/

/-- How many brackets may be nested in a document. -/
def maxDepth : Nat := 127

/-- Decodes a whole document: a value with nothing but blanks around it. -/
def decode {α : Type} (decoder : Decoder α) (document : String) : Except Fault α := do
  let (a, rest) ← (decoder maxDepth).run document.toList
  if (rest.dropWhile isBlank).isEmpty then return a else throw .malformed

end Decoder

end QueryAssist.Json
