import QueryAssist.Decimal.Notation
import QueryAssist.SortedMap

/-!
# JSON values

Values of the data format JSON and their compact written form: no blanks, the keys of an object in
ascending order, and in texts an escape only where the format demands one.

## Main definitions

* `Json` — the values
* `Json.ofFields` — an object with the given fields
* `Json.Text.encode` — the escaped characters of a text
* `Json.render` — the written form of a value
-/

namespace QueryAssist

/-- A number: an integer, or a binary floating-point value. -/
inductive Json.Number where
  /-- An integer. -/
  | integer (n : Int)
  /-- A finite floating-point value. -/
  | float (x : Float)

/-- A JSON value. -/
inductive Json where
  /-- The value `null`. -/
  | null
  /-- A truth value. -/
  | boolean (b : Bool)
  /-- A number. -/
  | number (n : Json.Number)
  /-- A text. -/
  | text (s : String)
  /-- A list of values. -/
  | array (items : List Json)
  /-- Values under keys. -/
  | object (fields : List (String × Json))

namespace Json

instance : Inhabited Json := ⟨null⟩

/-- The object with the given fields, sorted by key; of fields with the same key the last one
counts. -/
def ofFields (fields : List (String × Json)) : Json := object (SortedMap.ofList fields).entries

/-- The integer `n` as a value. -/
def ofNat (n : Nat) : Json := number (.integer n)

/-- The value under a key of an object. -/
def field? (v : Json) (key : String) : Option Json :=
  match v with
  | object fields => fields.lookup key
  | _ => none

/-- The characters of a text value. -/
def text? (v : Json) : Option String :=
  match v with
  | text s => some s
  | _ => none

namespace Text

/-- The digit for `n < 16`, in lower case. -/
def hexDigit (n : Nat) : Char := if n < 10 then Char.ofNat (48 + n) else Char.ofNat (87 + n)

/-- The written form of a character inside quotes. -/
def encodeChar (c : Char) : List Char :=
  if c = '"' then ['\\', '"']
  else if c = '\\' then ['\\', '\\']
  else if c = '\x08' then ['\\', 'b']
  else if c = '\x0c' then ['\\', 'f']
  else if c = '\n' then ['\\', 'n']
  else if c = '\r' then ['\\', 'r']
  else if c = '\t' then ['\\', 't']
  else if c.toNat < 0x20 then
    ['\\', 'u', '0', '0', hexDigit (c.toNat / 16), hexDigit (c.toNat % 16)]
  else [c]

/-- The written form of a text without its quotes. -/
def encode (s : List Char) : List Char := s.flatMap encodeChar

end Text

/-- A text in quotes. -/
def quoteText (s : String) : List Char := '"' :: (Text.encode s.toList ++ ['"'])

/-- The written form of a number. -/
def Number.render : Number → List Char
  | .integer n =>
    if n < 0 then '-' :: Nat.toDigits 10 n.natAbs else Nat.toDigits 10 n.natAbs
  | .float x => (Decimal.writeFloat x).toList

/-- Separates pieces by commas. -/
def commaSeparated : List (List Char) → List Char
  | [] => []
  | [a] => a
  | a :: b :: rest => a ++ ',' :: commaSeparated (b :: rest)

mutual

/-- The characters of the written form. -/
def characters : Json → List Char
  | null => "null".toList
  | boolean b => if b then "true".toList else "false".toList
  | number n => n.render
  | text s => quoteText s
  | array items => '[' :: (commaSeparated (charactersOfItems items) ++ [']'])
  | object fields => '\x7b' :: (commaSeparated (charactersOfFields fields) ++ ['\x7d'])

/-- The written forms of the items of a list. -/
def charactersOfItems : List Json → List (List Char)
  | [] => []
  | v :: rest => v.characters :: charactersOfItems rest

/-- The written forms of the fields of an object. -/
def charactersOfFields : List (String × Json) → List (List Char)
  | [] => []
  | (key, v) :: rest => (quoteText key ++ ':' :: v.characters) :: charactersOfFields rest

end

/-- The compact written form of a value. -/
def render (v : Json) : String := String.ofList v.characters

end Json

end QueryAssist
