import QueryAssist.Json.Value

/-!
# Reading JSON from left to right

A reader consumes characters from the left of a text and stops at the first fault. Values that
are not needed are skipped by looser rules than those for values that are read: a skipped number
may be too large, and a skipped text may contain half of a surrogate pair.

## Main definitions

* `Json.Fault` — why a document is refused
* `Json.Reader` — readers
* `Json.readText`, `Json.readNumber`, `Json.readScalar` — the tokens of the format
* `Json.readSeparated` — the items between two brackets
* `Json.skipValue` — steps over a value
* `Json.readValue` — reads a value of any kind
-/

namespace QueryAssist.Json

/-- Why a document is refused. -/
inductive Fault where
  /-- The text ends too early. -/
  | endOfInput
  /-- The text is not a JSON document. -/
  | malformed
  /-- A value is of another type than its place demands. -/
  | wrongType
  /-- A required field is not there. -/
  | missingField (name : String)
  /-- A field occurs twice. -/
  | duplicateField (name : String)
deriving DecidableEq, Repr

/-- The text that tells why a document is refused. -/
def Fault.message : Fault → String
  | endOfInput => "the document ends too early"
  | malformed => "the document is not well formed"
  | wrongType => "a value is of the wrong type"
  | missingField name => "missing field `" ++ name ++ "`"
  | duplicateField name => "duplicate field `" ++ name ++ "`"

/-- A computation that consumes characters from the left of a text. -/
abbrev Reader (α : Type) := StateT (List Char) (Except Fault) α

/-! ### Characters -/

/-- The blanks between tokens. -/
def isBlank (c : Char) : Bool := c == ' ' || c == '\t' || c == '\n' || c == '\r'

/-- The next character, which stays in place. -/
def peek? : Reader (Option Char) := do return (← get).head?

/-- Consumes the next character. -/
def next : Reader Char := do
  match ← get with
  | [] => throw .endOfInput
  | c :: rest => set rest; return c

/-- Consumes blanks, and gives the character behind them, which stays in place. -/
def peekToken? : Reader (Option Char) := do
  modify (·.dropWhile isBlank)
  peek?

/-- Consumes the characters `cs`. -/
def expect (cs : List Char) : Reader Unit :=
  cs.forM fun c => do if (← next) ≠ c then throw .malformed

/-- The number of a hexadecimal digit. -/
def hexValue? (c : Char) : Option Nat :=
  if '0' ≤ c ∧ c ≤ '9' then some (c.toNat - 48)
  else if 'a' ≤ c ∧ c ≤ 'f' then some (c.toNat - 87)
  else if 'A' ≤ c ∧ c ≤ 'F' then some (c.toNat - 55)
  else none

/-- Consumes four hexadecimal digits. A text with fewer than four bytes left has ended too early,
whatever they are. -/
def readHex4 : Reader Nat := do
  let input ← get
  let four := input.take 4
  match four.mapM hexValue? with
  | some [a, b, c, d] =>
    set (input.drop 4)
    return ((a * 16 + b) * 16 + c) * 16 + d
  | _ =>
    -- what is left may be short in bytes even if one of its characters is no digit
    if (String.ofList four).utf8ByteSize < 4 then throw .endOfInput else throw .malformed

/-! ### Texts -/

/-- The character that a letter stands for behind a backslash. -/
def unescape? (c : Char) : Option Char :=
  match c with
  | '"' => some '"'
  | '\\' => some '\\'
  | '/' => some '/'
  | 'b' => some '\x08'
  | 'f' => some '\x0c'
  | 'n' => some '\n'
  | 'r' => some '\r'
  | 't' => some '\t'
  | _ => none

/-- The first half of a surrogate pair. -/
def isLeadingSurrogate (n : Nat) : Bool := 0xD800 ≤ n && n ≤ 0xDBFF

/-- The second half of a surrogate pair. -/
def isTrailingSurrogate (n : Nat) : Bool := 0xDC00 ≤ n && n ≤ 0xDFFF

/-- Reads the code point of an escape behind `\u`. Halves of a surrogate pair must be together. -/
def readCodePoint : Reader Char := do
  let n ← readHex4
  if isTrailingSurrogate n then throw .malformed
  if !isLeadingSurrogate n then return Char.ofNat n
  -- the second half has to follow at once, as an escape of its own
  expect ['\\', 'u']
  let m ← readHex4
  if !isTrailingSurrogate m then throw .malformed
  return Char.ofNat (0x10000 + (n - 0xD800) * 0x400 + (m - 0xDC00))

/-- Reads the next character of a text; `none` at the closing quote. -/
def readTextChar : Reader (Option Char) := do
  let c ← next
  if c = '"' then return none
  if c.toNat < 0x20 then throw .malformed
  if c ≠ '\\' then return some c
  let e ← next
  if e = 'u' then return some (← readCodePoint)
  match unescape? e with
  | some d => return some d
  | none => throw .malformed

/-- Reads a text behind its opening quote; `n` bounds the number of characters, of which those
read so far are in `read`, latest first. -/
def readTextFrom : (n : Nat) → (read : List Char) → Reader String
  | 0, _ => throw .endOfInput
  | n + 1, read => do
    match ← readTextChar with
    | none => return String.ofList read.reverse
    | some c => readTextFrom n (c :: read)

/-- Reads a text with its quotes. -/
def readText : Reader String := do
  expect ['"']
  readTextFrom ((← get).length + 1) []

/-- Steps over the next character of a text; `false` at the closing quote. -/
def skipTextChar : Reader Bool := do
  let c ← next
  if c = '"' then return false
  if c.toNat < 0x20 then throw .malformed
  if c ≠ '\\' then return true
  let e ← next
  if e = 'u' then
    let _ ← readHex4
    return true
  if (unescape? e).isNone then throw .malformed
  return true

/-- Steps over a text behind its opening quote, of at most `n` characters. -/
def skipTextFrom : (n : Nat) → Reader Unit
  | 0 => throw .endOfInput
  | n + 1 => do if ← skipTextChar then skipTextFrom n

/-- Steps over a text with its quotes. -/
def skipText : Reader Unit := do
  expect ['"']
  skipTextFrom ((← get).length + 1)

/-! ### Numbers -/

/-- Consumes the digits that come next. -/
def readDigits : Reader (List Nat) := do
  let input ← get
  set (input.dropWhile Char.isDigit)
  return (input.takeWhile Char.isDigit).map fun c => c.toNat - 48

/-- The largest significand of a number. -/
def maxSignificand : Nat := Nat.pow 2 64 - 1

/-- Appends digits to a significand as long as it does not become too large; the rest of the
digits is returned. -/
def extendSignificand (significand : Nat) : List Nat → Nat × List Nat
  | [] => (significand, [])
  | d :: ds =>
    if significand * 10 + d ≤ maxSignificand then extendSignificand (significand * 10 + d) ds
    else (significand, d :: ds)

/-- The product of `x` and a power of ten; `none` if it is too large. Powers below the least one
are divided off in steps. -/
def scaleFloat (x : Float) (exponent : Int) : Option Float :=
  if exponent.natAbs ≤ 308 then
    let power := Float.ofScientific 1 false exponent.natAbs
    if 0 ≤ exponent then
      let y := x * power
      if y.isInf then none else some y
    else some (x / power)
  else if x == 0.0 then some x
  else if 0 ≤ exponent then none
  -- dividing by more than the greatest power would need a divisor that is infinite
  else scaleFloat (x / 1e308) (exponent + 308)
termination_by exponent.natAbs

/-- The floating-point number `significand * 10 ^ exponent` with a sign. -/
def floatOf (negative : Bool) (significand : Nat) (exponent : Int) : Reader Number :=
  match scaleFloat significand.toFloat exponent with
  | none => throw .malformed
  | some x => return .float (if negative then -x else x)

/-- The largest exponent that is taken at its value. -/
def maxExponent : Nat := Nat.pow 2 31 - 1

/-- Reads an exponent behind its `e`, if there is one, for a number whose significand and exponent
so far are given. -/
def readExponent (negative : Bool) (significand : Nat) (exponent : Int) : Reader Number := do
  let some c ← peek? | floatOf negative significand exponent
  if c ≠ 'e' ∧ c ≠ 'E' then return ← floatOf negative significand exponent
  let _ ← next
  let sign ← peek?
  if sign = some '+' ∨ sign = some '-' then let _ ← next
  let some d ← peek? | throw .endOfInput
  if !d.isDigit then throw .malformed
  let e := (← readDigits).foldl (fun e d => e * 10 + d) 0
  if maxExponent < e then
    -- such an exponent decides alone: the value is out of range or zero
    if significand ≠ 0 ∧ sign ≠ some '-' then throw .malformed
    return .float (if negative then -0.0 else 0.0)
  floatOf negative significand (if sign = some '-' then exponent - e else exponent + e)

/-- Reads a number behind its sign. Integers that do not fit 64 bits, and `-0`, are
floating-point numbers. Digits beyond the largest significand only count as powers of ten. -/
def readUnsigned (negative : Bool) : Reader Number := do
  let digits ← readDigits
  match digits with
  | [] => if (← peek?).isNone then throw .endOfInput else throw .malformed
  | 0 :: _ :: _ => throw .malformed -- a leading zero
  | _ =>
    let (significand, beyond) := extendSignificand 0 digits
    let c ← peek?
    if c = some '.' then
      let _ ← next
      let decimals ← readDigits
      if decimals.isEmpty then
        if (← peek?).isNone then throw .endOfInput else throw .malformed
      -- every decimal that was appended lowers the exponent by one, the ignored ones do not
      let (significand, ignored) := extendSignificand significand decimals
      readExponent negative significand
        ((beyond.length : Int) + ignored.length - decimals.length)
    else if c = some 'e' ∨ c = some 'E' ∨ !beyond.isEmpty then
      readExponent negative significand beyond.length
    else if !negative then return .integer significand
    else if significand = 0 ∨ Nat.pow 2 63 < significand then
      return .float (-significand.toFloat)
    else return .integer (-significand)

/-- Reads a number. -/
def readNumber : Reader Number := do
  if (← peek?) = some '-' then
    let _ ← next
    readUnsigned true
  else
    readUnsigned false

/-- Consumes digits, at least one. -/
def skipDigits1 : Reader Unit := do if (← readDigits).isEmpty then throw .malformed

/-- Steps over a number of any size. -/
def skipNumber : Reader Unit := do
  if (← peek?) = some '-' then let _ ← next
  match ← readDigits with
  | [] => throw .malformed
  | 0 :: _ :: _ => throw .malformed
  | _ =>
    if (← peek?) = some '.' then
      let _ ← next
      skipDigits1
    let c ← peek?
    if c = some 'e' ∨ c = some 'E' then
      let _ ← next
      let sign ← peek?
      if sign = some '+' ∨ sign = some '-' then let _ ← next
      skipDigits1

/-! ### Values -/

/-- Reads `null`, a truth value, a number or a text. -/
def readScalar : Reader Json := do
  match ← peekToken? with
  | none => throw .endOfInput
  | some 'n' => expect "null".toList; return .null
  | some 't' => expect "true".toList; return .boolean true
  | some 'f' => expect "false".toList; return .boolean false
  | some '"' => return .text (← readText)
  | some c => if c = '-' ∨ c.isDigit then return .number (← readNumber) else throw .malformed

/-- Goes on in the middle of a list of at most `n` more items. -/
def readMore {σ : Type} (close : Char) (item : σ → Reader σ) : (n : Nat) → σ → Reader σ
  | 0, _ => throw .endOfInput
  | n + 1, s => do
    let s ← item s
    match ← peekToken? with
    | none => throw .endOfInput
    | some c =>
      let _ ← next
      if c = close then return s
      if c ≠ ',' then throw .malformed
      match ← peekToken? with
      | none => throw .endOfInput
      | some c => if c = close then throw .malformed else readMore close item n s

/-- Reads items separated by commas up to the bracket `close`, behind the opening bracket. The
state `s` is passed on from item to item. -/
def readSeparated {σ : Type} (close : Char) (item : σ → Reader σ) (s : σ) : Reader σ := do
  match ← peekToken? with
  | none => throw .endOfInput
  | some c =>
    if c = close then
      let _ ← next
      return s
    readMore close item ((← get).length + 1) s

/-- Consumes the colon between a key and its value. -/
def readColon : Reader Unit := do
  match ← peekToken? with
  | none => throw .endOfInput
  | some c => if c = ':' then let _ ← next else throw .malformed

/-- Steps over a value, whatever it is, with at most `n` nested brackets. -/
def skipValueWithin : (n : Nat) → Reader Unit
  | 0 => throw .endOfInput
  | n + 1 => do
    match ← peekToken? with
    | none => throw .endOfInput
    | some '[' =>
      let _ ← next
      readSeparated ']' (fun _ => skipValueWithin n) ()
    | some '\x7b' =>
      let _ ← next
      readSeparated '\x7d' (fun _ => do skipText; readColon; skipValueWithin n) ()
    | some '"' => skipText
    | some c =>
      if c = '-' ∨ c.isDigit then skipNumber
      else
        let _ ← readScalar

/-- Steps over a value, whatever it is. -/
def skipValue : Reader Unit := do skipValueWithin ((← get).length + 1)

/-- Reads a value with at most `depth` nested brackets. Of fields with the same key the last one
counts. -/
def readValue : (depth : Nat) → Reader Json
  | 0 => do
    match ← peekToken? with
    | some '[' | some '\x7b' => throw .malformed
    | _ => readScalar
  | depth + 1 => do
    match ← peekToken? with
    | some '[' =>
      let _ ← next
      let items ← readSeparated ']' (fun items => do return (← readValue depth) :: items) []
      return .array items.reverse
    | some '\x7b' =>
      let _ ← next
      let fields ← readSeparated '\x7d' (fun fields => do
        let key ← readText
        readColon
        return insertEntry key (← readValue depth) fields) []
      return .object fields
    | _ => readScalar

end QueryAssist.Json
