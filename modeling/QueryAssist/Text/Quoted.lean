import QueryAssist.Text.Printable

/-!
# Quoted text

Text in double quotes, with everything escaped that could not be read off the page: double quotes,
backslashes, and characters without an appearance of their own. A single quote stands for itself.

## Main definitions

* `Text.quoted` — a text in quotes
-/

namespace QueryAssist.Text

/-- The form of a character in quoted text. -/
def quotedChar (c : Char) : List Char :=
  if c = '\x00' then ['\\', '0']
  else if c = '\t' then ['\\', 't']
  else if c = '\r' then ['\\', 'r']
  else if c = '\n' then ['\\', 'n']
  else if c = '\\' ∨ c = '"' then ['\\', c]
  else if isLegible c then [c]
  else ['\\', 'u', '\x7b'] ++ Nat.toDigits 16 c.toNat ++ ['\x7d']

/-- A text in double quotes. -/
def quoted (s : String) : String := String.ofList ('"' :: (s.toList.flatMap quotedChar ++ ['"']))

end QueryAssist.Text
