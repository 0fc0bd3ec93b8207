import QueryAssist.Text.Ranges

/-!
# Blanks

The Unicode property `White_Space`, and the removal of blanks at the ends of a text.

## Main definitions

* `Text.isBlank` — membership in the property
* `Text.trimStart`, `Text.trimEnd`, `Text.trim` — a text without its outer blanks
* `Text.leadingBlanks` — the blanks a text begins with
-/

namespace QueryAssist.Text

/-- The 25 code points of the property, as ascending closed ranges. -/
def blankRanges : List (Nat × Nat) :=
  [(0x09, 0x0D), (0x20, 0x20), (0x85, 0x85), (0xA0, 0xA0), (0x1680, 0x1680), (0x2000, 0x200A),
    (0x2028, 0x2029), (0x202F, 0x202F), (0x205F, 0x205F), (0x3000, 0x3000)]

/-- A blank: a space, a line break or another white-space character. -/
def isBlank (c : Char) : Bool := inRanges c.toNat blankRanges

/-- The blanks a text begins with. -/
def leadingBlanks (s : List Char) : List Char := s.takeWhile isBlank

/-- A text without the blanks it begins with. -/
def trimStart (s : List Char) : List Char := s.dropWhile isBlank

/-- A text without the blanks it ends with. -/
def trimEnd (s : List Char) : List Char := (s.reverse.dropWhile isBlank).reverse

/-- A text without the blanks at either end. -/
def trim (s : List Char) : List Char := trimEnd (trimStart s)

@[simp] theorem leadingBlanks_append_trimStart (s : List Char) :
    leadingBlanks s ++ trimStart s = s := List.takeWhile_append_dropWhile

end QueryAssist.Text
