import QueryAssist.Decimal.Shortest

/-!
# Writing floating-point numbers

Numbers are written with the fewest digits that read back: in positional notation, with at least
one digit after the point, as long as the exponent of the leading digit is between -5 and 15, and
otherwise with an exponent that always has a sign.

## Main definitions

* `Decimal.write` — the notation of a decimal
* `Decimal.writeFloat` — the notation of a finite floating-point number
-/

namespace QueryAssist.Decimal

/-- The decimal digits of a natural number. -/
def digitText (n : Nat) : String := String.ofList (Nat.toDigits 10 n)

/-- As many zeros as `n` says. -/
def zeros (n : Nat) : String := String.ofList (List.replicate n '0')

/-- The least and the greatest exponent of a leading digit in positional notation. -/
def positionalExponents : Int × Int := (-5, 15)

/-- The notation of a decimal without zeros at its end. -/
def write (d : Decimal) : String :=
  let digits := digitText d.digits
  -- the exponent of the leading digit
  let lead := d.exponent + digits.length - 1
  if positionalExponents.1 ≤ lead ∧ lead ≤ positionalExponents.2 then
    if 0 ≤ d.exponent then digits ++ zeros d.exponent.toNat ++ ".0"
    else if 0 ≤ lead then
      let whole := lead.toNat + 1
      String.ofList (digits.toList.take whole) ++ "." ++ String.ofList (digits.toList.drop whole)
    else "0." ++ zeros (-lead - 1).toNat ++ digits
  else
    let mantissa := match digits.toList with
      | [] => ""
      | [c] => String.ofList [c]
      | c :: rest => String.ofList (c :: '.' :: rest)
    mantissa ++ (if lead < 0 then "e-" else "e+") ++ digitText lead.natAbs

/-- The notation of a finite floating-point number. Both zeros keep their sign. -/
def writeFloat (x : Float) : String :=
  let bits := x.toBits
  let value := Binary.ofBits bits
  let magnitude := if value.significand = 0 then "0.0" else write value.shortest
  if bits >>> 63 == 1 then "-" ++ magnitude else magnitude

end QueryAssist.Decimal
