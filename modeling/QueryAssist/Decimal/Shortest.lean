/-!
# The fewest digits that read back

A finite binary floating-point value stands for an interval of reals, those that round to it. The
shortest decimal of the value is a decimal in the interval with as few digits as possible, and of
those the nearest to the value.

## Main definitions

* `Decimal` — a decimal, digits times a power of ten
* `Decimal.Binary` — a finite value, an integer times a power of two
* `Decimal.Binary.readsBack` — whether a decimal lies in the interval of a value
* `Decimal.Binary.shortest` — the shortest decimal of a value
-/

namespace QueryAssist

/-- The decimal `digits * 10 ^ exponent`. -/
structure Decimal where
  /-- The digits, read as a natural number. -/
  digits : Nat
  /-- The power of ten. -/
  exponent : Int
deriving DecidableEq, Repr

namespace Decimal

/-- The nonnegative value `significand * 2 ^ exponent`. -/
structure Binary where
  /-- The integer part of the product. -/
  significand : Nat
  /-- The power of two. -/
  exponent : Int
  /-- Whether the next lower value is only half as far away as the next higher one. -/
  narrowBelow : Bool
deriving DecidableEq, Repr

namespace Binary

/-- The magnitude of the finite 64-bit value with the given bits. -/
def ofBits (bits : UInt64) : Binary :=
  let biased := ((bits >>> 52) &&& 0x7FF).toNat
  let fraction := (bits &&& 0xFFFFFFFFFFFFF).toNat
  if biased = 0 then ⟨fraction, -1074, false⟩
  else ⟨Nat.pow 2 52 + fraction, (biased : Int) - 1075, fraction == 0 && biased > 1⟩

end Binary

/-- Compares `a * 10 ^ i` with `b * 2 ^ j`. -/
def compareScaled (a : Nat) (i : Int) (b : Nat) (j : Int) : Ordering :=
  compare (a * Nat.pow 10 i.toNat * Nat.pow 2 (-j).toNat)
    (b * Nat.pow 2 j.toNat * Nat.pow 10 (-i).toNat)

namespace Binary

/-- Whether the decimal `digits * 10 ^ exponent` lies between the midpoints to the neighbours of
the value. The midpoints themselves count if the significand is even. -/
def readsBack (x : Binary) (d : Decimal) : Bool :=
  -- in quarters of the last binary place both midpoints are integers
  let low := 4 * x.significand - (if x.narrowBelow then 1 else 2)
  let high := 4 * x.significand + 2
  let withEnds := x.significand % 2 == 0
  let atLow := compareScaled d.digits d.exponent low (x.exponent - 2)
  let atHigh := compareScaled d.digits d.exponent high (x.exponent - 2)
  (atLow == .gt || (withEnds && atLow == .eq)) && (atHigh == .lt || (withEnds && atHigh == .eq))

/-- The integer part of the value divided by `10 ^ e`. -/
def floorDiv (x : Binary) (e : Int) : Nat :=
  (x.significand * Nat.pow 2 x.exponent.toNat * Nat.pow 10 (-e).toNat) /
    (Nat.pow 2 (-x.exponent).toNat * Nat.pow 10 e.toNat)

/-- Of the two multiples of `10 ^ e` around the value, the ones that read back; the nearer one if
both do, and of two equally near ones that with an even last digit. -/
def onGrid? (x : Binary) (e : Int) : Option Decimal :=
  let below : Decimal := ⟨x.floorDiv e, e⟩
  let above : Decimal := ⟨x.floorDiv e + 1, e⟩
  match x.readsBack below, x.readsBack above with
  | true, false => some below
  | false, true => some above
  | false, false => none
  | true, true =>
    match compareScaled (below.digits + above.digits) e (2 * x.significand) x.exponent with
    | .gt => some below
    | .lt => some above
    | .eq => some (if below.digits % 2 = 0 then below else above)

/-- The least `k` among `e`, `e - 1`, … such that the value is below `10 ^ k`, looking at most
`fuel` steps down from `e`, which must itself be large enough. -/
def scaleFrom (x : Binary) : (fuel : Nat) → (e : Int) → Int
  | 0, e => e
  | fuel + 1, e =>
    if compareScaled 1 (e - 1) x.significand x.exponent == .gt then scaleFrom x fuel (e - 1) else e

/-- The number of digits before the decimal point of a positive value, negative for values below
a tenth: the least `k` such that the value is below `10 ^ k`. -/
def scale (x : Binary) : Int :=
  let upper := ((x.significand.log2 : Int) + x.exponent + 1) * 30103 / 100000 + 2
  x.scaleFrom 8 upper

/-- The digits of the value written out in full. -/
def exactly (x : Binary) : Decimal :=
  ⟨x.significand * Nat.pow 2 x.exponent.toNat * Nat.pow 5 (-x.exponent).toNat, min x.exponent 0⟩

end Binary

/-- The decimal without zeros at its end, at most `fuel` of them. -/
def stripZeros : (fuel : Nat) → Decimal → Decimal
  | 0, d => d
  | fuel + 1, d =>
    if d.digits ≠ 0 ∧ d.digits % 10 = 0 then stripZeros fuel ⟨d.digits / 10, d.exponent + 1⟩ else d

/-- The shortest decimal that reads back to a positive value. Seventeen digits always do. -/
def Binary.shortest (x : Binary) : Decimal :=
  let k := x.scale
  let found := (List.range 17).findSome? fun (n : Nat) => x.onGrid? (k - 1 - n)
  stripZeros 20 (found.getD x.exactly)

end Decimal

end QueryAssist
