import ScriptHost.Binary.Rounding

/-!
# Decimal text of binary data

A finite datum is written with the fewest significant digits that read back as the
same datum. Among texts with that many digits the one nearest to the datum is
taken, and of two equally near the larger. The text is positional: it has no
exponent. Reading rounds the exact decimal once.
-/

namespace ScriptHost.Binary

/-- A natural number in decimal digits. -/
def decimalDigits (number : Nat) : List Char := Nat.toDigits 10 number

/-- The exponent `k` with `10 ^ k ≤ numerator / denominator < 10 ^ (k + 1)`, both positive. -/
def floorLog10 (numerator denominator : Nat) : Int :=
  let estimate : Int := (decimalDigits numerator).length - (decimalDigits denominator).length
  let reached : Bool :=
    if 0 ≤ estimate then decide (denominator * Nat.pow 10 estimate.toNat ≤ numerator)
    else decide (denominator ≤ numerator * Nat.pow 10 (-estimate).toNat)
  if reached then estimate else estimate - 1

/-- The numbers that round to one datum, as multiples of a common unit:
`value`, `low` and `high` over `denominator`. The ends belong to it if `closed`. -/
structure RoundingInterval where
  low : Nat
  value : Nat
  high : Nat
  denominator : Nat
  closed : Bool

/-- A decimal: `digits` times ten to `exponent`. -/
structure Decimal where
  digits : Nat
  exponent : Int
deriving DecidableEq, Repr

/-- The successor on the same grid. One that ends in zero is on the next coarser grid too. -/
def Decimal.next (decimal : Decimal) : Decimal :=
  if (decimal.digits + 1) % 10 = 0 then ⟨(decimal.digits + 1) / 10, decimal.exponent + 1⟩
  else ⟨decimal.digits + 1, decimal.exponent⟩

namespace RoundingInterval

/-- Both sides of the comparison of a decimal with a multiple of the interval's unit. -/
def sides (interval : RoundingInterval) (decimal : Decimal) (multiple : Nat) : Nat × Nat :=
  if 0 ≤ decimal.exponent then
    (decimal.digits * Nat.pow 10 decimal.exponent.toNat * interval.denominator, multiple)
  else (decimal.digits * interval.denominator, multiple * Nat.pow 10 (-decimal.exponent).toNat)

/-- Whether a decimal rounds to the interval's datum. -/
def contains (interval : RoundingInterval) (decimal : Decimal) : Bool :=
  let (below, low) := interval.sides decimal interval.low
  let (above, high) := interval.sides decimal interval.high
  if interval.closed then decide (low ≤ below) && decide (above ≤ high)
  else decide (low < below) && decide (above < high)

/-- The distance of a decimal from the interval's value, in units shared by one exponent. -/
def distance (interval : RoundingInterval) (decimal : Decimal) : Nat :=
  let (left, right) := interval.sides decimal interval.value
  if left ≤ right then right - left else left - right

/-- The value cut down to a multiple of ten to `exponent`. -/
def floorAt (interval : RoundingInterval) (exponent : Int) : Nat :=
  if 0 ≤ exponent then interval.value / (interval.denominator * Nat.pow 10 exponent.toNat)
  else interval.value * Nat.pow 10 (-exponent).toNat / interval.denominator

/-- The nearer of the value's two neighbours on a decimal grid that lie in the interval. -/
def onGrid (interval : RoundingInterval) (exponent : Int) : Option Decimal :=
  let below : Decimal := ⟨interval.floorAt exponent, exponent⟩
  let above := below.next
  if interval.contains below && (!interval.contains above ||
      decide (interval.distance below < interval.distance above)) then some below
  else if interval.contains above then some above
  else none

/-- The first hit on grids that grow finer, starting at `exponent`. -/
def search (interval : RoundingInterval) : Nat → Int → Decimal
  | 0, exponent => ⟨interval.floorAt exponent, exponent⟩
  | steps + 1, exponent =>
    match interval.onGrid exponent with
    | some decimal => decimal
    | none => search interval steps (exponent - 1)

end RoundingInterval

namespace Datum

variable {format : Format}

/-- The rounding interval of a positive finite magnitude. The gap below a power of two
is half the gap above it, except among the smallest data. -/
def roundingInterval (datum : Datum format) : RoundingInterval :=
  let quarters := 4 * datum.significand
  let gapBelow :=
    if datum.significand = format.leading && decide (format.minExponent < datum.exponent) then 1
    else 2
  let exponent := datum.exponent - 2
  let unit := Nat.pow 2 exponent.toNat
  { low := (quarters - gapBelow) * unit
    value := quarters * unit
    high := (quarters + 2) * unit
    denominator := Nat.pow 2 (-exponent).toNat
    closed := datum.significand % 2 == 0 }

/-- The shortest decimal that reads back as a positive finite magnitude. -/
def shortestDecimal (datum : Datum format) : Decimal :=
  let interval := datum.roundingInterval
  interval.search (format.precision + 1) (floorLog10 interval.value interval.denominator)

end Datum

/-- A decimal in positional notation. -/
def Decimal.positional (decimal : Decimal) : List Char :=
  let digits := decimalDigits decimal.digits
  if 0 ≤ decimal.exponent then digits ++ List.replicate decimal.exponent.toNat '0'
  else
    let places := (-decimal.exponent).toNat
    let padded := List.replicate (places + 1 - digits.length) '0' ++ digits
    padded.take (padded.length - places) ++ '.' :: padded.drop (padded.length - places)

namespace Datum

variable {format : Format}

/-- The text of a datum. -/
def text (datum : Datum format) : String :=
  if datum.isNaN then "NaN"
  else
    let sign := if datum.negative then "-" else ""
    if datum.isInfinite then sign ++ "inf"
    else if datum.isZero then sign ++ "0"
    else sign ++ String.ofList datum.shortestDecimal.positional

/-- The datum nearest to a decimal. Exponents far outside the format's range are
settled without computing the power of ten. -/
def ofDecimal (decimal : Decimal) : Datum format :=
  let top : Int := decimal.exponent + (decimalDigits decimal.digits).length
  let reach : Int := Nat.pow 2 format.exponentBits
  if decimal.digits = 0 then zero false
  else if reach < top then infinite false
  else if top < -reach then zero false
  else if 0 ≤ decimal.exponent then
    ofSign false (nearestMagnitude format (decimal.digits * Nat.pow 10 decimal.exponent.toNat) 1)
  else
    ofSign false (nearestMagnitude format decimal.digits (Nat.pow 10 (-decimal.exponent).toNat))

end Datum

end ScriptHost.Binary
