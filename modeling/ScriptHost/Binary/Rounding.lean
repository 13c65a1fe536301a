import ScriptHost.Binary.Datum

/-!
# Rounding to the nearest datum

Every arithmetic result here is an exact rational rounded once. A rational goes to
the nearest datum of the format; one halfway between two data goes to the even
significand, and one beyond the largest finite datum by half a place or more goes
to infinity.
-/

namespace ScriptHost.Binary

/-- The exponent `k` with `2 ^ k ≤ numerator / denominator < 2 ^ (k + 1)`, both positive. -/
def floorLog2 (numerator denominator : Nat) : Int :=
  let estimate : Int := (numerator.log2 : Int) - denominator.log2
  let reached : Bool :=
    if 0 ≤ estimate then decide (denominator * Nat.pow 2 estimate.toNat ≤ numerator)
    else decide (denominator ≤ numerator * Nat.pow 2 (-estimate).toNat)
  if reached then estimate else estimate - 1

/-- The nearest natural number to a quotient, the even one of two equally near. -/
def roundQuotient (numerator denominator : Nat) : Nat :=
  let quotient := numerator / denominator
  let twice := 2 * (numerator % denominator)
  if denominator < twice || (twice == denominator && quotient % 2 == 1) then quotient + 1
  else quotient

/-- The magnitude pattern nearest to a positive quotient.

A significand that rounds up to the next power of two carries into the exponent
field, where it is the right pattern again, and into infinity at the top. -/
def nearestMagnitude (format : Format) (numerator denominator : Nat) : Nat :=
  if numerator = 0 then 0
  else
    let lastPlace : Int :=
      max format.minExponent (floorLog2 numerator denominator - (format.precision - 1 : Nat))
    let significand :=
      if 0 ≤ lastPlace then roundQuotient numerator (denominator * Nat.pow 2 lastPlace.toNat)
      else roundQuotient (numerator * Nat.pow 2 (-lastPlace).toNat) denominator
    min format.infinity
      ((lastPlace - format.minExponent).toNat * format.leading + significand)

namespace Datum

variable {format : Format}

/-- The datum nearest to a rational. `zeroSign` is the sign of an exact zero. -/
def ofRat (zeroSign : Bool) (value : Rat) : Datum format :=
  if value.num = 0 then zero zeroSign
  else ofSign (value.num < 0) (nearestMagnitude format value.num.natAbs value.den)

/-- The datum nearest to an integer. -/
def ofInt (value : Int) : Datum format := ofRat false value

/-- The nearest datum of another format. -/
def convert (target : Format) (datum : Datum format) : Datum target :=
  if datum.isNaN then nan
  else if datum.isInfinite then infinite datum.negative
  else ofRat datum.negative datum.toRat

end Datum

end ScriptHost.Binary
