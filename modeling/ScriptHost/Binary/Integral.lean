import ScriptHost.Binary.Rounding

/-!
# Integers in binary data

A finite datum without a fraction stands for an integer if it lies between the
bounds of 64-bit integers. The upper bound of that comparison is the nearest datum
to the largest integer, which is one above it, so that datum is cut to the largest
integer.
-/

namespace ScriptHost.Binary

/-- The largest 64-bit integer. -/
def largestInt64 : Int := 0x7FFFFFFFFFFFFFFF

/-- The smallest 64-bit integer. -/
def smallestInt64 : Int := -0x8000000000000000

/-- Whether an integer passes the bounds of a conversion from binary data. -/
def withinBounds (value : Int) : Bool := smallestInt64 ≤ value && value ≤ largestInt64 + 1

/-- A 64-bit integer of an integer that passes the bounds, cut to the largest one. -/
def cutToInt64 (value : Int) : Int64 := Int64.ofInt (min value largestInt64)

namespace Datum

variable {format : Format}

/-- The integer that a datum without a fraction stands for. -/
def toInt64? (datum : Datum format) : Option Int64 :=
  if datum.isFinite && datum.toRat.den == 1 && withinBounds datum.toRat.num then
    some (cutToInt64 datum.toRat.num)
  else none

end Datum

end ScriptHost.Binary
