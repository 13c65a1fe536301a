import ScriptHost.Binary.Rounding

/-!
# Arithmetic on binary data

Sums, products, quotients and integral parts of finite data are computed exactly on
the rationals and rounded once. A square root is rounded from a root truncated
beyond the format's precision together with one bit that says whether anything was
cut off. Infinite operands, division by zero and operands that are not numbers
follow the usual rules of binary arithmetic.
-/

namespace ScriptHost.Binary

/-- The integer square root by bisection over the bits below `bound`, from a known part. -/
def rootFrom (number : Nat) : Nat → Nat → Nat
  | 0, known => known
  | bit + 1, known =>
    let candidate := known + Nat.pow 2 bit
    rootFrom number bit (if candidate * candidate ≤ number then candidate else known)

/-- The largest natural number whose square is at most `number`. -/
def integerRoot (number : Nat) : Nat := rootFrom number (number.log2 / 2 + 1) 0

namespace Datum

variable {format : Format}

/-- Exact sum, rounded. Opposite zeros and exact cancellations give positive zero. -/
def add (left right : Datum format) : Datum format :=
  if left.isNaN || right.isNaN then nan
  else if left.isInfinite then
    if right.isInfinite && left.negative != right.negative then nan else left
  else if right.isInfinite then right
  else ofRat (left.negative && right.negative) (left.toRat + right.toRat)

/-- Exact difference, rounded. -/
def sub (left right : Datum format) : Datum format := left.add right.neg

/-- Exact product, rounded. -/
def mul (left right : Datum format) : Datum format :=
  let sign := left.negative != right.negative
  if left.isNaN || right.isNaN then nan
  else if left.isInfinite || right.isInfinite then
    if left.isZero || right.isZero then nan else infinite sign
  else ofRat sign (left.toRat * right.toRat)

/-- Exact quotient, rounded. A finite datum over zero is infinite, and zero over zero is no
number. -/
def div (left right : Datum format) : Datum format :=
  let sign := left.negative != right.negative
  if left.isNaN || right.isNaN then nan
  else if left.isInfinite then
    if right.isInfinite then nan else infinite sign
  else if right.isInfinite then zero sign
  else if right.isZero then
    if left.isZero then nan else infinite sign
  else ofRat sign (left.toRat / right.toRat)

/-- The largest integral datum that is not above. -/
def floor (datum : Datum format) : Datum format :=
  if datum.isFinite then ofRat datum.negative datum.toRat.floor else datum

/-- The smallest integral datum that is not below. -/
def ceil (datum : Datum format) : Datum format :=
  if datum.isFinite then ofRat datum.negative datum.toRat.ceil else datum

/-- The square root of a positive finite datum, rounded. -/
def rootOfPositive (datum : Datum format) : Datum format :=
  let shift := 2 * (format.precision + 2)
  let even : Nat := if datum.exponent % 2 = 0 then shift else shift + 1
  let radicand := datum.significand * Nat.pow 2 even
  let root := integerRoot radicand
  let sticky := if root * root = radicand then 0 else 1
  ofRat false (scaled (2 * root + sticky) ((datum.exponent - even) / 2 - 1))

/-- The square root. A negative datum has none, and each zero is its own root. -/
def sqrt (datum : Datum format) : Datum format :=
  if datum.isNaN then nan
  else if datum.isZero then datum
  else if datum.negative then nan
  else if datum.isInfinite then datum
  else rootOfPositive datum

end Datum

end ScriptHost.Binary
