/-!
# Binary floating-point data

A format fixes how many bits hold the significand and the exponent. A datum is a
bit pattern of that format, read as a sign and a magnitude. Finite data denote
exact rationals, and the patterns of one sign are ordered as the numbers they
denote, so comparison is comparison of signed magnitudes.
-/

namespace ScriptHost.Binary

/-- The widths of a binary interchange format. `precision` counts the leading
significand bit, which normal data do not store. -/
structure Format where
  precision : Nat
  exponentBits : Nat
deriving DecidableEq, Repr

namespace Format

/-- The 64-bit interchange format. -/
def double : Format := ⟨53, 11⟩

/-- The 32-bit interchange format. -/
def single : Format := ⟨24, 8⟩

/-- All bits of a datum, the sign included. -/
def width (format : Format) : Nat := format.precision + format.exponentBits

/-- The weight of the sign bit. -/
def signWeight (format : Format) : Nat := Nat.pow 2 (format.width - 1)

/-- The weight of the unstored leading significand bit, in units of the last place. -/
def leading (format : Format) : Nat := Nat.pow 2 (format.precision - 1)

/-- The magnitude pattern of infinity. Larger magnitudes are not numbers. -/
def infinity (format : Format) : Nat := (Nat.pow 2 format.exponentBits - 1) * format.leading

/-- The exponent of the last place of the smallest data. -/
def minExponent (format : Format) : Int :=
  3 - Nat.pow 2 (format.exponentBits - 1) - format.precision

end Format

/-- A bit pattern of a format. -/
structure Datum (format : Format) where
  bits : Nat
  bits_lt : bits < Nat.pow 2 format.width
deriving DecidableEq

/-- A 64-bit datum. -/
abbrev Double : Type := Datum .double

/-- A 32-bit datum. -/
abbrev Single : Type := Datum .single

namespace Datum

variable {format : Format}

/-- The datum of the low bits of a number. -/
def ofBits (format : Format) (bits : Nat) : Datum format :=
  ⟨bits % Nat.pow 2 format.width, Nat.mod_lt _ (Nat.two_pow_pos _)⟩

instance : Inhabited (Datum format) := ⟨ofBits format 0⟩

/-- The datum of a sign and a magnitude pattern. -/
def ofSign (negative : Bool) (magnitude : Nat) : Datum format :=
  ofBits format (cond negative format.signWeight 0 + magnitude)

/-- One pattern stands for every datum that is not a number. -/
def nan : Datum format := ofSign false (format.infinity + format.leading / 2)

/-- Infinity of either sign. -/
def infinite (negative : Bool) : Datum format := ofSign negative format.infinity

/-- Zero of either sign. -/
def zero (negative : Bool) : Datum format := ofSign negative 0

/-- Whether the sign bit is set. -/
def negative (datum : Datum format) : Bool := format.signWeight ≤ datum.bits

/-- The pattern without its sign bit. -/
def magnitude (datum : Datum format) : Nat := datum.bits % format.signWeight

/-- Not a number. -/
def isNaN (datum : Datum format) : Bool := format.infinity < datum.magnitude

/-- An infinity of either sign. -/
def isInfinite (datum : Datum format) : Bool := datum.magnitude = format.infinity

/-- Neither infinite nor not a number. -/
def isFinite (datum : Datum format) : Bool := datum.magnitude < format.infinity

/-- A zero of either sign. -/
def isZero (datum : Datum format) : Bool := datum.magnitude = 0

/-- The significand of a finite datum, in units of its last place. -/
def significand (datum : Datum format) : Nat :=
  if datum.magnitude < format.leading then datum.magnitude
  else datum.magnitude % format.leading + format.leading

/-- The binary exponent of the last place of a finite datum. -/
def exponent (datum : Datum format) : Int :=
  if datum.magnitude < format.leading then format.minExponent
  else format.minExponent + (datum.magnitude / format.leading - 1 : Nat)

/-- The signed magnitude, which orders all data but those that are not numbers. -/
def rank (datum : Datum format) : Int :=
  if datum.negative then -(datum.magnitude : Int) else datum.magnitude

/-- A natural number times a power of two. -/
def scaled (number : Nat) (exponent : Int) : Rat :=
  if 0 ≤ exponent then ((number * Nat.pow 2 exponent.toNat : Nat) : Rat)
  else mkRat number (Nat.pow 2 (-exponent).toNat)

/-- The number a finite datum denotes. -/
def toRat (datum : Datum format) : Rat :=
  let absolute := scaled datum.significand datum.exponent
  if datum.negative then -absolute else absolute

/-- The order of two data, absent when either is not a number. The two zeros are equal. -/
def compare? (left right : Datum format) : Option Ordering :=
  if left.isNaN || right.isNaN then none else some (compare left.rank right.rank)

/-- Equality of numbers. A datum that is not a number equals nothing. -/
def equals (left right : Datum format) : Bool := left.compare? right == some .eq

/-- The datum with its sign turned around. -/
def neg (datum : Datum format) : Datum format := ofSign (!datum.negative) datum.magnitude

/-- The datum without its sign. -/
def abs (datum : Datum format) : Datum format := ofSign false datum.magnitude

end Datum

end ScriptHost.Binary
