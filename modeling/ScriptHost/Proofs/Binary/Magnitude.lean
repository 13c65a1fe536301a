import Mathlib.Algebra.Order.Field.Rat
import Mathlib.Algebra.Order.Ring.Cast
import Mathlib.Data.Rat.Defs
import Mathlib.Order.Monotone.Basic
import Mathlib.Tactic.Ring
import ScriptHost.Binary.Integral

/-!
# Magnitudes as numbers

The last place of the smallest data is the unit of a format. Every finite datum is a
whole number of units, and a larger magnitude pattern is a larger number of units, so
the signed patterns are ordered as the numbers they denote.
-/

namespace ScriptHost.Binary

namespace Format

/-- A format whose significands have a leading bit and whose smallest data have places below one. -/
structure Regular (format : Format) : Prop where
  precision_pos : 0 < format.precision
  minExponent_nonpos : format.minExponent ≤ 0

/-- Doubles are regular. -/
theorem double_regular : double.Regular := ⟨by decide, by decide⟩

/-- Singles are regular. -/
theorem single_regular : single.Regular := ⟨by decide, by decide⟩

/-- How many units make one. -/
def one (format : Format) : Nat := 2 ^ (-format.minExponent).toNat

/-- How many units a magnitude pattern stands for. -/
def units (format : Format) (magnitude : Nat) : Nat :=
  if magnitude < format.leading then magnitude
  else (magnitude % format.leading + format.leading) * 2 ^ (magnitude / format.leading - 1)

variable {format : Format}

theorem leading_pos (format : Format) : 0 < format.leading := Nat.two_pow_pos _

theorem one_pos (format : Format) : 0 < format.one := Nat.two_pow_pos _

/-- Infinity is followed by as many patterns as a significand has, up to the sign. -/
theorem Regular.infinity_add_leading (regular : format.Regular) :
    format.infinity + format.leading = format.signWeight := by
  have bits : format.width - 1 = format.exponentBits + (format.precision - 1) := by
    have := regular.precision_pos
    unfold width
    omega
  have whole : 2 ^ format.exponentBits - 1 + 1 = 2 ^ format.exponentBits :=
    Nat.sub_add_cancel (Nat.two_pow_pos _)
  calc format.infinity + format.leading
      = (2 ^ format.exponentBits - 1 + 1) * format.leading := (Nat.succ_mul _ _).symm
    _ = format.signWeight := by
      rw [whole, signWeight, leading, Nat.pow_eq, Nat.pow_eq, bits, Nat.pow_add]

/-- Patterns below infinity and infinity itself leave room for the sign. -/
theorem Regular.infinity_lt (regular : format.Regular) : format.infinity < format.signWeight := by
  have room := regular.infinity_add_leading
  have positive := format.leading_pos
  omega

/-- The sign is one bit. -/
theorem Regular.two_signWeight (regular : format.Regular) :
    2 * format.signWeight = Nat.pow 2 format.width := by
  have bits : format.width = format.width - 1 + 1 := by
    have := regular.precision_pos
    unfold width
    omega
  rw [signWeight, bits, Nat.pow_eq, Nat.pow_eq, Nat.pow_succ, Nat.mul_comm, Nat.add_sub_cancel]

/-- A significand at a place, where it is no longer than a significand and carry, and no shorter
than a significand except at the lowest place. -/
theorem units_pattern {place significand : Nat} (long : place = 0 ∨ format.leading ≤ significand)
    (short : significand ≤ 2 * format.leading) :
    format.units (place * format.leading + significand) = significand * 2 ^ place := by
  have positive := format.leading_pos
  unfold units
  by_cases subnormal : significand < format.leading
  · obtain rfl : place = 0 := by omega
    simp [subnormal]
  · rw [if_neg (by omega)]
    by_cases carry : significand = 2 * format.leading
    · have whole : place * format.leading + significand = (place + 2) * format.leading := by
        rw [carry]
        ring
      rw [whole, Nat.mul_mod_left, Nat.mul_div_cancel _ positive, carry, Nat.add_sub_assoc (by decide)]
      ring
    · have whole : place * format.leading + significand =
          significand - format.leading + format.leading * (place + 1) := by
        rw [Nat.mul_add, Nat.mul_one, Nat.mul_comm place]
        omega
      have rest : significand - format.leading < format.leading := by omega
      rw [whole, Nat.add_mul_mod_self_left, Nat.mod_eq_of_lt rest,
        Nat.add_mul_div_left _ _ positive, Nat.div_eq_of_lt rest, Nat.sub_add_cancel (by omega)]
      simp

/-- Every pattern is a significand at a place. -/
theorem exists_pattern (format : Format) (magnitude : Nat) :
    ∃ place significand, magnitude = place * format.leading + significand ∧
      (place = 0 ∨ format.leading ≤ significand) ∧ significand < 2 * format.leading := by
  have positive := format.leading_pos
  by_cases subnormal : magnitude < format.leading
  · exact ⟨0, magnitude, by simp, .inl rfl, by omega⟩
  · have exponent : 1 ≤ magnitude / format.leading :=
      (Nat.one_le_div_iff positive).mpr (Nat.le_of_not_lt subnormal)
    obtain ⟨place, spelled⟩ := Nat.exists_eq_add_of_le' exponent
    have fraction := Nat.mod_lt magnitude positive
    have whole := Nat.div_add_mod magnitude format.leading
    rw [spelled, Nat.mul_add, Nat.mul_one, Nat.mul_comm] at whole
    exact ⟨place, format.leading + magnitude % format.leading, by omega, .inr (by omega), by omega⟩

@[simp]
theorem units_zero (format : Format) : format.units 0 = 0 := by simp [units, format.leading_pos]

/-- The next pattern is one more at its place. -/
theorem units_strictMono (format : Format) : StrictMono format.units := by
  refine strictMono_nat_of_lt_succ fun magnitude => ?_
  obtain ⟨place, significand, spelled, long, short⟩ := format.exists_pattern magnitude
  have next : magnitude + 1 = place * format.leading + (significand + 1) := by omega
  rw [next, spelled, units_pattern long (by omega), units_pattern (by omega) (by omega)]
  exact Nat.mul_lt_mul_of_pos_right (by omega) (Nat.two_pow_pos _)

end Format

namespace Datum

variable {format : Format} {left right datum : Datum format}

/-- The bits of a sign and a pattern. -/
theorem bits_ofSign (regular : format.Regular) {magnitude : Nat} (negative : Bool)
    (room : magnitude < format.signWeight) :
    (ofSign negative magnitude : Datum format).bits =
      cond negative format.signWeight 0 + magnitude := by
  refine Nat.mod_eq_of_lt ?_
  have double := regular.two_signWeight
  cases negative <;> simp only [cond_true, cond_false] <;> omega

/-- The sign of a sign and a pattern. -/
theorem negative_ofSign (regular : format.Regular) {magnitude : Nat} (negative : Bool)
    (room : magnitude < format.signWeight) :
    (ofSign negative magnitude : Datum format).negative = negative := by
  rw [Datum.negative, bits_ofSign regular negative room]
  cases negative <;> simp [room]

/-- The pattern of a sign and a pattern. -/
theorem magnitude_ofSign (regular : format.Regular) {magnitude : Nat} (negative : Bool)
    (room : magnitude < format.signWeight) :
    (ofSign negative magnitude : Datum format).magnitude = magnitude := by
  rw [Datum.magnitude, bits_ofSign regular negative room]
  cases negative <;> simp [Nat.mod_eq_of_lt room]

/-- The rank of a sign and a pattern. -/
theorem rank_ofSign (regular : format.Regular) {magnitude : Nat} (negative : Bool)
    (room : magnitude < format.signWeight) :
    (ofSign negative magnitude : Datum format).rank =
      if negative then -(magnitude : Int) else magnitude := by
  rw [rank, negative_ofSign regular negative room, magnitude_ofSign regular negative room]

/-- A datum is its bits. -/
theorem eq_of_bits_eq (same : left.bits = right.bits) : left = right := by
  cases left
  cases right
  cases same
  rfl

/-- A pattern leaves room for the sign. -/
theorem magnitude_lt (datum : Datum format) : datum.magnitude < format.signWeight :=
  Nat.mod_lt _ (Nat.two_pow_pos _)

/-- A datum is its sign and its pattern. -/
theorem ofSign_magnitude (regular : format.Regular) (datum : Datum format) :
    ofSign datum.negative datum.magnitude = datum := by
  refine eq_of_bits_eq ?_
  rw [bits_ofSign regular _ datum.magnitude_lt, negative, magnitude]
  by_cases least : format.signWeight ≤ datum.bits
  · have size := datum.bits_lt
    rw [← regular.two_signWeight] at size
    have rest : datum.bits % format.signWeight = datum.bits - format.signWeight := by
      rw [Nat.mod_eq_sub_mod least, Nat.mod_eq_of_lt (by omega)]
    simp only [least, decide_true, cond_true, rest]
    omega
  · rw [Nat.mod_eq_of_lt (Nat.lt_of_not_le least)]
    simp [least]

/-- Only the zeros share a rank. -/
theorem eq_of_rank_eq (regular : format.Regular) (same : left.rank = right.rank)
    (filled : left.rank ≠ 0) : left = right := by
  rw [← ofSign_magnitude regular left, ← ofSign_magnitude regular right]
  unfold rank at same filled
  cases signs : left.negative <;> cases signs' : right.negative <;>
    simp only [signs, signs', Bool.false_eq_true, if_false, if_true] at same filled <;>
    first
    | omega
    | exact congrArg _ (by omega)

/-- How many units a finite datum stands for, with its sign. -/
def units (datum : Datum format) : Int :=
  if datum.negative then -(format.units datum.magnitude : Int) else format.units datum.magnitude

theorem natAbs_units (datum : Datum format) :
    datum.units.natAbs = format.units datum.magnitude := by
  unfold units
  split <;> omega

/-- Data are ordered as the numbers they denote. -/
theorem units_lt_units : left.units < right.units ↔ left.rank < right.rank := by
  have mono := format.units_strictMono
  have above := mono.lt_iff_lt (a := left.magnitude) (b := right.magnitude)
  have below := mono.lt_iff_lt (a := right.magnitude) (b := left.magnitude)
  have leftPositive := mono.lt_iff_lt (a := 0) (b := left.magnitude)
  have rightPositive := mono.lt_iff_lt (a := 0) (b := right.magnitude)
  rw [format.units_zero] at leftPositive rightPositive
  unfold units rank
  split <;> split <;> omega

/-- Scaling is multiplication by a power of two. -/
theorem scaled_eq (number : Nat) (exponent : Int) : scaled number exponent = number * 2 ^ exponent := by
  unfold scaled
  split
  case isTrue least =>
    obtain ⟨power, rfl⟩ := Int.eq_ofNat_of_zero_le least
    simp
  case isFalse negative =>
    obtain ⟨power, spelled⟩ := Int.eq_ofNat_of_zero_le (show 0 ≤ -exponent by omega)
    obtain rfl : exponent = -(power : Int) := by omega
    simp [Rat.mkRat_eq_div, div_eq_mul_inv]

/-- The significand at its exponent makes up the units. -/
theorem scaled_significand (regular : format.Regular) (datum : Datum format) :
    scaled datum.significand datum.exponent = format.units datum.magnitude / format.one := by
  have lowest : (2 : Rat) ^ format.minExponent = ((format.one : Nat) : Rat)⁻¹ := by
    obtain ⟨places, spelled⟩ := Int.eq_ofNat_of_zero_le (Int.neg_nonneg.mpr regular.minExponent_nonpos)
    have lowered : format.minExponent = -(places : Int) := by omega
    rw [Format.one, lowered]
    simp
  rw [scaled_eq, significand, exponent, Format.units]
  split
  · rw [lowest, div_eq_mul_inv]
  · rw [zpow_add₀ (by decide), lowest, zpow_natCast]
    push_cast
    ring

/-- A datum denotes its units. -/
theorem toRat_eq (regular : format.Regular) (datum : Datum format) :
    datum.toRat = datum.units / format.one := by
  rw [toRat, scaled_significand regular, units]
  split <;> push_cast <;> ring

/-- A datum denotes the fraction that its units make up. -/
theorem toRat_eq_iff (regular : format.Regular) {value : Rat} :
    datum.toRat = value ↔ value.num * format.one = datum.units * value.den := by
  have one : (format.one : Rat) ≠ 0 := Nat.cast_ne_zero.mpr (Nat.ne_of_gt format.one_pos)
  have den : (value.den : Rat) ≠ 0 := Nat.cast_ne_zero.mpr value.den_nz
  have scaled : (value.num : Rat) * format.one = value * format.one * value.den := by
    rw [← Rat.mul_den_eq_num]
    ring
  have fraction : value.num * format.one = datum.units * value.den ↔
      value * format.one * value.den = (datum.units : Rat) * value.den := by
    rw [← scaled]
    exact_mod_cast Iff.rfl
  rw [fraction, mul_left_inj' den, toRat_eq regular, div_eq_iff one, eq_comm]

/-- The fraction a datum denotes, in units. -/
theorem num_mul_one (regular : format.Regular) (datum : Datum format) :
    datum.toRat.num * format.one = datum.units * datum.toRat.den :=
  (toRat_eq_iff regular).mp rfl

/-- A datum denotes a negative number if its rank is negative. -/
theorem num_neg_iff (regular : format.Regular) (datum : Datum format) :
    datum.toRat.num < 0 ↔ datum.rank < 0 := by
  have one : (0 : Rat) < format.one := Nat.cast_pos.mpr format.one_pos
  have positive := format.units_strictMono.lt_iff_lt (a := 0) (b := datum.magnitude)
  rw [format.units_zero] at positive
  rw [Rat.num_neg, toRat_eq regular, div_lt_iff₀ one, zero_mul, Int.cast_lt_zero, units, rank]
  split <;> omega

/-- The numbers that data denote are ordered as the ranks. -/
theorem toRat_le_toRat (regular : format.Regular) :
    left.toRat ≤ right.toRat ↔ left.rank ≤ right.rank := by
  have one : (0 : Rat) < format.one := Nat.cast_pos.mpr format.one_pos
  rw [toRat_eq regular, toRat_eq regular, div_le_div_iff_of_pos_right one, Int.cast_le,
    ← not_lt, units_lt_units, not_lt]

end Datum

end ScriptHost.Binary
