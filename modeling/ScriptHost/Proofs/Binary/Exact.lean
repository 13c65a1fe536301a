import ScriptHost.Proofs.Binary.Integral

/-!
# Integers that are data

An integer of no more significant bits than a significand has is a datum, and no other integer is:
rounding takes the place that the significand of an integer reaches, and what the integer has below
this place is lost.
-/

namespace ScriptHost.Binary

namespace Format

/-- A natural number of no more significant bits than a significand has, whatever its size: a
multiple of a power of two that has few enough bits from there on. -/
def Holds (format : Format) (number : Nat) : Prop :=
  ∃ place, 2 ^ place ∣ number ∧ number < 2 ^ (format.precision + place)

variable {format : Format} {number : Nat}

/-- Two leading bits are one bit more than a significand has. -/
theorem Regular.two_leading (regular : format.Regular) :
    2 * format.leading = 2 ^ format.precision := by
  have bits : format.precision = format.precision - 1 + 1 := by
    have := regular.precision_pos
    omega
  rw [leading, bits, Nat.pow_eq, Nat.pow_succ, Nat.mul_comm, Nat.add_sub_cancel]

/-- Zero bits at the end do not count. -/
theorem holds_mul_two_pow_iff (power : Nat) :
    format.Holds (number * 2 ^ power) ↔ format.Holds number := by
  have positive : 0 < 2 ^ power := Nat.two_pow_pos power
  constructor
  · rintro ⟨place, divides, short⟩
    -- At a place among the zero bits, the number itself is no longer than a significand.
    by_cases low : place ≤ power
    · refine ⟨0, Nat.one_dvd _, Nat.lt_of_mul_lt_mul_right (a := 2 ^ power) ?_⟩
      calc number * 2 ^ power < 2 ^ (format.precision + place) := short
        _ ≤ 2 ^ (format.precision + power) := Nat.pow_le_pow_right (by decide) (by omega)
        _ = 2 ^ (format.precision + 0) * 2 ^ power := by rw [Nat.add_zero, Nat.pow_add]
    · obtain ⟨last, rfl⟩ := Nat.exists_eq_add_of_le (Nat.le_of_not_le low)
      rw [Nat.pow_add, Nat.mul_comm (2 ^ power)] at divides
      rw [Nat.add_comm power, ← Nat.add_assoc, Nat.pow_add] at short
      exact ⟨last, Nat.dvd_of_mul_dvd_mul_right positive divides, Nat.lt_of_mul_lt_mul_right short⟩
  · rintro ⟨last, divides, short⟩
    refine ⟨last + power, ?_, ?_⟩
    · rw [Nat.pow_add]
      exact Nat.mul_dvd_mul_right divides _
    · rw [← Nat.add_assoc, Nat.pow_add]
      exact Nat.mul_lt_mul_of_pos_right short positive

/-- Every pattern stands for a number of units that has few bits. -/
theorem Regular.holds_units (regular : format.Regular) (magnitude : Nat) :
    format.Holds (format.units magnitude) := by
  obtain ⟨place, significand, spelled, long, short⟩ := format.exists_pattern magnitude
  rw [spelled, units_pattern long (Nat.le_of_lt short)]
  refine ⟨place, Nat.dvd_mul_left _ _, ?_⟩
  rw [Nat.pow_add, ← regular.two_leading]
  exact Nat.mul_lt_mul_of_pos_right short (Nat.two_pow_pos place)

end Format

variable {format : Format} {number count denominator place : Nat}

/-- A number of units has few bits if it has none below its place, and only then. -/
theorem Place.dvd_iff (regular : format.Regular)
    (located : Place format (count * denominator) denominator place) :
    2 ^ place ∣ count ↔ format.Holds count := by
  have positive : 0 < denominator := located.denominator_pos
  constructor
  · intro divides
    refine ⟨place, divides, Nat.lt_of_mul_lt_mul_right (a := denominator) ?_⟩
    calc count * denominator < 2 * format.leading * (denominator * 2 ^ place) := located.short
      _ = 2 ^ (format.precision + place) * denominator := by
        rw [regular.two_leading, Nat.pow_add]
        ring
  · rintro ⟨last, divides, short⟩
    rcases located.long with lowest | long
    · rw [lowest]
      exact Nat.one_dvd _
    · have powers : format.leading * denominator * 2 ^ place <
          format.leading * denominator * 2 ^ (last + 1) :=
        calc format.leading * denominator * 2 ^ place
            = format.leading * (denominator * 2 ^ place) := Nat.mul_assoc ..
          _ ≤ count * denominator := long
          _ < 2 ^ (format.precision + last) * denominator :=
            Nat.mul_lt_mul_of_pos_right short positive
          _ = format.leading * denominator * 2 ^ (last + 1) := by
            rw [Nat.pow_add, ← regular.two_leading]
            ring
      have below := (Nat.pow_lt_pow_iff_right Nat.one_lt_two).mp (Nat.lt_of_mul_lt_mul_left powers)
      exact Nat.dvd_trans (Nat.pow_dvd_pow 2 (Nat.le_of_lt_succ below)) divides

/-- The numbers of units that have few bits are those that patterns stand for. -/
theorem Format.Holds.exists_units (regular : format.Regular) (held : format.Holds count) :
    ∃ magnitude, format.units magnitude = count := by
  by_cases none : count = 0
  · exact ⟨0, by rw [none, format.units_zero]⟩
  obtain ⟨place, located, -⟩ := exists_place regular (Nat.pos_of_ne_zero none) format.one_pos
  obtain ⟨significand, rfl⟩ := (located.dvd_iff regular).mpr held
  have whole : 2 ^ place * significand * format.one = significand * (format.one * 2 ^ place) := by
    ring
  obtain ⟨long, short⟩ := located.significand
  rw [whole, roundQuotient_mul (Nat.mul_pos format.one_pos (Nat.two_pow_pos place))] at long short
  exact ⟨_, (format.units_pattern long short).trans (Nat.mul_comm _ _)⟩

/-- The nearest pattern stands for a natural number itself if the number has few enough bits, and
only then. -/
theorem units_nearestMagnitude_eq_iff (regular : format.Regular)
    (finite : nearestMagnitude format number 1 < format.infinity) :
    format.units (nearestMagnitude format number 1) = number * format.one ↔
      format.Holds number := by
  by_cases none : number = 0
  · subst none
    have held : format.Holds 0 := ⟨0, Nat.one_dvd _, Nat.two_pow_pos _⟩
    simp [held]
  obtain ⟨place, located, nearest⟩ :=
    exists_place_of_finite regular (Nat.pos_of_ne_zero none) Nat.one_pos finite
  have significand := located.significand
  rw [Nat.one_mul] at nearest significand
  rw [← Nat.mul_one (number * format.one)] at located
  have few : 2 ^ place ∣ number * format.one ↔ format.Holds number :=
    (located.dvd_iff regular).trans (Format.holds_mul_two_pow_iff _)
  rw [nearest, Format.units_pattern significand.1 significand.2, ← few]
  constructor
  · intro same
    exact same ▸ Nat.dvd_mul_left _ _
  · rintro ⟨whole, spelled⟩
    rw [spelled, Nat.mul_comm (2 ^ place), roundQuotient_mul (Nat.two_pow_pos place)]

namespace Datum

/-- The units of the nearest datum to a number. -/
theorem units_ofRat (regular : format.Regular) (zeroSign : Bool) (value : Rat) :
    (ofRat zeroSign value : Datum format).units =
      if value.num < 0 then -(format.units (nearestMagnitude format value.num.natAbs value.den) : Int)
      else format.units (nearestMagnitude format value.num.natAbs value.den) := by
  have room : nearestMagnitude format value.num.natAbs value.den < format.signWeight :=
    Nat.lt_of_le_of_lt (nearestMagnitude_le _ _ _) regular.infinity_lt
  rw [ofRat]
  split
  case isTrue none =>
    rw [none, units, zero, magnitude_ofSign regular _ (Nat.two_pow_pos _)]
    simp
  case isFalse =>
    rw [units, negative_ofSign regular _ room, magnitude_ofSign regular _ room]
    simp only [decide_eq_true_eq]

/-- The units of the nearest datum to an integer. -/
theorem units_ofInt (regular : format.Regular) (value : Int) :
    (ofInt value : Datum format).units =
      if value < 0 then -(format.units (nearestMagnitude format value.natAbs 1) : Int)
      else format.units (nearestMagnitude format value.natAbs 1) := by
  rw [ofInt, units_ofRat regular, Rat.num_intCast, Rat.den_intCast]

/-- A number that a finite pattern stands for is denoted by its nearest datum. -/
theorem ofRat_exact (regular : format.Regular) (zeroSign : Bool) {value : Rat} {magnitude : Nat}
    (finite : magnitude < format.infinity)
    (exact : value.num.natAbs * format.one = format.units magnitude * value.den) :
    (ofRat zeroSign value : Datum format).isFinite = true ∧
      (ofRat zeroSign value : Datum format).toRat = value := by
  have nearest : nearestMagnitude format value.num.natAbs value.den = magnitude :=
    nearestMagnitude_of_units regular value.den_pos finite exact
  have sizes : (value.num.natAbs : Int) * format.one = format.units magnitude * value.den := by
    exact_mod_cast exact
  constructor
  · rw [isFinite, magnitude_ofRat regular, nearest]
    exact decide_eq_true finite
  · rw [toRat_eq_iff regular, units_ofRat regular, nearest]
    split
    case isTrue negative =>
      rw [Int.ofNat_natAbs_of_nonpos (Int.le_of_lt negative), Int.neg_mul] at sizes
      rw [Int.neg_mul, ← sizes, Int.neg_neg]
    case isFalse positive =>
      rw [Int.natAbs_of_nonneg (Int.not_lt.mp positive)] at sizes
      exact sizes

/-- The nearest datum to an integer denotes it if the integer has few enough bits, and only then. -/
theorem toRat_ofInt_eq_iff (regular : format.Regular) {value : Int}
    (finite : (ofInt value : Datum format).isFinite = true) :
    (ofInt value : Datum format).toRat = value ↔ format.Holds value.natAbs := by
  have inside : nearestMagnitude format value.natAbs 1 < format.infinity := by
    rw [← magnitude_ofInt regular]
    exact of_decide_eq_true finite
  have sizes : value * format.one = (ofInt value : Datum format).units ↔
      (format.units (nearestMagnitude format value.natAbs 1) : Int) =
        (value.natAbs * format.one : Nat) := by
    rw [units_ofInt regular, Nat.cast_mul, eq_comm]
    split
    case isTrue negative =>
      rw [Int.ofNat_natAbs_of_nonpos (Int.le_of_lt negative), Int.neg_mul, neg_eq_iff_eq_neg]
    case isFalse positive =>
      rw [Int.natAbs_of_nonneg (Int.not_lt.mp positive)]
  rw [toRat_eq_iff regular, Rat.num_intCast, Rat.den_intCast, Nat.cast_one, Int.mul_one, sizes,
    Nat.cast_inj, units_nearestMagnitude_eq_iff regular inside]

end Datum

/-! ## Doubles of integers -/

/-- The integer that the nearest double to an integer denotes. -/
def rounded (value : Int) : Int := (Datum.ofInt value : Double).toRat.num

section Rounded

variable {value other : Int}

/-- The nearest double to an integer denotes an integer. -/
theorem toRat_ofInt (fits : value.natAbs ≤ 2 ^ 64) :
    (Datum.ofInt value : Double).toRat = rounded value :=
  (Rat.coe_int_num_of_den_eq_one
    (Datum.den_ofInt Format.double_regular value (Datum.isFinite_ofInt fits))).symm

/-- The integers that are doubles are those of few enough bits. -/
theorem rounded_eq_iff (fits : value.natAbs ≤ 2 ^ 64) :
    rounded value = value ↔ Format.double.Holds value.natAbs := by
  rw [← Datum.toRat_ofInt_eq_iff Format.double_regular (Datum.isFinite_ofInt fits),
    toRat_ofInt fits, Int.cast_inj]

/-- The least natural number that is no double is one above a power of two. -/
example : rounded 0x20000000000001 = 0x20000000000000 := by decide +kernel

/-- The doubles of integers are ordered as the integers that they denote. -/
theorem rank_le_rank_iff (fits : value.natAbs ≤ 2 ^ 64) (fits' : other.natAbs ≤ 2 ^ 64) :
    (Datum.ofInt value : Double).rank ≤ (Datum.ofInt other : Double).rank ↔
      rounded value ≤ rounded other := by
  rw [← Datum.toRat_le_toRat Format.double_regular, toRat_ofInt fits, toRat_ofInt fits',
    Int.cast_le]

/-- Rounding integers keeps their order. -/
theorem rounded_mono (fits : value.natAbs ≤ 2 ^ 64) (fits' : other.natAbs ≤ 2 ^ 64)
    (ordered : value ≤ other) : rounded value ≤ rounded other :=
  (rank_le_rank_iff fits fits').mp
    (Datum.rank_ofRat_mono Format.double_regular false false (Int.cast_le.mpr ordered))

end Rounded

end ScriptHost.Binary
