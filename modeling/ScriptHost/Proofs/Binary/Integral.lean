import ScriptHost.Binary.Arithmetic
import ScriptHost.Proofs.Binary.Nearest

/-!
# Integers and doubles

The nearest datum to an integer has no fraction, however long the integer is. So the
nearest double to a 64-bit integer stands for a 64-bit integer again, and a double
that stands for one is the nearest to it: that holds even of the double above the
largest integer, which is cut to the largest and is the nearest double to that.
-/

namespace ScriptHost.Binary

/-- An integer within the bounds is its 64-bit integer. -/
theorem toInt_ofInt64 {value : Int} (low : smallestInt64 ≤ value) (high : value ≤ largestInt64) :
    (Int64.ofInt value).toInt = value := by
  unfold smallestInt64 at low
  unfold largestInt64 at high
  exact Int64.toInt_ofInt_of_le (by omega) (by omega)

/-- An integer that is cut is the smaller one of itself and the largest 64-bit integer. -/
theorem toInt_cutToInt64 {value : Int} (low : smallestInt64 ≤ value) :
    (cutToInt64 value).toInt = min value largestInt64 := by
  have least : smallestInt64 ≤ largestInt64 := by decide
  exact toInt_ofInt64 (by omega) (by omega)

namespace Datum

variable {format : Format} {left right datum : Datum format}

/-- Data of one rank denote one number. -/
theorem toRat_eq_of_rank_eq (regular : format.Regular) (same : left.rank = right.rank) :
    left.toRat = right.toRat :=
  le_antisymm ((toRat_le_toRat regular).mpr (le_of_eq same))
    ((toRat_le_toRat regular).mpr (ge_of_eq same))

theorem natAbs_rank (datum : Datum format) : datum.rank.natAbs = datum.magnitude := by
  unfold rank
  split <;> omega

/-- Data of one rank are finite together. -/
theorem isFinite_eq_of_rank_eq (same : left.rank = right.rank) :
    left.isFinite = right.isFinite := by
  rw [isFinite, isFinite, ← natAbs_rank, same, natAbs_rank]

/-- Data of one rank stand for the same integer. -/
theorem toInt64?_eq_of_rank_eq (regular : format.Regular) (same : left.rank = right.rank) :
    left.toInt64? = right.toInt64? := by
  rw [toInt64?, toInt64?, toRat_eq_of_rank_eq regular same, isFinite_eq_of_rank_eq same]

/-- The nearest pattern to a natural number is a whole number of ones. -/
theorem one_dvd_units (regular : format.Regular) (number : Nat)
    (finite : nearestMagnitude format number 1 < format.infinity) :
    format.one ∣ format.units (nearestMagnitude format number 1) := by
  by_cases none : number = 0
  · simp [none]
  obtain ⟨place, located, nearest⟩ :=
    exists_place_of_finite regular (Nat.pos_of_ne_zero none) Nat.one_pos finite
  have bounds := located.significand
  rw [Nat.one_mul] at nearest bounds
  rw [nearest, Format.units_pattern bounds.1 bounds.2]
  by_cases high : (-format.minExponent).toNat ≤ place
  · exact Nat.dvd_mul_left_of_dvd (Nat.pow_dvd_pow 2 high) _
  · obtain ⟨rest, spelled⟩ := Nat.exists_eq_add_of_lt (Nat.lt_of_not_le high)
    have whole : number * format.one = number * 2 ^ (rest + 1) * 2 ^ place := by
      rw [Format.one, spelled, Nat.mul_assoc, ← Nat.pow_add]
      congr 2
      omega
    rw [whole, roundQuotient_mul (Nat.two_pow_pos place), ← whole]
    exact Nat.dvd_mul_left _ _

/-- The pattern of the nearest datum to a number. -/
theorem magnitude_ofRat (regular : format.Regular) (zeroSign : Bool) (value : Rat) :
    (ofRat zeroSign value : Datum format).magnitude =
      nearestMagnitude format value.num.natAbs value.den := by
  rw [← natAbs_rank, rank_ofRat regular]
  split <;> omega

/-- The pattern of the nearest datum to an integer. -/
theorem magnitude_ofInt (regular : format.Regular) (value : Int) :
    (ofInt value : Datum format).magnitude = nearestMagnitude format value.natAbs 1 := by
  rw [ofInt, magnitude_ofRat regular, Rat.num_intCast, Rat.den_intCast]

/-- The nearest datum to an integer has no fraction, if it is finite. -/
theorem den_ofInt (regular : format.Regular) (value : Int)
    (finite : (ofInt value : Datum format).isFinite = true) :
    (ofInt value : Datum format).toRat.den = 1 := by
  have one : (format.one : Rat) ≠ 0 := Nat.cast_ne_zero.mpr (Nat.ne_of_gt format.one_pos)
  have inside : nearestMagnitude format value.natAbs 1 < format.infinity := by
    rw [← magnitude_ofInt regular]
    exact of_decide_eq_true finite
  have divides := one_dvd_units regular value.natAbs inside
  rw [← magnitude_ofInt regular, ← natAbs_units] at divides
  obtain ⟨whole, spelled⟩ := Int.natCast_dvd.mpr divides
  rw [toRat_eq regular, spelled, Int.cast_mul, Int.cast_natCast, mul_div_cancel_left₀ _ one,
    Rat.den_intCast]

/-! ## Integral parts of data without a fraction -/

/-- A finite datum is the nearest one to the number that it denotes, if a zero keeps its sign. -/
theorem ofRat_toRat (regular : format.Regular) (finite : datum.isFinite = true) :
    ofRat datum.negative datum.toRat = datum := by
  have rank := rank_ofRat_toRat regular datum.negative finite
  -- The rank does not tell the zeros apart, the sign that a zero is given does.
  by_cases zero : datum.rank = 0
  · have empty : datum.magnitude = 0 := by
      rw [← natAbs_rank, zero, Int.natAbs_zero]
    have none : datum.toRat = 0 := by
      rw [toRat_eq regular, units, empty, Format.units_zero]
      simp
    rw [none, ofRat, if_pos Rat.num_zero, Datum.zero]
    conv_rhs => rw [← ofSign_magnitude regular datum, empty]
  · exact eq_of_rank_eq regular rank (rank ▸ zero)

/-- A datum without a fraction is kept by whatever keeps integers. -/
theorem integralPart_of_whole (regular : format.Regular) {part : Rat → Int}
    (keeps : ∀ number : Int, part number = number)
    (whole : datum.isFinite = true → datum.toRat.den = 1) :
    (if datum.isFinite then ofRat datum.negative (part datum.toRat) else datum) = datum := by
  split
  case isTrue finite =>
    have integral := Rat.coe_int_num_of_den_eq_one (whole finite)
    rw [← integral, keeps, integral]
    exact ofRat_toRat regular finite
  case isFalse => rfl

/-- Rounding down keeps a datum without a fraction. -/
theorem floor_of_whole (regular : format.Regular)
    (whole : datum.isFinite = true → datum.toRat.den = 1) : datum.floor = datum :=
  integralPart_of_whole regular Rat.floor_intCast whole

/-- Rounding up keeps a datum without a fraction. -/
theorem ceil_of_whole (regular : format.Regular)
    (whole : datum.isFinite = true → datum.toRat.den = 1) : datum.ceil = datum :=
  integralPart_of_whole regular Rat.ceil_intCast whole

/-! ## Data and 64-bit integers -/

/-- What stands for an integer is finite, has no fraction and is within the bounds. -/
theorem toInt64?_eq_some {word : Int64} (given : datum.toInt64? = some word) :
    datum.isFinite = true ∧ datum.toRat = datum.toRat.num ∧ datum.toRat.num ≤ largestInt64 + 1 ∧
      word.toInt = min datum.toRat.num largestInt64 := by
  unfold toInt64? at given
  split at given
  case isFalse => contradiction
  case isTrue known =>
    simp only [Bool.and_eq_true, beq_iff_eq, withinBounds, decide_eq_true_eq] at known
    obtain ⟨⟨finite, whole⟩, low, high⟩ := known
    obtain rfl := Option.some.inj given
    exact ⟨finite, (Rat.coe_int_num_of_den_eq_one whole).symm, high, toInt_cutToInt64 low⟩

/-- A finite datum that denotes an integer within the bounds stands for it, cut. -/
theorem toInt64?_of_whole {number : Int} (finite : datum.isFinite = true)
    (whole : datum.toRat = number) (low : smallestInt64 ≤ number)
    (high : number ≤ largestInt64 + 1) : datum.toInt64? = some (cutToInt64 number) := by
  have bounds : withinBounds number = true := by
    rw [withinBounds, Bool.and_eq_true, decide_eq_true_eq, decide_eq_true_eq]
    exact ⟨low, high⟩
  rw [toInt64?, finite, whole, Rat.den_intCast, Rat.num_intCast, bounds]
  rfl

/-- A datum that is no number stands for no integer. -/
theorem toInt64?_of_isNaN (noNumber : datum.isNaN = true) : datum.toInt64? = none := by
  have above : format.infinity < datum.magnitude := of_decide_eq_true noNumber
  have infinite : datum.isFinite = false := decide_eq_false (Nat.lt_asymm above)
  rw [toInt64?, infinite]
  rfl

/-- A datum stands for the 64-bit integer that it denotes, and besides for the largest one if it
denotes the integer above. -/
theorem toInt64?_eq_some_iff {word : Int64} :
    datum.toInt64? = some word ↔
      datum.isFinite = true ∧ (datum.toRat = word.toInt ∨
        datum.toRat = (largestInt64 + 1 : Int) ∧ word.toInt = largestInt64) := by
  have low : smallestInt64 ≤ word.toInt := word.le_toInt
  have most : word.toInt ≤ largestInt64 := Int.le_sub_one_of_lt word.toInt_lt
  constructor
  · intro given
    obtain ⟨finite, whole, high, cut⟩ := toInt64?_eq_some given
    refine ⟨finite, ?_⟩
    by_cases inside : datum.toRat.num ≤ largestInt64
    · rw [min_eq_left inside] at cut
      exact .inl (by rw [cut, ← whole])
    · have edge : datum.toRat.num = largestInt64 + 1 := by omega
      rw [min_eq_right (by omega)] at cut
      exact .inr ⟨by rw [whole, edge], cut⟩
  · rintro ⟨finite, whole | ⟨whole, top⟩⟩
    · rw [toInt64?_of_whole finite whole low (by omega), Option.some_inj, ← Int64.toInt_inj,
        toInt_cutToInt64 low, min_eq_left most]
    · have above : smallestInt64 ≤ largestInt64 + 1 := by decide
      rw [toInt64?_of_whole finite whole above (Int.le_refl _), Option.some_inj, ← Int64.toInt_inj,
        toInt_cutToInt64 above, top]
      omega

/-- A double that stands for an integer is the nearest double to it. -/
theorem rank_ofInt_of_toInt64? {datum : Double} {word : Int64}
    (given : datum.toInt64? = some word) : (ofInt word.toInt : Double).rank = datum.rank := by
  obtain ⟨finite, denoted⟩ := toInt64?_eq_some_iff.mp given
  have exact : (ofRat false datum.toRat : Double).rank = datum.rank :=
    rank_ofRat_toRat Format.double_regular false finite
  rcases denoted with whole | ⟨above, top⟩
  · rw [ofInt, ← whole, exact]
  · rw [top, ← exact, above]
    decide +kernel

/-- The nearest double to an integer of 64 bits is finite. -/
theorem isFinite_ofInt {value : Int} (fits : value.natAbs ≤ 2 ^ 64) :
    (ofInt value : Double).isFinite = true := by
  have regular := Format.double_regular
  have above : (ofInt (-2 ^ 64) : Double).rank ≤ (ofInt value : Double).rank :=
    rank_ofRat_mono regular false false (Int.cast_le.mpr (by omega))
  have below : (ofInt value : Double).rank ≤ (ofInt (2 ^ 64) : Double).rank :=
    rank_ofRat_mono regular false false (Int.cast_le.mpr (by omega))
  have lowest : (ofInt (-2 ^ 64) : Double).rank = -0x43F0000000000000 := by decide +kernel
  have highest : (ofInt (2 ^ 64) : Double).rank = 0x43F0000000000000 := by decide +kernel
  have infinity : Format.double.infinity = 0x7FF0000000000000 := by decide
  rw [isFinite, decide_eq_true_eq, ← natAbs_rank, infinity]
  omega

/-- The nearest double to a 64-bit integer stands for a 64-bit integer. -/
theorem exists_toInt64?_ofInt {value : Int} (low : smallestInt64 ≤ value)
    (high : value ≤ largestInt64) : ∃ word, (ofInt value : Double).toInt64? = some word := by
  have regular := Format.double_regular
  have above : (ofInt smallestInt64 : Double).rank ≤ (ofInt value : Double).rank :=
    rank_ofRat_mono regular false false (Int.cast_le.mpr low)
  have below : (ofInt value : Double).rank ≤ (ofInt (largestInt64 + 1) : Double).rank :=
    rank_ofRat_mono regular false false (Int.cast_le.mpr (by omega))
  have finite : (ofInt value : Double).isFinite = true := by
    unfold smallestInt64 at low
    unfold largestInt64 at high
    exact isFinite_ofInt (by omega)
  have whole := den_ofInt regular value finite
  have integral := Rat.coe_int_num_of_den_eq_one whole
  have lowest : (ofInt smallestInt64 : Double).toRat = smallestInt64 := by decide +kernel
  have highest : (ofInt (largestInt64 + 1) : Double).toRat = (largestInt64 + 1 : Int) := by
    decide +kernel
  rw [← toRat_le_toRat regular, lowest, ← integral, Int.cast_le] at above
  rw [← toRat_le_toRat regular, highest, ← integral, Int.cast_le] at below
  exact ⟨_, toInt64?_of_whole finite integral.symm above below⟩

end Datum

end ScriptHost.Binary
