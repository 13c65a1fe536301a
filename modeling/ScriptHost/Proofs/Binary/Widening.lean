import ScriptHost.Proofs.Binary.Exact

/-!
# Data of a wider format

A format is wider than another if its significands are no shorter, its smallest data no larger and
its infinity no lower. Every number that a datum of the narrower format denotes is then denoted by
a datum of the wider one, so conversion keeps the number, and it keeps what is infinite or no
number apart from the finite data.
-/

namespace ScriptHost.Binary

namespace Format

variable {source target : Format}

/-- How many units of a format make one unit of another whose smallest data are no smaller. -/
def unitRatio (source target : Format) : Nat := 2 ^ (source.minExponent - target.minExponent).toNat

/-- Formats of which the second has room for the numbers of the first. -/
structure Widens (source target : Format) : Prop where
  precision_le : source.precision ≤ target.precision
  minExponent_le : target.minExponent ≤ source.minExponent
  infinity_le : source.units source.infinity * source.unitRatio target ≤ target.units target.infinity

/-- Doubles have room for singles. -/
theorem single_widens : single.Widens double := ⟨by decide, by decide, by decide +kernel⟩

/-- What makes one in the wider format. -/
theorem Widens.one_eq (widens : source.Widens target) (regular : source.Regular) :
    target.one = source.one * source.unitRatio target := by
  have places : (-target.minExponent).toNat =
      (-source.minExponent).toNat + (source.minExponent - target.minExponent).toNat := by
    have lower := widens.minExponent_le
    have nonpos := regular.minExponent_nonpos
    omega
  rw [one, one, unitRatio, places, Nat.pow_add]

/-- Few bits for short significands are few for long ones. -/
theorem Holds.of_precision_le {number : Nat} (held : source.Holds number)
    (longer : source.precision ≤ target.precision) : target.Holds number := by
  obtain ⟨place, divides, short⟩ := held
  have room : 2 ^ (source.precision + place) ≤ 2 ^ (target.precision + place) :=
    Nat.pow_le_pow_right (by decide) (by omega)
  exact ⟨place, divides, Nat.lt_of_lt_of_le short room⟩

/-- What a finite pattern of the narrower format stands for has a finite pattern in the wider one. -/
theorem Widens.exists_units (widens : source.Widens target) (fromRegular : source.Regular)
    (regular : target.Regular) {magnitude : Nat} (finite : magnitude < source.infinity) :
    ∃ wider < target.infinity,
      target.units wider = source.units magnitude * source.unitRatio target := by
  have held : target.Holds (source.units magnitude * source.unitRatio target) :=
    (holds_mul_two_pow_iff _).mpr
      ((fromRegular.holds_units magnitude).of_precision_le widens.precision_le)
  obtain ⟨wider, same⟩ := held.exists_units regular
  refine ⟨wider, target.units_strictMono.lt_iff_lt.mp ?_, same⟩
  calc target.units wider = source.units magnitude * source.unitRatio target := same
    _ < source.units source.infinity * source.unitRatio target :=
      Nat.mul_lt_mul_of_pos_right (source.units_strictMono finite) (Nat.two_pow_pos _)
    _ ≤ target.units target.infinity := widens.infinity_le

end Format

namespace Datum

variable {source target format : Format} {datum : Datum source}

/-- What is no number is not finite. -/
theorem isFinite_nan (regular : format.Regular) : (nan : Datum format).isFinite = false := by
  have room : format.infinity + format.leading / 2 < format.signWeight := by
    have total := regular.infinity_add_leading
    have positive := format.leading_pos
    omega
  rw [isFinite, nan, magnitude_ofSign regular false room]
  exact decide_eq_false (by omega)

/-- An infinity is not finite. -/
theorem isFinite_infinite (regular : format.Regular) (negative : Bool) :
    (infinite negative : Datum format).isFinite = false := by
  rw [isFinite, infinite, magnitude_ofSign regular negative regular.infinity_lt]
  exact decide_eq_false (Nat.lt_irrefl _)

/-- A finite datum is converted by way of the number that it denotes. -/
theorem convert_of_isFinite (finite : datum.isFinite = true) :
    datum.convert target = ofRat datum.negative datum.toRat := by
  have below : datum.magnitude < source.infinity := of_decide_eq_true finite
  have number : ¬datum.isNaN = true := by
    rw [isNaN, decide_eq_true_eq]
    omega
  have bounded : ¬datum.isInfinite = true := by
    rw [isInfinite, decide_eq_true_eq]
    omega
  rw [convert, if_neg number, if_neg bounded]

/-- No format makes a finite datum of one that is not finite. -/
theorem isFinite_convert_of_not (regular : target.Regular) (unbounded : datum.isFinite = false) :
    (datum.convert target).isFinite = false := by
  have reached : source.infinity ≤ datum.magnitude := Nat.le_of_not_lt (of_decide_eq_false unbounded)
  by_cases noNumber : datum.isNaN = true
  · rw [convert_of_isNaN noNumber]
    exact isFinite_nan regular
  · have infinite : datum.isInfinite = true := by
      rw [isNaN, decide_eq_true_eq] at noNumber
      rw [isInfinite, decide_eq_true_eq]
      omega
    rw [convert, if_neg noNumber, if_pos infinite]
    exact isFinite_infinite regular _

/-- A wider format has a finite datum for each finite datum, and it denotes the same number. -/
theorem convert_exact (widens : source.Widens target) (fromRegular : source.Regular)
    (regular : target.Regular) (finite : datum.isFinite = true) :
    (datum.convert target).isFinite = true ∧ (datum.convert target).toRat = datum.toRat := by
  obtain ⟨wider, below, same⟩ :=
    widens.exists_units fromRegular regular (of_decide_eq_true finite)
  -- The number in units of the wider format, from its size in units of the narrower one.
  have sizes := congrArg Int.natAbs (datum.num_mul_one fromRegular)
  rw [Int.natAbs_mul, Int.natAbs_mul, Int.natAbs_natCast, Int.natAbs_natCast, natAbs_units] at sizes
  have exact : datum.toRat.num.natAbs * target.one = target.units wider * datum.toRat.den := by
    rw [widens.one_eq fromRegular, same, ← Nat.mul_assoc, sizes]
    ring
  rw [convert_of_isFinite finite]
  exact ofRat_exact regular _ below exact

/-- Conversion to a wider format keeps apart what is finite and what is not. -/
theorem isFinite_convert (widens : source.Widens target) (fromRegular : source.Regular)
    (regular : target.Regular) : (datum.convert target).isFinite = datum.isFinite := by
  cases finite : datum.isFinite with
  | true => exact (convert_exact widens fromRegular regular finite).1
  | false => exact isFinite_convert_of_not regular finite

end Datum

end ScriptHost.Binary
