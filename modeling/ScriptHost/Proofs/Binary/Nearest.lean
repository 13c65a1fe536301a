import Mathlib.Algebra.Order.Field.Basic
import Mathlib.Algebra.Order.Field.Power
import Mathlib.Tactic.Positivity
import Mathlib.Tactic.Zify
import ScriptHost.Proofs.Binary.Magnitude

/-!
# Rounding

Rounding takes the place whose significands reach the number and then the nearest
significand there. Counted in units, both choices are choices between natural numbers.
A number that a datum denotes is rounded to this datum, and of two numbers the larger
one is not rounded to a smaller datum.
-/

namespace ScriptHost.Binary

/-! ## The nearest natural number -/

variable {numerator denominator bound : Nat}

/-- Rounding a quotient adds at most one to its whole part, and something to add it for. -/
theorem roundQuotient_cases (numerator denominator : Nat) :
    roundQuotient numerator denominator = numerator / denominator ∨
      roundQuotient numerator denominator = numerator / denominator + 1 ∧
        denominator ≤ 2 * (numerator % denominator) := by
  unfold roundQuotient
  dsimp only
  split
  case isTrue up =>
    simp only [Bool.or_eq_true, decide_eq_true_eq, Bool.and_eq_true, beq_iff_eq] at up
    exact .inr ⟨rfl, by omega⟩
  case isFalse => exact .inl rfl

/-- A quotient that does not exceed a natural number is not rounded above it. -/
theorem roundQuotient_le (positive : 0 < denominator) (most : numerator ≤ bound * denominator) :
    roundQuotient numerator denominator ≤ bound := by
  have whole : numerator / denominator ≤ bound := Nat.div_le_of_le_mul (by rwa [Nat.mul_comm] at most)
  rcases roundQuotient_cases numerator denominator with down | ⟨up, cut⟩
  · omega
  · by_cases reached : numerator / denominator = bound
    · have parts := Nat.div_add_mod' numerator denominator
      rw [reached] at parts
      omega
    · omega

/-- A quotient that is not below a natural number is not rounded below it. -/
theorem le_roundQuotient (positive : 0 < denominator) (least : bound * denominator ≤ numerator) :
    bound ≤ roundQuotient numerator denominator := by
  have whole : bound ≤ numerator / denominator := (Nat.le_div_iff_mul_le positive).mpr least
  rcases roundQuotient_cases numerator denominator with down | ⟨up, -⟩ <;> omega

/-- A natural number is its own nearest one. -/
theorem roundQuotient_mul (positive : 0 < denominator) (whole : Nat) :
    roundQuotient (whole * denominator) denominator = whole :=
  Nat.le_antisymm (roundQuotient_le positive (Nat.le_refl _))
    (le_roundQuotient positive (Nat.le_refl _))

/-- Rounding depends on the quotient alone. -/
theorem roundQuotient_scale (numerator denominator : Nat) {factor : Nat} (positive : 0 < factor) :
    roundQuotient (numerator * factor) (denominator * factor) =
      roundQuotient numerator denominator := by
  have twice : 2 * (numerator % denominator * factor) = 2 * (numerator % denominator) * factor :=
    (Nat.mul_assoc ..).symm
  have ties : 2 * (numerator % denominator) * factor = denominator * factor ↔
      2 * (numerator % denominator) = denominator := Nat.mul_left_inj (Nat.ne_of_gt positive)
  unfold roundQuotient
  simp only [Nat.mul_div_mul_right _ _ positive, Nat.mul_mod_mul_right, twice,
    Nat.mul_lt_mul_right positive, Bool.beq_eq_decide_eq, ties]

/-- Rounding quotients of one denominator keeps their order. -/
theorem roundQuotient_mono {larger : Nat} (ordered : numerator ≤ larger) :
    roundQuotient numerator denominator ≤ roundQuotient larger denominator := by
  have wholes : numerator / denominator ≤ larger / denominator := Nat.div_le_div_right ordered
  by_cases same : numerator / denominator = larger / denominator
  · have rests : numerator % denominator ≤ larger % denominator := by
      have left := Nat.div_add_mod numerator denominator
      have right := Nat.div_add_mod larger denominator
      rw [same] at left
      omega
    unfold roundQuotient
    dsimp only
    rw [same]
    split
    case isTrue up =>
      rw [if_pos]
      simp only [Bool.or_eq_true, decide_eq_true_eq, Bool.and_eq_true, beq_iff_eq] at up ⊢
      omega
    case isFalse => split <;> omega
  · rcases roundQuotient_cases numerator denominator with down | ⟨up, -⟩ <;>
      rcases roundQuotient_cases larger denominator with down' | ⟨up', -⟩ <;> omega

/-! ## The binary logarithm -/

/-- The estimate of the logarithm is reached if its power does not exceed the quotient. -/
theorem floorLog2_reached (positive : 0 < denominator) (estimate : Int) :
    (if 0 ≤ estimate then decide (denominator * Nat.pow 2 estimate.toNat ≤ numerator)
      else decide (denominator ≤ numerator * Nat.pow 2 (-estimate).toNat)) = true ↔
      (2 : Rat) ^ estimate ≤ numerator / denominator := by
  have below : (0 : Rat) < denominator := Nat.cast_pos.mpr positive
  rw [le_div_iff₀ below]
  split
  case isTrue least =>
    obtain ⟨power, rfl⟩ := Int.eq_ofNat_of_zero_le least
    rw [decide_eq_true_eq, ← Nat.cast_le (α := Rat)]
    simp [mul_comm]
  case isFalse negative =>
    obtain ⟨power, spelled⟩ := Int.eq_ofNat_of_zero_le (show 0 ≤ -estimate by omega)
    obtain rfl : estimate = -(power : Int) := by omega
    rw [decide_eq_true_eq, ← Nat.cast_le (α := Rat), zpow_neg, inv_mul_le_iff₀ (by positivity)]
    simp [mul_comm]

/-- The logarithm is the difference of the logarithms or one less. -/
theorem floorLog2_eq (positive : 0 < denominator) :
    floorLog2 numerator denominator =
      if (2 : Rat) ^ ((numerator.log2 : Int) - denominator.log2) ≤ numerator / denominator then
        (numerator.log2 : Int) - denominator.log2
      else (numerator.log2 : Int) - denominator.log2 - 1 :=
  if_congr (floorLog2_reached positive _) rfl rfl

/-- The binary logarithm of a quotient, rounded down. -/
theorem floorLog2_spec (filled : 0 < numerator) (positive : 0 < denominator) :
    (2 : Rat) ^ floorLog2 numerator denominator ≤ numerator / denominator ∧
      (numerator : Rat) / denominator < 2 ^ (floorLog2 numerator denominator + 1) := by
  have below : (0 : Rat) < denominator := Nat.cast_pos.mpr positive
  have least : (2 : Rat) ^ (numerator.log2 : Int) ≤ numerator :=
    mod_cast Nat.log2_self_le (Nat.ne_of_gt filled)
  have most : (numerator : Rat) < 2 ^ (numerator.log2 + 1 : Int) := mod_cast Nat.lt_log2_self
  have leastBelow : (2 : Rat) ^ (denominator.log2 : Int) ≤ denominator :=
    mod_cast Nat.log2_self_le (Nat.ne_of_gt positive)
  have mostBelow : (denominator : Rat) < 2 ^ (denominator.log2 + 1 : Int) :=
    mod_cast Nat.lt_log2_self
  rw [floorLog2_eq positive]
  split
  case isTrue reached =>
    refine ⟨reached, ?_⟩
    rw [div_lt_iff₀ below]
    calc (numerator : Rat) < 2 ^ (numerator.log2 + 1 : Int) := most
      _ = 2 ^ ((numerator.log2 : Int) - denominator.log2 + 1) * 2 ^ (denominator.log2 : Int) := by
        rw [← zpow_add₀ two_ne_zero]
        congr 1
        omega
      _ ≤ 2 ^ ((numerator.log2 : Int) - denominator.log2 + 1) * denominator :=
        mul_le_mul_of_nonneg_left leastBelow (by positivity)
  case isFalse missed =>
    rw [Int.sub_add_cancel]
    refine ⟨?_, lt_of_not_ge missed⟩
    rw [le_div_iff₀ below]
    calc (2 : Rat) ^ ((numerator.log2 : Int) - denominator.log2 - 1) * denominator
        ≤ 2 ^ ((numerator.log2 : Int) - denominator.log2 - 1) * 2 ^ (denominator.log2 + 1 : Int) :=
          mul_le_mul_of_nonneg_left mostBelow.le (by positivity)
      _ = 2 ^ (numerator.log2 : Int) := by
        rw [← zpow_add₀ two_ne_zero]
        congr 1
        omega
      _ ≤ numerator := least

/-! ## The place of a number -/

variable {format : Format} {place : Nat}

/-- A place where a quotient of units has a significand of full length, or the lowest place if its
significand is not longer there. -/
structure Place (format : Format) (numerator denominator place : Nat) : Prop where
  short : numerator < 2 * format.leading * (denominator * 2 ^ place)
  long : place = 0 ∨ format.leading * (denominator * 2 ^ place) ≤ numerator

/-- What has a place is a quotient. -/
theorem Place.denominator_pos (located : Place format numerator denominator place) :
    0 < denominator := by
  refine Nat.pos_of_ne_zero fun zero => ?_
  have short := located.short
  rw [zero, Nat.zero_mul, Nat.mul_zero] at short
  exact Nat.not_lt_zero _ short

/-- A larger quotient has no lower place. -/
theorem Place.le {numerator' denominator' place' : Nat}
    (left : Place format numerator denominator place)
    (right : Place format numerator' denominator' place')
    (ordered : numerator * denominator' ≤ numerator' * denominator) : place ≤ place' := by
  rcases left.long with lowest | long
  · omega
  · have powers : format.leading * denominator * denominator' * 2 ^ place <
        format.leading * denominator * denominator' * 2 ^ (place' + 1) :=
      calc format.leading * denominator * denominator' * 2 ^ place
          = format.leading * (denominator * 2 ^ place) * denominator' := by ring
        _ ≤ numerator * denominator' := Nat.mul_le_mul_right _ long
        _ ≤ numerator' * denominator := ordered
        _ < 2 * format.leading * (denominator' * 2 ^ place') * denominator :=
          Nat.mul_lt_mul_of_pos_right right.short left.denominator_pos
        _ = format.leading * denominator * denominator' * 2 ^ (place' + 1) := by ring
    have below := (Nat.pow_lt_pow_iff_right Nat.one_lt_two).mp (Nat.lt_of_mul_lt_mul_left powers)
    omega

/-- The logarithm of a quotient decides its place: the significand has full length where the place
lies as far below the logarithm as a significand reaches. -/
theorem Place.of_logarithm (positive : 0 < denominator) {bias : Nat}
    (scale : format.one = 2 ^ bias) {logarithm : Int}
    (least : (2 : Rat) ^ logarithm ≤ numerator / denominator)
    (most : (numerator : Rat) / denominator < 2 ^ (logarithm + 1))
    (high : logarithm + bias ≤ (format.precision - 1 : Nat) + place)
    (low : place = 0 ∨ (format.precision - 1 : Nat) + place = logarithm + bias) :
    Place format (numerator * format.one) denominator place := by
  have below : (0 : Rat) < denominator := Nat.cast_pos.mpr positive
  have leading : format.leading = 2 ^ (format.precision - 1) := rfl
  rw [le_div_iff₀ below] at least
  rw [div_lt_iff₀ below] at most
  constructor
  · rw [← Nat.cast_lt (α := Rat), scale, leading]
    push_cast
    calc (numerator : Rat) * 2 ^ bias
        < 2 ^ (logarithm + 1) * denominator * 2 ^ bias :=
          mul_lt_mul_of_pos_right most (by positivity)
      _ = 2 ^ (logarithm + 1 + bias) * denominator := by
        rw [zpow_add₀ two_ne_zero (logarithm + 1), zpow_natCast]
        ring
      _ ≤ 2 ^ ((format.precision - 1 : Nat) + 1 + place : Int) * denominator :=
        mul_le_mul_of_nonneg_right (zpow_le_zpow_right₀ one_le_two (by omega)) below.le
      _ = 2 * 2 ^ (format.precision - 1) * (denominator * 2 ^ place) := by
        rw [zpow_add₀ two_ne_zero, zpow_add₀ two_ne_zero, zpow_natCast, zpow_natCast, zpow_one]
        ring
  · refine low.imp_right fun reached => ?_
    rw [← Nat.cast_le (α := Rat), scale, leading]
    push_cast
    calc (2 : Rat) ^ (format.precision - 1) * (denominator * 2 ^ place)
        = 2 ^ ((format.precision - 1 : Nat) + place : Int) * denominator := by
          rw [zpow_add₀ two_ne_zero, zpow_natCast, zpow_natCast]
          ring
      _ = 2 ^ logarithm * denominator * 2 ^ bias := by
        rw [reached, zpow_add₀ two_ne_zero, zpow_natCast]
        ring
      _ ≤ numerator * 2 ^ bias := mul_le_mul_of_nonneg_right least (by positivity)

/-- A quotient of units is rounded at a place as the quotient is at the power of two of its last
place, above the point or below it. -/
theorem roundQuotient_units (numerator denominator : Nat) {bias : Nat} {lastPlace : Int}
    (last : lastPlace + bias = place) :
    (if 0 ≤ lastPlace then roundQuotient numerator (denominator * Nat.pow 2 lastPlace.toNat)
      else roundQuotient (numerator * Nat.pow 2 (-lastPlace).toNat) denominator) =
      roundQuotient (numerator * 2 ^ bias) (denominator * 2 ^ place) := by
  split
  case isTrue whole =>
    obtain ⟨power, rfl⟩ := Int.eq_ofNat_of_zero_le whole
    obtain rfl : place = power + bias := by omega
    rw [Nat.pow_add, ← Nat.mul_assoc, roundQuotient_scale _ _ (Nat.two_pow_pos bias)]
    rfl
  case isFalse fraction =>
    obtain ⟨power, lowered⟩ := Int.eq_ofNat_of_zero_le (show 0 ≤ -lastPlace by omega)
    obtain rfl : bias = power + place := by omega
    rw [lowered, Int.toNat_natCast, Nat.pow_add, ← Nat.mul_assoc,
      roundQuotient_scale _ _ (Nat.two_pow_pos place)]
    rfl

/-- Rounding takes the place of the quotient and the nearest significand there. -/
theorem exists_place (regular : format.Regular) (filled : 0 < numerator)
    (positive : 0 < denominator) :
    ∃ place, Place format (numerator * format.one) denominator place ∧
      nearestMagnitude format numerator denominator = min format.infinity
        (place * format.leading +
          roundQuotient (numerator * format.one) (denominator * 2 ^ place)) := by
  obtain ⟨bias, spelled⟩ := Int.eq_ofNat_of_zero_le (Int.neg_nonneg.mpr regular.minExponent_nonpos)
  have scale : format.one = 2 ^ bias := by rw [Format.one, spelled, Int.toNat_natCast]
  obtain ⟨least, most⟩ := floorLog2_spec filled positive
  unfold nearestMagnitude
  rw [if_neg (Nat.ne_of_gt filled)]
  dsimp only
  generalize floorLog2 numerator denominator = logarithm at least most ⊢
  generalize last : max format.minExponent (logarithm - (format.precision - 1 : Nat)) = lastPlace
  obtain ⟨place, high⟩ := Int.eq_ofNat_of_zero_le (show 0 ≤ lastPlace - format.minExponent by omega)
  refine ⟨place, .of_logarithm positive scale least most (by omega) (by omega), ?_⟩
  rw [roundQuotient_units numerator denominator (show lastPlace + bias = place by omega), scale,
    high, Int.toNat_natCast]

/-- Short of infinity the nearest pattern is that of the place and the significand. -/
theorem exists_place_of_finite (regular : format.Regular) (filled : 0 < numerator)
    (positive : 0 < denominator)
    (finite : nearestMagnitude format numerator denominator < format.infinity) :
    ∃ place, Place format (numerator * format.one) denominator place ∧
      nearestMagnitude format numerator denominator = place * format.leading +
        roundQuotient (numerator * format.one) (denominator * 2 ^ place) := by
  obtain ⟨place, located, nearest⟩ := exists_place regular filled positive
  refine ⟨place, located, ?_⟩
  rw [nearest] at finite ⊢
  omega

/-- The significand there is no longer than a significand and carry, and of full length except at
the lowest place. -/
theorem Place.significand (located : Place format numerator denominator place) :
    (place = 0 ∨ format.leading ≤ roundQuotient numerator (denominator * 2 ^ place)) ∧
      roundQuotient numerator (denominator * 2 ^ place) ≤ 2 * format.leading := by
  have positive := Nat.mul_pos located.denominator_pos (Nat.two_pow_pos place)
  exact ⟨located.long.imp_right (le_roundQuotient positive),
    roundQuotient_le positive (Nat.le_of_lt located.short)⟩

/-! ## The nearest pattern -/

/-- Zero is the nearest pattern to zero. -/
@[simp]
theorem nearestMagnitude_zero (format : Format) (denominator : Nat) :
    nearestMagnitude format 0 denominator = 0 := rfl

/-- No pattern beyond infinity is the nearest. -/
theorem nearestMagnitude_le (format : Format) (numerator denominator : Nat) :
    nearestMagnitude format numerator denominator ≤ format.infinity := by
  unfold nearestMagnitude
  split
  · exact Nat.zero_le _
  · exact Nat.min_le_left _ _

/-- A pattern is the nearest to the number it stands for. -/
theorem nearestMagnitude_of_units (regular : format.Regular) (positive : 0 < denominator)
    {magnitude : Nat} (finite : magnitude < format.infinity)
    (exact : numerator * format.one = format.units magnitude * denominator) :
    nearestMagnitude format numerator denominator = magnitude := by
  by_cases filled : numerator = 0
  · have none : format.units magnitude = 0 := by
      rw [filled, Nat.zero_mul] at exact
      exact (Nat.mul_eq_zero.mp exact.symm).resolve_right (Nat.ne_of_gt positive)
    rw [filled, nearestMagnitude_zero]
    rw [← format.units_zero] at none
    exact (format.units_strictMono.injective none).symm
  · obtain ⟨place, significand, spelled, long, short⟩ := format.exists_pattern magnitude
    have count : numerator * format.one = significand * (denominator * 2 ^ place) := by
      rw [exact, spelled, Format.units_pattern long (Nat.le_of_lt short)]
      ring
    have scale := Nat.mul_pos positive (Nat.two_pow_pos place)
    have there : Place format (numerator * format.one) denominator place :=
      ⟨by rw [count]; exact Nat.mul_lt_mul_of_pos_right short scale,
        long.imp_right fun long => by rw [count]; exact Nat.mul_le_mul_right _ long⟩
    obtain ⟨chosen, located, nearest⟩ :=
      exists_place regular (Nat.pos_of_ne_zero filled) positive
    obtain rfl : chosen = place :=
      Nat.le_antisymm (located.le there (Nat.le_refl _)) (there.le located (Nat.le_refl _))
    rw [nearest, count, roundQuotient_mul scale, ← spelled]
    exact Nat.min_eq_right (Nat.le_of_lt finite)

/-- A larger number has no smaller nearest pattern. -/
theorem nearestMagnitude_mono (regular : format.Regular) {numerator' denominator' : Nat}
    (positive : 0 < denominator) (positive' : 0 < denominator')
    (ordered : numerator * denominator' ≤ numerator' * denominator) :
    nearestMagnitude format numerator denominator ≤
      nearestMagnitude format numerator' denominator' := by
  by_cases none : numerator = 0
  · rw [none, nearestMagnitude_zero]
    exact Nat.zero_le _
  have filled : 0 < numerator := Nat.pos_of_ne_zero none
  have filled' : 0 < numerator' := by
    have product := Nat.lt_of_lt_of_le (Nat.mul_pos filled positive') ordered
    exact Nat.pos_of_mul_pos_right product
  obtain ⟨place, located, nearest⟩ := exists_place regular filled positive
  obtain ⟨place', located', nearest'⟩ := exists_place regular filled' positive'
  have scaled : numerator * format.one * denominator' ≤ numerator' * format.one * denominator := by
    have := Nat.mul_le_mul_right format.one ordered
    rwa [Nat.mul_right_comm, Nat.mul_right_comm numerator'] at this
  have places := located.le located' scaled
  rw [nearest, nearest']
  refine min_le_min_left _ ?_
  by_cases same : place = place'
  · subst same
    refine Nat.add_le_add_left ?_ _
    rw [← roundQuotient_scale _ (denominator * 2 ^ place) positive',
      ← roundQuotient_scale _ (denominator' * 2 ^ place) positive,
      show denominator' * 2 ^ place * denominator = denominator * 2 ^ place * denominator' by ring]
    exact roundQuotient_mono scaled
  · -- At a lower place, not even a carry gets past the significands of the higher one.
    have long := located'.significand.1.resolve_left (by omega)
    have short := located.significand.2
    have higher : (place + 1) * format.leading ≤ place' * format.leading :=
      Nat.mul_le_mul_right _ (by omega)
    rw [Nat.add_mul, Nat.one_mul] at higher
    omega

/-! ## The nearest datum -/

namespace Datum

variable {datum : Datum format} {low high : Rat}

/-- The rank of the nearest datum is the nearest pattern with the sign of the number. -/
theorem rank_ofRat (regular : format.Regular) (zeroSign : Bool) (value : Rat) :
    (ofRat zeroSign value : Datum format).rank =
      if value.num < 0 then -(nearestMagnitude format value.num.natAbs value.den : Int)
      else nearestMagnitude format value.num.natAbs value.den := by
  have room (numerator denominator : Nat) :
      nearestMagnitude format numerator denominator < format.signWeight :=
    Nat.lt_of_le_of_lt (nearestMagnitude_le _ _ _) regular.infinity_lt
  unfold ofRat
  split
  case isTrue none =>
    rw [zero, rank_ofSign regular _ (Nat.two_pow_pos _), none]
    simp
  case isFalse =>
    rw [rank_ofSign regular _ (room _ _)]
    simp

/-- The nearest datum to a number is a number or infinite. -/
theorem isNaN_ofRat (regular : format.Regular) (zeroSign : Bool) (value : Rat) :
    (ofRat zeroSign value : Datum format).isNaN = false := by
  have most := nearestMagnitude_le format value.num.natAbs value.den
  unfold ofRat isNaN
  split
  · rw [zero, magnitude_ofSign regular _ (Nat.two_pow_pos _)]
    simp
  · rw [magnitude_ofSign regular _ (Nat.lt_of_le_of_lt most regular.infinity_lt)]
    simpa using most

/-- An infinity has an order. -/
theorem isNaN_infinite (regular : format.Regular) (negative : Bool) :
    (infinite negative : Datum format).isNaN = false := by
  rw [isNaN, infinite, magnitude_ofSign regular negative regular.infinity_lt]
  simp

/-- A datum that is no number is none in any other format. -/
theorem convert_of_isNaN {source : Format} {datum : Datum source} (noNumber : datum.isNaN = true) :
    datum.convert format = nan := by
  rw [convert, if_pos noNumber]

/-- A number is a number in every format. -/
theorem isNaN_convert (regular : format.Regular) {source : Format} {datum : Datum source}
    (number : datum.isNaN = false) : (datum.convert format).isNaN = false := by
  unfold convert
  rw [number]
  split
  case isTrue => contradiction
  case isFalse =>
    split
    case isTrue => exact isNaN_infinite regular _
    case isFalse => exact isNaN_ofRat regular _ _

/-- Rounding keeps order. -/
theorem rank_ofRat_mono (regular : format.Regular) (lowSign highSign : Bool) (ordered : low ≤ high) :
    (ofRat lowSign low : Datum format).rank ≤ (ofRat highSign high : Datum format).rank := by
  rw [Rat.le_iff] at ordered
  have magnitudes {left right : Rat} (smaller : left.num.natAbs * right.den ≤
      right.num.natAbs * left.den) := nearestMagnitude_mono regular left.den_pos right.den_pos smaller
  rw [rank_ofRat regular, rank_ofRat regular]
  split <;> split
  case isTrue.isTrue lowNegative highNegative =>
    have smaller : high.num.natAbs * low.den ≤ low.num.natAbs * high.den := by
      zify
      rw [abs_of_neg lowNegative, abs_of_neg highNegative, neg_mul, neg_mul]
      exact Int.neg_le_neg ordered
    have := magnitudes smaller
    omega
  case isTrue.isFalse => omega
  case isFalse.isTrue lowPositive highNegative =>
    have left : 0 ≤ low.num * high.den := Int.mul_nonneg (Int.not_lt.mp lowPositive) (by omega)
    have right : high.num * low.den < 0 :=
      Int.mul_neg_of_neg_of_pos highNegative (Int.natCast_pos.mpr low.den_pos)
    omega
  case isFalse.isFalse lowPositive highPositive =>
    have smaller : low.num.natAbs * high.den ≤ high.num.natAbs * low.den := by
      zify
      rwa [abs_of_nonneg (Int.not_lt.mp lowPositive), abs_of_nonneg (Int.not_lt.mp highPositive)]
    have := magnitudes smaller
    omega

/-- The number that a finite datum denotes is rounded to this datum, up to the sign of zero. -/
theorem rank_ofRat_toRat (regular : format.Regular) (zeroSign : Bool)
    (finite : datum.isFinite = true) :
    (ofRat zeroSign datum.toRat : Datum format).rank = datum.rank := by
  have fraction := datum.num_mul_one regular
  have exact : nearestMagnitude format datum.toRat.num.natAbs datum.toRat.den = datum.magnitude := by
    refine nearestMagnitude_of_units regular datum.toRat.den_pos (of_decide_eq_true finite) ?_
    have sizes := congrArg Int.natAbs fraction
    rwa [Int.natAbs_mul, Int.natAbs_mul, Int.natAbs_natCast, Int.natAbs_natCast, natAbs_units]
      at sizes
  have sign := datum.num_neg_iff regular
  rw [rank_ofRat regular, exact]
  cases negative : datum.negative <;> simp only [rank, negative] at sign ⊢ <;> split <;> omega

end Datum

end ScriptHost.Binary
