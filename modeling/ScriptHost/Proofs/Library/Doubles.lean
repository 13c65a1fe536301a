import ScriptHost.Proofs.Binary.Widening
import ScriptHost.Proofs.Library.Integers

/-!
# Integers of floats

A value of a binary format stands for the 64-bit integer that it denotes, and a double without a
fraction comes back from rounding down and up as the number that it is. One number is an exception
to both. The upper bound of the conversion is the nearest double to the largest 64-bit integer,
which is the integer above, so that one passes the bound and is cut.
-/

namespace ScriptHost

open ScriptHost.Binary

/-- The value denotes the upper bound of conversions, the integer next above the 64-bit integers. -/
def Value.AtBound (value : Value) : Prop := value.rat? = some ((largestInt64 + 1 : Int) : Rat)

instance : DecidablePred Value.AtBound := fun value =>
  inferInstanceAs (Decidable (value.rat? = some ((largestInt64 + 1 : Int) : Rat)))

/-- The number of a double is that of its datum, if it is finite. -/
theorem Value.rat?_number_eq_some_iff {datum : Double} {number : Rat} :
    (Value.number datum).rat? = some number ↔ datum.isFinite = true ∧ datum.toRat = number := by
  rw [rat?]
  split
  case isTrue finite => rw [and_iff_right finite, Option.some_inj]
  case isFalse unbounded =>
    exact iff_of_false (Option.some_ne_none number).symm fun known => unbounded known.1

/-- A value of one of the two binary formats. -/
inductive FloatValue where
  | single (content : Single)
  | number (content : Double)

namespace FloatValue

/-- The value itself. -/
def value : FloatValue → Value
  | .single content => .single content
  | .number content => .number content

/-- The double that it is converted to. -/
def double : FloatValue → Double
  | .single content => content.convert .double
  | .number content => content

/-- A float stands for what its double stands for. -/
theorem toInt64?_value (argument : FloatValue) :
    argument.value.toInt64? = argument.double.toInt64? := by
  cases argument <;> rfl

/-- The double of a float denotes the same number, or none with it. -/
theorem rat?_double (argument : FloatValue) :
    (Value.number argument.double).rat? = argument.value.rat? := by
  cases argument with
  | number content => rfl
  | single content =>
    have kept : (content.convert .double).isFinite = content.isFinite :=
      Datum.isFinite_convert Format.single_widens Format.single_regular Format.double_regular
    rw [double, value, Value.rat?, Value.rat?, kept]
    split
    case isTrue finite =>
      have exact := Datum.convert_exact Format.single_widens Format.single_regular
        Format.double_regular finite
      rw [exact.2]
    case isFalse => rfl

/-- A float stands for the 64-bit integer that it denotes, and the one at the bound for the largest
of them. -/
theorem toInt64?_eq_some_iff (argument : FloatValue) (word : Int64) :
    argument.value.toInt64? = some word ↔
      argument.value.rat? = some (word.toInt : Rat) ∨
        argument.value.AtBound ∧ word.toInt = largestInt64 := by
  rw [Value.AtBound, ← rat?_double, Value.rat?_number_eq_some_iff, Value.rat?_number_eq_some_iff,
    toInt64?_value, Datum.toInt64?_eq_some_iff, and_assoc, ← and_or_left]

/-- The float at the bound stands for the largest 64-bit integer. -/
theorem cut_of_atBound {argument : FloatValue} (bound : argument.value.AtBound) :
    argument.value.toInt64?.map Int64.toInt = some largestInt64 := by
  have top : (Int64.ofInt largestInt64).toInt = largestInt64 := by decide
  have known := (argument.toInt64?_eq_some_iff (Int64.ofInt largestInt64)).mpr (.inr ⟨bound, top⟩)
  rw [known, Option.map_some, top]

/-- Any other float stands for an integer exactly if it denotes it and the integer has 64 bits. -/
theorem exact_of_not_atBound {argument : FloatValue} (other : ¬argument.value.AtBound)
    (number : Int) :
    argument.value.toInt64?.map Int64.toInt = some number ↔
      argument.value.rat? = some (number : Rat) ∧
        smallestInt64 ≤ number ∧ number ≤ largestInt64 := by
  have known (word : Int64) : argument.value.toInt64? = some word ↔
      argument.value.rat? = some (word.toInt : Rat) := by
    rw [toInt64?_eq_some_iff, or_iff_left fun cut => other cut.1]
  rw [Option.map_eq_some_iff]
  constructor
  · rintro ⟨word, stands, rfl⟩
    exact ⟨(known word).mp stands, word.le_toInt, Int.le_sub_one_of_lt word.toInt_lt⟩
  · rintro ⟨denotes, low, high⟩
    have same : (Int64.ofInt number).toInt = number := toInt_ofInt64 low high
    exact ⟨Int64.ofInt number, (known _).mpr (by rw [same, denotes]), same⟩

end FloatValue

/-- A double without a fraction: an integer, an infinity or a datum that is no number. -/
structure WholeDouble where
  datum : Double
  whole : datum.isFinite = true → datum.toRat.den = 1

namespace WholeDouble

/-- The value itself. -/
def value (argument : WholeDouble) : Value := .number argument.datum

/-- Rounding down keeps a whole double. -/
theorem floor_eq (argument : WholeDouble) : argument.datum.floor = argument.datum :=
  Datum.floor_of_whole Format.double_regular argument.whole

/-- Rounding up keeps a whole double. -/
theorem ceil_eq (argument : WholeDouble) : argument.datum.ceil = argument.datum :=
  Datum.ceil_of_whole Format.double_regular argument.whole

/-- The integral result of a whole double is the 64-bit integer that it stands for, if there is one,
and else the double. -/
theorem integral_eq (argument : WholeDouble) :
    Math.integral argument.datum =
      (argument.value.toInt64?.map Value.ofInt64).getD argument.value := by
  obtain ⟨datum, whole⟩ := argument
  show Math.integral datum = (datum.toInt64?.map Value.ofInt64).getD (.number datum)
  rw [Math.integral, Datum.toInt64?]
  cases finite : datum.isFinite with
  | false => rfl
  | true =>
    have exact := Rat.coe_int_num_of_den_eq_one (whole finite)
    have floored : datum.toRat.floor = datum.toRat.num := by
      rw [← exact, Rat.floor_intCast, Rat.num_intCast]
    rw [floored, whole finite]
    cases bounds : withinBounds datum.toRat.num <;> rfl

/-- The integral result of a whole double that is not finite is the double itself. -/
theorem integral_of_not_finite {argument : WholeDouble} (unbounded : argument.datum.isFinite = false) :
    Math.integral argument.datum = argument.value := by
  rw [Math.integral, unbounded]
  rfl

/-- The integral result of an integer denotes the same number, but for the integer at the bound. -/
theorem rat?_integral {argument : WholeDouble} (finite : argument.datum.isFinite = true) :
    (Math.integral argument.datum).rat? =
      if argument.value.AtBound then some (largestInt64 : Rat) else argument.value.rat? := by
  obtain ⟨datum, whole⟩ := argument
  have exact : datum.toRat = datum.toRat.num :=
    (Rat.coe_int_num_of_den_eq_one (whole finite)).symm
  have denoted : (Value.number datum).rat? = some (datum.toRat.num : Rat) :=
    Value.rat?_number_eq_some_iff.mpr ⟨finite, exact⟩
  have bound : (Value.number datum).AtBound ↔ datum.toRat.num = largestInt64 + 1 := by
    rw [Value.AtBound, denoted, Option.some_inj, Int.cast_inj]
  show (Math.integral datum).rat? =
    if (Value.number datum).AtBound then some (largestInt64 : Rat) else (Value.number datum).rat?
  rw [Math.rat?_integral finite exact, Math.cut, denoted]
  by_cases edge : datum.toRat.num = largestInt64 + 1
  · rw [if_pos edge, if_pos (bound.mpr edge)]
  · rw [if_neg edge, if_neg (mt bound.mp edge)]

end WholeDouble

/-- Floats become integers exactly, but for the one at the bound. A value of either binary format
stands for an integer if it denotes it and the integer has 64 bits, and only then; the integral
result of a double without a fraction denotes the same number, or is the double itself where that
is not finite, and it is what rounding the double down and up gives. At the bound the value stands
for the largest 64-bit integer, which is one less, and so does the result. -/
theorem floats_exact_but_at_bound (context : Context) (world : World) :
    (∀ argument : FloatValue,
      if argument.value.AtBound then
        argument.value.toInt64?.map Int64.toInt = some largestInt64
      else ∀ number : Int, argument.value.toInt64?.map Int64.toInt = some number ↔
        argument.value.rat? = some (number : Rat) ∧
          smallestInt64 ≤ number ∧ number ≤ largestInt64) ∧
    (∀ argument : WholeDouble, ∃ result,
      Math.integral argument.datum = result ∧
      LibraryFunction.floor.run context [argument.value] world = .ok [result] world ∧
      LibraryFunction.ceil.run context [argument.value] world = .ok [result] world ∧
      result = (argument.value.toInt64?.map Value.ofInt64).getD argument.value ∧
      if argument.value.AtBound then result.rat? = some (largestInt64 : Rat)
      else if argument.datum.isFinite then result.rat? = argument.value.rat?
      else result = argument.value) := by
  refine ⟨fun argument => ?_, fun argument => ⟨Math.integral argument.datum, rfl, ?_, ?_,
    argument.integral_eq, ?_⟩⟩
  · split
    case isTrue bound => exact FloatValue.cut_of_atBound bound
    case isFalse other => exact FloatValue.exact_of_not_atBound other
  · have run : LibraryFunction.floor.run context [argument.value] world =
        .ok [Math.integral argument.datum.floor] world := rfl
    rw [run, argument.floor_eq]
  · have run : LibraryFunction.ceil.run context [argument.value] world =
        .ok [Math.integral argument.datum.ceil] world := rfl
    rw [run, argument.ceil_eq]
  · split
    case isTrue bound =>
      have finite : argument.datum.isFinite = true := (Value.rat?_number_eq_some_iff.mp bound).1
      rw [WholeDouble.rat?_integral finite, if_pos bound]
    case isFalse other =>
      split
      case isTrue finite => rw [WholeDouble.rat?_integral finite, if_neg other]
      case isFalse unbounded =>
        exact WholeDouble.integral_of_not_finite (Bool.eq_false_iff.mpr unbounded)

/-- The bound is a single, too. -/
example : (Value.single (Datum.ofInt (largestInt64 + 1))).AtBound := by decide +kernel

end ScriptHost
