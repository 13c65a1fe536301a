import Mathlib.Algebra.Order.Group.Unbundled.Abs
import Mathlib.Data.Int.ConditionallyCompleteOrder
import Mathlib.Data.List.MinMax
import ScriptHost.Host.Members
import ScriptHost.Proofs.Binary.Exact
import ScriptHost.Proofs.World.Outcome

/-!
# The math library on integers

The functions work on doubles. An integer that is a double comes back as it is, with one exception
in either direction: the double above the largest 64-bit integer becomes that integer. Any other
integer comes back as its nearest double. The largest argument is the first one whose double is
largest, so it is the largest integer unless a later argument of the same double is larger.
-/

namespace ScriptHost

open ScriptHost.Action ScriptHost.Binary

/-- The number that a value denotes, if it is one and finite. -/
def Value.rat? : Value → Option Rat
  | .int _ content => some content.value
  | .single content => if content.isFinite then some content.toRat else none
  | .number content => if content.isFinite then some content.toRat else none
  | _ => none

/-- A value of an integer kind. -/
structure IntegerValue where
  kind : IntKind
  content : Ranged kind

namespace IntegerValue

/-- The value itself. -/
def value (argument : IntegerValue) : Value := .int argument.kind argument.content

/-- The integer that it holds. -/
def number (argument : IntegerValue) : Int := argument.content.value

/-- The nearest double to the integer. -/
def double (argument : IntegerValue) : Double := Datum.ofInt argument.number

/-- The integer that the nearest double denotes. -/
def nearest (argument : IntegerValue) : Int := rounded argument.number

/-- Every kind has integers of 64 bits only. -/
theorem fits (argument : IntegerValue) : argument.number.natAbs ≤ 2 ^ 64 := by
  obtain ⟨kind, number, low, high⟩ := argument
  show number.natAbs ≤ 2 ^ 64
  cases kind <;> simp only [IntKind.low, IntKind.high] at low high <;> omega

/-- The integers are ordered as their doubles, as far as these differ. -/
theorem nearest_le_nearest {argument other : IntegerValue}
    (ordered : argument.number ≤ other.number) : argument.nearest ≤ other.nearest :=
  rounded_mono argument.fits other.fits ordered

end IntegerValue

namespace Math

/-! ## Integral results -/

/-- The integer that a whole result becomes. -/
def cut (number : Int) : Int := if number = largestInt64 + 1 then largestInt64 else number

/-- An integer that comes through the conversion to a double and back: a double other than the one
above the largest 64-bit integer, or this largest integer. -/
def IsKept (number : Int) : Prop :=
  number = largestInt64 ∨ number ≠ largestInt64 + 1 ∧ Format.double.Holds number.natAbs

variable {number : Int} {result : Double}

/-- What comes back is the integer itself if it is kept. -/
theorem cut_rounded_eq_iff (fits : number.natAbs ≤ 2 ^ 64) :
    cut (rounded number) = number ↔ IsKept number := by
  have top : rounded largestInt64 = largestInt64 + 1 := by decide +kernel
  rw [IsKept, ← rounded_eq_iff fits, cut]
  split
  case isTrue above =>
    rw [above]
    omega
  case isFalse other =>
    have apart : number ≠ largestInt64 := by
      rintro rfl
      exact other top
    omega

/-- The value of a word denotes it. -/
theorem rat?_ofInt64 (word : Int64) : (Value.ofInt64 word).rat? = some (word.toInt : Rat) := by
  unfold Value.ofInt64
  split <;> rfl

/-- An integral result denotes its integer, which is cut. -/
theorem rat?_integral (finite : result.isFinite = true) (whole : result.toRat = number) :
    (integral result).rat? = some (cut number : Rat) := by
  have floored : result.toRat.floor = number := by rw [whole, Rat.floor_intCast]
  rw [integral, finite, floored, Bool.true_and, cut]
  split
  case isTrue inside =>
    simp only [withinBounds, Bool.and_eq_true, decide_eq_true_eq] at inside
    rw [rat?_ofInt64, toInt_cutToInt64 inside.1]
    congr 2
    split <;> omega
  case isFalse outside =>
    have apart : number ≠ largestInt64 + 1 := by
      rintro rfl
      exact outside (by decide)
    rw [if_neg apart, Value.rat?, if_pos finite, whole]

/-- A double of the rank of an integer becomes what the double of the integer does. -/
theorem rat?_integral_of_rank (fits : number.natAbs ≤ 2 ^ 64)
    (same : result.rank = (Datum.ofInt number : Double).rank) :
    (integral result).rat? = some (cut (rounded number) : Rat) := by
  have finite := Datum.isFinite_ofInt fits
  rw [← Datum.isFinite_eq_of_rank_eq same] at finite
  refine rat?_integral finite ?_
  rw [Datum.toRat_eq_of_rank_eq Format.double_regular same, toRat_ofInt fits]

/-- The double of an integer has no fraction to round down. -/
theorem floor_ofInt (fits : number.natAbs ≤ 2 ^ 64) :
    (Datum.ofInt number : Double).floor = Datum.ofInt number :=
  Datum.floor_of_whole Format.double_regular fun _ =>
    Datum.den_ofInt Format.double_regular number (Datum.isFinite_ofInt fits)

/-- The double of an integer is its own largest integral datum below. -/
theorem rank_floor_ofInt (fits : number.natAbs ≤ 2 ^ 64) :
    (Datum.ofInt number : Double).floor.rank = (Datum.ofInt number : Double).rank :=
  congrArg Datum.rank (floor_ofInt fits)

/-- The double of an integer has no fraction to round up. -/
theorem ceil_ofInt (fits : number.natAbs ≤ 2 ^ 64) :
    (Datum.ofInt number : Double).ceil = (Datum.ofInt number : Double).floor := by
  rw [floor_ofInt fits]
  exact Datum.ceil_of_whole Format.double_regular fun _ =>
    Datum.den_ofInt Format.double_regular number (Datum.isFinite_ofInt fits)

/-- The double of an integer without its sign is that of the absolute value. -/
theorem rank_abs_ofInt (number : Int) :
    (Datum.ofInt number : Double).abs.rank = (Datum.ofInt |number| : Double).rank := by
  have regular := Format.double_regular
  have positive : ¬|number| < 0 := not_lt.mpr (abs_nonneg number)
  rw [Datum.abs, Datum.rank_ofSign regular _ (Datum.magnitude_lt _), Datum.magnitude_ofInt regular,
    Datum.ofInt, Datum.rank_ofRat regular, Rat.num_intCast, Rat.den_intCast, Int.natAbs_abs,
    if_neg positive]
  rfl

/-! ## The best argument -/

/-- Doubles of integers compare as the integers that they denote. -/
theorem compare?_double (left right : IntegerValue) :
    left.double.compare? right.double = some (compare left.nearest right.nearest) := by
  have number (argument : IntegerValue) : argument.double.isNaN = false :=
    Datum.isNaN_ofRat Format.double_regular false _
  have below : left.double.rank ≤ right.double.rank ↔ left.nearest ≤ right.nearest :=
    rank_le_rank_iff left.fits right.fits
  have above : right.double.rank ≤ left.double.rank ↔ right.nearest ≤ left.nearest :=
    rank_le_rank_iff right.fits left.fits
  rw [Datum.compare?, number, number, Bool.or_self, if_neg Bool.false_ne_true, Option.some_inj]
  cases order : compare left.nearest right.nearest with
  | lt =>
    rw [compare_lt_iff_lt] at order ⊢
    omega
  | eq =>
    rw [compare_eq_iff_eq] at order ⊢
    omega
  | gt =>
    rw [compare_gt_iff_gt] at order ⊢
    omega

/-- An order of integers in which a function of the library prefers the higher ones: the usual one
for the largest argument, and its reverse for the smallest. -/
structure Prefers {Scale : Type} [LinearOrder Scale] (scale : Int → Scale) (wanted : Ordering) :
    Prop where
  better : ∀ best candidate : Int,
    compare candidate best = wanted ↔ scale best < scale candidate
  rounds : ∀ low high : IntegerValue, scale low.number ≤ scale high.number →
    scale low.nearest ≤ scale high.nearest

/-- The largest argument is that of the usual order. -/
theorem prefers_greater : Prefers id .gt where
  better _ _ := compare_gt_iff_gt
  rounds _ _ ordered := IntegerValue.nearest_le_nearest ordered

/-- The smallest argument is that of the reverse order. -/
theorem prefers_less : Prefers OrderDual.toDual .lt where
  better _ _ := compare_lt_iff_lt
  rounds _ _ ordered := IntegerValue.nearest_le_nearest ordered

section Prefers

variable {Scale : Type} [LinearOrder Scale] {scale : Int → Scale} {wanted : Ordering}

/-- Picking from the arguments that are left finds the first best one of all, if the best one of
those before is known. -/
theorem Prefers.pickFrom (prefers : Prefers scale wanted) (function : String) (world : World)
    (earlier rest : List IntegerValue) (best : IntegerValue)
    (known : earlier.argmax (scale ·.nearest) = some best) :
    ∃ final, (earlier ++ rest).argmax (scale ·.nearest) = some final ∧
      Math.pickFrom function wanted ((earlier ++ rest).map IntegerValue.value)
        (rest.map IntegerValue.value) earlier.length best.value best.double world =
          .ok final.value world := by
  induction rest generalizing earlier best with
  | nil => exact ⟨best, by rw [List.append_nil, known], rfl⟩
  | cons candidate rest ih =>
    have shifted : earlier ++ candidate :: rest = earlier ++ [candidate] ++ rest := by simp
    have datum : Arguments.double ((earlier ++ candidate :: rest).map IntegerValue.value)
        earlier.length function = pure candidate.double := by
      simp [Arguments.double, IntegerValue.value, Value.toDouble?, IntegerValue.double,
        IntegerValue.number]
    have longer := List.argmax_concat (scale ·.nearest) candidate earlier
    have size : earlier.length + 1 = (earlier ++ [candidate]).length := by simp
    have replaces : (candidate.double.compare? best.double == some wanted) = true ↔
        scale best.nearest < scale candidate.nearest := by
      rw [beq_iff_eq, compare?_double, Option.some_inj, prefers.better]
    rw [known] at longer
    rw [List.map_cons, Math.pickFrom, datum, pure_bind, size, shifted]
    by_cases better : scale best.nearest < scale candidate.nearest
    · rw [if_pos (replaces.mpr better)]
      exact ih _ _ (longer.trans (if_pos better))
    · rw [if_neg (mt replaces.mp better)]
      exact ih _ _ (longer.trans (if_neg better))

/-- An argument of the best double is the best integer if none that shares its double is better. -/
theorem Prefers.best_iff (prefers : Prefers scale wanted) {best : IntegerValue}
    {arguments : List IntegerValue}
    (most : ∀ other ∈ arguments, scale other.nearest ≤ scale best.nearest) :
    (∀ other ∈ arguments, scale other.number ≤ scale best.number) ↔
      ∀ other ∈ arguments, scale other.nearest = scale best.nearest →
        scale other.number ≤ scale best.number := by
  refine ⟨fun highest other among _ => highest other among, fun level other among => ?_⟩
  by_contra less
  have above := prefers.rounds best other (le_of_lt (not_le.mp less))
  exact less (level other among (le_antisymm (most other among) above))

/-- The first argument of the best double is picked. -/
theorem Prefers.pick (prefers : Prefers scale wanted) (function : String) (world : World)
    (first : IntegerValue) (rest : List IntegerValue) :
    ∃ best ∈ first :: rest, (first :: rest).argmax (scale ·.nearest) = some best ∧
      Math.pick function wanted ((first :: rest).map IntegerValue.value) world =
        .ok [best.value] world ∧
      ((∀ other ∈ first :: rest, scale other.number ≤ scale best.number) ↔
        ∀ other ∈ first :: rest, scale other.nearest = scale best.nearest →
          scale other.number ≤ scale best.number) := by
  obtain ⟨best, chosen, run⟩ := prefers.pickFrom function world [first] rest first rfl
  have single : Math.pick function wanted ((first :: rest).map IntegerValue.value) =
      Math.pickFrom function wanted ((first :: rest).map IntegerValue.value)
        (rest.map IntegerValue.value) 1 first.value first.double >>= fun best => pure [best] := rfl
  have most : ∀ other ∈ first :: rest, scale other.nearest ≤ scale best.nearest :=
    fun other among => List.le_of_mem_argmax (f := (scale ·.nearest)) among chosen
  exact ⟨best, List.argmax_mem chosen, chosen, single ▸ bind_of_run_ok run _,
    prefers.best_iff most⟩

end Prefers

end Math

open Math in
/-- The math library on values of integer kinds, one or a list with at least one. The integer that
is rounded down or up, and the absolute value, come back if they are kept, and else as the integer
that the nearest double denotes, cut to the largest 64-bit integer just above that. The largest
argument is the first one whose double is largest, and it is the largest integer if none of those
that share its double is larger. The smallest argument is the first one whose double is smallest. -/
theorem integers_as_far_as_doubles (context : Context) (world : World) :
    (∀ argument : IntegerValue, ∃ result,
      LibraryFunction.floor.run context [argument.value] world = .ok [result] world ∧
      LibraryFunction.ceil.run context [argument.value] world = .ok [result] world ∧
      result.rat? = some (cut argument.nearest : Rat) ∧
      (result.rat? = some (argument.number : Rat) ↔ IsKept argument.number)) ∧
    (∀ argument : IntegerValue, ∃ result,
      LibraryFunction.abs.run context [argument.value] world = .ok [result] world ∧
      result.rat? = some (cut (rounded |argument.number|) : Rat) ∧
      (result.rat? = some ((|argument.number| : Int) : Rat) ↔ IsKept |argument.number|)) ∧
    (∀ first rest, ∃ best ∈ first :: rest,
      (first :: rest).argmax IntegerValue.nearest = some best ∧
      LibraryFunction.max.run context ((first :: rest).map IntegerValue.value) world =
        .ok [best.value] world ∧
      ((∀ other ∈ first :: rest, other.number ≤ best.number) ↔
        ∀ other ∈ first :: rest, other.nearest = best.nearest → other.number ≤ best.number)) ∧
    (∀ first rest, ∃ best ∈ first :: rest,
      (first :: rest).argmin IntegerValue.nearest = some best ∧
      LibraryFunction.min.run context ((first :: rest).map IntegerValue.value) world =
        .ok [best.value] world ∧
      ((∀ other ∈ first :: rest, best.number ≤ other.number) ↔
        ∀ other ∈ first :: rest, other.nearest = best.nearest → best.number ≤ other.number)) := by
  refine ⟨fun argument => ?_, fun argument => ?_, fun first rest => ?_, fun first rest => ?_⟩
  · have denoted : (integral argument.double.floor).rat? = _ :=
      rat?_integral_of_rank argument.fits (rank_floor_ofInt argument.fits)
    refine ⟨integral argument.double.floor, rfl, ?_, denoted, ?_⟩
    · rw [IntegerValue.double, ← ceil_ofInt argument.fits]
      rfl
    · rw [denoted, Option.some_inj, Int.cast_inj, cut_rounded_eq_iff argument.fits]
  · have fits : |argument.number|.natAbs ≤ 2 ^ 64 := by
      rw [Int.natAbs_abs]
      exact argument.fits
    have denoted : (integral argument.double.abs).rat? = _ :=
      rat?_integral_of_rank fits (rank_abs_ofInt argument.number)
    refine ⟨integral argument.double.abs, rfl, denoted, ?_⟩
    rw [denoted, Option.some_inj, Int.cast_inj, cut_rounded_eq_iff fits]
  · exact prefers_greater.pick "max" world first rest
  · exact prefers_less.pick "min" world first rest

end ScriptHost
