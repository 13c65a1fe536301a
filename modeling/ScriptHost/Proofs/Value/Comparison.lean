import ScriptHost.Evaluation.Arithmetic
import ScriptHost.Proofs.Binary.Integral

/-!
# Comparison of numbers and texts

The order of scripts goes by the nearest doubles, equality by the integers where both
numbers stand for one. The two agree as long as the integers are the same or their
doubles differ. Different integers that share a double are neither equal nor below one
another.
-/

namespace ScriptHost.Value

open ScriptHost.Binary

variable {left right value : Value} {word : Int64}

/-- Whether a value is a datum that is no number. -/
def isNaN : Value → Bool
  | .single content => content.isNaN
  | .number content => content.isNaN
  | _ => false

/-- Numbers of any kind. -/
structure IsNumber (value : Value) : Prop where
  numeric : value.kind.isNumeric = true
  number : value.isNaN = false

/-- Two texts, or two numbers. -/
inductive Comparable : Value → Value → Prop
  | texts (left right : String) : Comparable (.text left) (.text right)
  | numbers {left right : Value} (first : left.IsNumber) (second : right.IsNumber) :
    Comparable left right

/-- Numbers that stand for different integers and have one nearest double. -/
structure Blurred (left right : Value) : Prop where
  leftWhole : left.toInt64?.isSome = true
  rightWhole : right.toInt64?.isSome = true
  apart : left.toInt64? ≠ right.toInt64?
  level : left.order right = .ok .eq

/-! ## Numbers and their doubles -/

/-- Every number has a nearest double, which is a number. -/
theorem IsNumber.exists_toDouble? (isNumber : value.IsNumber) :
    ∃ datum, value.toDouble? = some datum ∧ datum.isNaN = false := by
  obtain ⟨numeric, number⟩ := isNumber
  cases value with
  | int kind content => exact ⟨_, rfl, Datum.isNaN_ofRat Format.double_regular false _⟩
  | single content => exact ⟨_, rfl, Datum.isNaN_convert Format.double_regular number⟩
  | number content => exact ⟨_, rfl, number⟩
  | nil | boolean | text => contradiction
  | reference target => cases target <;> contradiction

/-- The value of a word is of an integer kind. -/
theorem ofInt64_eq_int (word : Int64) : ∃ kind content, ofInt64 word = .int kind content := by
  unfold ofInt64
  split
  · exact ⟨.integer, _, rfl⟩
  · exact ⟨.int64, _, rfl⟩

/-- The value of a word stands for it. -/
theorem toInt64?_ofInt64 (word : Int64) : (ofInt64 word).toInt64? = some word := by
  have low : smallestInt64 ≤ word.toInt := word.le_toInt
  have high : word.toInt ≤ largestInt64 := Int.le_sub_one_of_lt word.toInt_lt
  unfold ofInt64
  split <;> simp [toInt64?, low, high]

/-- The nearest double of a number that stands for an integer is the nearest to the integer. -/
theorem rank_of_toInt64? (given : value.toInt64? = some word) :
    ∃ datum, value.toDouble? = some datum ∧
      datum.rank = (Datum.ofInt word.toInt : Double).rank := by
  cases value with
  | int kind content =>
    simp only [toInt64?] at given
    split at given
    case isTrue inside =>
      obtain rfl := Option.some.inj given
      refine ⟨_, rfl, ?_⟩
      rw [Bool.and_eq_true, decide_eq_true_eq, decide_eq_true_eq] at inside
      rw [toInt_ofInt64 inside.1 inside.2]
    case isFalse => contradiction
  | single content => exact ⟨_, rfl, (Datum.rank_ofInt_of_toInt64? given).symm⟩
  | number content => exact ⟨_, rfl, (Datum.rank_ofInt_of_toInt64? given).symm⟩
  | nil | boolean | text | reference => contradiction

/-- The order of two numbers is the order of their doubles. -/
theorem order_of_doubles {a b : Double} (leftDouble : left.toDouble? = some a)
    (rightDouble : right.toDouble? = some b) (leftNumber : a.isNaN = false)
    (rightNumber : b.isNaN = false) : left.order right = .ok (compare a.rank b.rank) := by
  simp [order, leftDouble, rightDouble, Datum.compare?, leftNumber, rightNumber]

/-- Doubles are equal as numbers if they have one rank. -/
theorem sameNumber_iff {a b : Double} (leftNumber : a.isNaN = false) (rightNumber : b.isNaN = false) :
    sameNumber (some a) (some b) = true ↔ a.rank = b.rank := by
  simp [sameNumber, Datum.equals, Datum.compare?, leftNumber, rightNumber]

/-- Two numbers that do not both stand for integers are equal if their doubles have one rank. -/
theorem scriptEqual_of_doubles {a b : Double} (first : left.IsNumber) (second : right.IsNumber)
    (leftDouble : left.toDouble? = some a) (rightDouble : right.toDouble? = some b)
    (leftNumber : a.isNaN = false) (rightNumber : b.isNaN = false)
    (fraction : left.toInt64? = none ∨ right.toInt64? = none) :
    left.scriptEqual right = true ↔ a.rank = b.rank := by
  rw [← sameNumber_iff leftNumber rightNumber, scriptEqual, first.numeric, second.numeric,
    leftDouble, rightDouble]
  rcases fraction with none | none <;> rw [none]
  · rfl
  · cases left.toInt64? <;> rfl

/-- Two numbers that stand for integers are equal if the integers are. -/
theorem scriptEqual_of_words {a b : Int64} (first : left.IsNumber) (second : right.IsNumber)
    (leftWord : left.toInt64? = some a) (rightWord : right.toInt64? = some b) :
    left.scriptEqual right = true ↔ a = b := by
  simp [scriptEqual, first.numeric, second.numeric, leftWord, rightWord]

/-- Numbers are equal in scripts if the order says so, unless they are blurred. -/
theorem scriptEqual_of_numbers (first : left.IsNumber) (second : right.IsNumber) :
    left.scriptEqual right = true ↔ left.order right = .ok .eq ∧ ¬left.Blurred right := by
  obtain ⟨a, leftDouble, leftNumber⟩ := first.exists_toDouble?
  obtain ⟨b, rightDouble, rightNumber⟩ := second.exists_toDouble?
  have order := order_of_doubles leftDouble rightDouble leftNumber rightNumber
  have level : left.order right = .ok .eq ↔ a.rank = b.rank := by simp [order]
  cases leftWord : left.toInt64? with
  | none =>
    have clear : ¬left.Blurred right := fun blurred => by simpa [leftWord] using blurred.leftWhole
    rw [scriptEqual_of_doubles first second leftDouble rightDouble leftNumber rightNumber
      (.inl leftWord), level]
    exact (and_iff_left clear).symm
  | some p =>
    cases rightWord : right.toInt64? with
    | none =>
      have clear : ¬left.Blurred right := fun blurred => by simpa [rightWord] using blurred.rightWhole
      rw [scriptEqual_of_doubles first second leftDouble rightDouble leftNumber rightNumber
        (.inr rightWord), level]
      exact (and_iff_left clear).symm
    | some q =>
      rw [scriptEqual_of_words first second leftWord rightWord]
      constructor
      · rintro rfl
        have ranks : a.rank = b.rank := by
          obtain ⟨_, leftSame, leftRank⟩ := rank_of_toInt64? leftWord
          obtain ⟨_, rightSame, rightRank⟩ := rank_of_toInt64? rightWord
          obtain rfl := Option.some.inj (leftDouble.symm.trans leftSame)
          obtain rfl := Option.some.inj (rightDouble.symm.trans rightSame)
          rw [leftRank, rightRank]
        exact ⟨level.mpr ranks, fun blurred => blurred.apart (by rw [leftWord, rightWord])⟩
      · rintro ⟨same, clear⟩
        by_contra apart
        exact clear ⟨by rw [leftWord]; rfl, by rw [rightWord]; rfl, by simpa [leftWord, rightWord], same⟩

/-! ## The operators -/

/-- Two texts or two numbers have an order, which turns around with them. -/
theorem Comparable.exists_order (comparable : left.Comparable right) :
    ∃ relation, left.order right = .ok relation ∧ right.order left = .ok relation.swap := by
  cases comparable with
  | texts left right =>
    refine ⟨compare left right, rfl, ?_⟩
    rw [← Std.OrientedOrd.eq_swap]
    rfl
  | numbers first second =>
    obtain ⟨a, leftDouble, leftNumber⟩ := first.exists_toDouble?
    obtain ⟨b, rightDouble, rightNumber⟩ := second.exists_toDouble?
    refine ⟨_, order_of_doubles leftDouble rightDouble leftNumber rightNumber, ?_⟩
    rw [order_of_doubles rightDouble leftDouble rightNumber leftNumber, Std.OrientedOrd.eq_swap]

/-- Equality in scripts is what the order says, unless the values are blurred. -/
theorem Comparable.scriptEqual_iff (comparable : left.Comparable right) :
    left.scriptEqual right = true ↔ left.order right = .ok .eq ∧ ¬left.Blurred right := by
  cases comparable with
  | texts left right =>
    have clear : ¬(Value.text left).Blurred (.text right) := fun blurred =>
      absurd blurred.leftWhole Bool.false_ne_true
    rw [and_iff_left clear]
    simp [scriptEqual, rawEqual, order, kind, Kind.isNumeric, toDouble?, text?]
  | numbers first second => exact scriptEqual_of_numbers first second

/-- The operators that go by the order answer as the order of two texts or two numbers. -/
theorem Comparable.operate_order (comparable : left.Comparable right) :
    ∃ relation : Ordering, left.order right = .ok relation ∧
      left.operate .less right = .ok (.boolean (relation == .lt)) ∧
      right.operate .less left = .ok (.boolean (relation == .gt)) ∧
      left.operate .lessEq right = .ok (.boolean (relation == .lt || relation == .eq)) ∧
      left.operate .greaterEq right = .ok (.boolean (relation == .gt || relation == .eq)) := by
  obtain ⟨relation, forward, backward⟩ := comparable.exists_order
  refine ⟨relation, forward, ?_⟩
  simp only [operate, forward, backward]
  cases relation <;> exact ⟨rfl, rfl, rfl, rfl⟩

/-- The comparison operators agree on one relation between two texts or two numbers that are not
blurred: exactly one of less, equal and greater holds, and at most and at least are these or
equality. -/
theorem comparisons_agree (comparable : left.Comparable right) (clear : ¬left.Blurred right) :
    ∃ relation : Ordering,
      left.operate .less right = .ok (.boolean (relation == .lt)) ∧
      left.operate .eq right = .ok (.boolean (relation == .eq)) ∧
      right.operate .less left = .ok (.boolean (relation == .gt)) ∧
      left.operate .lessEq right = .ok (.boolean (relation == .lt || relation == .eq)) ∧
      left.operate .greaterEq right = .ok (.boolean (relation == .gt || relation == .eq)) := by
  obtain ⟨relation, order, less, greater, lessEq, greaterEq⟩ := comparable.operate_order
  have equal := comparable.scriptEqual_iff
  rw [and_iff_left clear, order] at equal
  have answer : left.scriptEqual right = (relation == .eq) := by
    rw [Bool.eq_iff_iff, equal, beq_iff_eq, Except.ok.injEq]
  exact ⟨relation, less, by rw [operate, answer], greater, lessEq, greaterEq⟩

/-- Two integers that doubles tell apart, of different kinds. -/
theorem comparisons_agree_mixed :
    ∃ relation : Ordering,
      (int .int64 ⟨9007199254740992, by decide, by decide⟩).operate .less
        (int .uint64 ⟨9007199254740994, by decide, by decide⟩) =
          .ok (.boolean (relation == .lt)) ∧
      (int .int64 ⟨9007199254740992, by decide, by decide⟩).operate .eq
        (int .uint64 ⟨9007199254740994, by decide, by decide⟩) =
          .ok (.boolean (relation == .eq)) ∧
      (int .uint64 ⟨9007199254740994, by decide, by decide⟩).operate .less
        (int .int64 ⟨9007199254740992, by decide, by decide⟩) =
          .ok (.boolean (relation == .gt)) ∧
      (int .int64 ⟨9007199254740992, by decide, by decide⟩).operate .lessEq
        (int .uint64 ⟨9007199254740994, by decide, by decide⟩) =
          .ok (.boolean (relation == .lt || relation == .eq)) ∧
      (int .int64 ⟨9007199254740992, by decide, by decide⟩).operate .greaterEq
        (int .uint64 ⟨9007199254740994, by decide, by decide⟩) =
          .ok (.boolean (relation == .gt || relation == .eq)) :=
  comparisons_agree (.numbers ⟨rfl, rfl⟩ ⟨rfl, rfl⟩) fun blurred =>
    absurd blurred.level (by decide +kernel)

/-- Blurred numbers are neither equal nor below one another, and yet at most and at least one
another. -/
theorem comparisons_blurred (comparable : left.Comparable right) (blurred : left.Blurred right) :
    left.operate .less right = .ok (.boolean false) ∧
      left.operate .eq right = .ok (.boolean false) ∧
      right.operate .less left = .ok (.boolean false) ∧
      left.operate .lessEq right = .ok (.boolean true) ∧
      left.operate .greaterEq right = .ok (.boolean true) := by
  obtain ⟨relation, order, less, greater, lessEq, greaterEq⟩ := comparable.operate_order
  obtain rfl : relation = .eq := Except.ok.inj (order.symm.trans blurred.level)
  have answer : left.scriptEqual right = false := by
    rw [Bool.eq_false_iff]
    exact fun equal => (comparable.scriptEqual_iff.mp equal).2 blurred
  exact ⟨less, by rw [operate, answer], greater, lessEq, greaterEq⟩

/-- The first integer above the significands of doubles and the next one. -/
example : (int .int64 ⟨9007199254740992, by decide, by decide⟩).Blurred
    (int .int64 ⟨9007199254740993, by decide, by decide⟩) :=
  ⟨rfl, rfl, by decide, by decide +kernel⟩

end ScriptHost.Value
