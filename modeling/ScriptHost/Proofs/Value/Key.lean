import ScriptHost.Proofs.Value.Comparison
import ScriptHost.Table

/-!
# Keys and equality

Values with one key are equal in scripts, and equal values have one key but for one
place: the numbers whose double is the one above the 64-bit integers. The unsigned
integers there have this double as key, the others the largest 64-bit integer, although
all of them are equal.
-/

namespace ScriptHost

open ScriptHost.Binary

namespace Value

variable {left right value : Value} {word : Int64}

/-- What can be a key: neither `nil` nor a datum that is no number. -/
structure CanBeKey (value : Value) : Prop where
  present : value.isNil = false
  number : value.isNaN = false

/-- An unsigned integer above the 64-bit integers. -/
def isBeyond : Value → Bool
  | .int .uint64 content => largestInt64 < content.value
  | _ => false

/-- Equal numbers with different keys. -/
structure Severed (left right : Value) : Prop where
  equal : left.scriptEqual right = true
  apart : left.isBeyond = true ∧ right.toInt64?.isSome = true ∨
    left.toInt64?.isSome = true ∧ right.isBeyond = true

/-- All kinds of integers but one are within the 64-bit integers. -/
theorem kind_bounds (kind : IntKind) :
    smallestInt64 ≤ kind.low ∧ (kind.high ≤ largestInt64 ∨ kind = .uint64) := by
  cases kind <;> decide

/-- An integer that does not stand for a 64-bit integer is above them. -/
theorem isBeyond_of_int {kind : IntKind} {content : Ranged kind}
    (none : (int kind content).toInt64? = none) : (int kind content).isBeyond = true := by
  have outside : ¬(smallestInt64 ≤ content.value ∧ content.value ≤ largestInt64) := by
    intro inside
    rw [toInt64?, if_pos (by simpa using inside)] at none
    contradiction
  obtain ⟨low, high | rfl⟩ := kind_bounds kind
  · exact absurd ⟨low.trans content.low_le, content.le_high.trans high⟩ outside
  · have least := low.trans content.low_le
    rw [isBeyond, decide_eq_true_eq]
    omega

/-- What is above the 64-bit integers is an unsigned integer. -/
theorem eq_of_isBeyond (beyond : value.isBeyond = true) :
    ∃ content : Ranged .uint64, value = int .uint64 content ∧ largestInt64 < content.value := by
  unfold isBeyond at beyond
  split at beyond
  · exact ⟨_, rfl, of_decide_eq_true beyond⟩
  · contradiction

/-- What is above the 64-bit integers stands for none of them. -/
theorem toInt64?_of_isBeyond (beyond : value.isBeyond = true) : value.toInt64? = none := by
  obtain ⟨content, rfl, above⟩ := eq_of_isBeyond beyond
  rw [toInt64?, if_neg]
  simp only [Bool.and_eq_true, decide_eq_true_eq]
  omega

/-- A number whose double is that of a 64-bit integer stands for one or is above them. -/
theorem isBeyond_of_rank {datum : Double} (double : value.toDouble? = some datum)
    (none : value.toInt64? = none) {number : Int} (low : smallestInt64 ≤ number)
    (high : number ≤ largestInt64) (same : datum.rank = (Datum.ofInt number : Double).rank) :
    value.isBeyond = true := by
  have whole (content : Double) (rank : content.rank = (Datum.ofInt number : Double).rank) :
      content.toInt64? ≠ .none := by
    obtain ⟨word, known⟩ := Datum.exists_toInt64?_ofInt low high
    rw [Datum.toInt64?_eq_of_rank_eq Format.double_regular rank, known]
    exact Option.some_ne_none word
  cases value with
  | int kind content => exact isBeyond_of_int none
  | single content =>
    obtain rfl := Option.some.inj double
    exact absurd none (whole _ same)
  | number content =>
    obtain rfl := Option.some.inj double
    exact absurd none (whole _ same)
  | nil | boolean | text | reference => contradiction

/-- A number that does not stand for a 64-bit integer does not have the double of zero. -/
theorem rank_ne_zero {datum : Double} (double : value.toDouble? = some datum)
    (none : value.toInt64? = none) : datum.rank ≠ 0 := by
  intro zero
  have level : datum.rank = (Datum.ofInt 0 : Double).rank := zero
  have beyond := isBeyond_of_rank double none (by decide) (by decide) level
  obtain ⟨content, rfl, above⟩ := eq_of_isBeyond beyond
  obtain rfl := Option.some.inj double
  have least : (Datum.ofInt (largestInt64 + 1) : Double).rank ≤ (Datum.ofInt content.value).rank :=
    Datum.rank_ofRat_mono Format.double_regular false false (Int.cast_le.mpr (by omega))
  rw [zero] at least
  exact absurd least (by decide +kernel)

/-- What has the double of a value that stands for a 64-bit integer stands for one or is above
them. -/
theorem isBeyond_of_level {a b : Double} (leftDouble : left.toDouble? = some a)
    (rightDouble : right.toDouble? = some b) (leftWord : left.toInt64? = some word)
    (rightNone : right.toInt64? = none) (level : a.rank = b.rank) : right.isBeyond = true := by
  obtain ⟨_, leftSame, leftRank⟩ := rank_of_toInt64? leftWord
  obtain rfl := Option.some.inj (leftDouble.symm.trans leftSame)
  exact isBeyond_of_rank rightDouble rightNone word.le_toInt
    (Int.le_of_lt_add_one word.toInt_lt) (level.symm.trans leftRank)

/-! ## Keys -/

/-- The key of a value that stands for a 64-bit integer. -/
theorem key_of_word (given : value.toInt64? = some word) :
    Key.ofValue? value = some (.integer word) := by
  cases value with
  | int | single | number => simp [Key.ofValue?, given]
  | nil | boolean | text | reference => contradiction

/-- The key of any other number. -/
theorem key_of_double {datum : Double} (double : value.toDouble? = some datum)
    (number : datum.isNaN = false) (none : value.toInt64? = none) :
    Key.ofValue? value = some (.float datum) := by
  cases value with
  | int | single | number => simp [Key.ofValue?, none, double, number]
  | nil | boolean | text | reference => contradiction

/-- Numbers have one key if they are equal and not severed. -/
theorem key_eq_key_of_numbers (first : left.IsNumber) (second : right.IsNumber) :
    Key.ofValue? left = Key.ofValue? right ↔
      left.scriptEqual right = true ∧ ¬left.Severed right := by
  obtain ⟨a, leftDouble, leftNumber⟩ := first.exists_toDouble?
  obtain ⟨b, rightDouble, rightNumber⟩ := second.exists_toDouble?
  cases leftWord : left.toInt64? with
  | some p =>
    have leftInside : ¬left.isBeyond = true := fun beyond => by
      simp [toInt64?_of_isBeyond beyond] at leftWord
    rw [key_of_word leftWord]
    cases rightWord : right.toInt64? with
    | some q =>
      have rightInside : ¬right.isBeyond = true := fun beyond => by
        simp [toInt64?_of_isBeyond beyond] at rightWord
      have joined : ¬left.Severed right := fun severed =>
        severed.apart.elim (fun apart => leftInside apart.1) fun apart => rightInside apart.2
      rw [key_of_word rightWord, scriptEqual_of_words first second leftWord rightWord,
        and_iff_left joined]
      simp
    | none =>
      rw [key_of_double rightDouble rightNumber rightWord]
      refine iff_of_false (by simp) fun ⟨equal, joined⟩ => joined ⟨equal, .inr ⟨?_, ?_⟩⟩
      · rw [leftWord]
        rfl
      · have level := (scriptEqual_of_doubles first second leftDouble rightDouble leftNumber
          rightNumber (.inr rightWord)).mp equal
        exact isBeyond_of_level leftDouble rightDouble leftWord rightWord level
  | none =>
    rw [key_of_double leftDouble leftNumber leftWord]
    have equal := scriptEqual_of_doubles first second leftDouble rightDouble leftNumber
      rightNumber (.inl leftWord)
    cases rightWord : right.toInt64? with
    | some q =>
      rw [key_of_word rightWord]
      refine iff_of_false (by simp) fun ⟨same, joined⟩ => joined ⟨same, .inl ⟨?_, ?_⟩⟩
      · exact isBeyond_of_level rightDouble leftDouble rightWord leftWord (equal.mp same).symm
      · rw [rightWord]
        rfl
    | none =>
      have joined : ¬left.Severed right := fun severed => by
        simpa [leftWord, rightWord] using severed.apart
      rw [key_of_double rightDouble rightNumber rightWord, and_iff_left joined, equal,
        Option.some.injEq, Key.float.injEq]
      refine ⟨fun same => by rw [same], fun level => ?_⟩
      exact Datum.eq_of_rank_eq Format.double_regular level (rank_ne_zero leftDouble leftWord)

/-- Every value that can be a key has one, and numbers have those that stand for numbers. -/
theorem CanBeKey.exists_key (can : value.CanBeKey) :
    ∃ key, Key.ofValue? value = some key ∧
      (value.kind.isNumeric = true ∧ key.toValue.kind.isNumeric = true ∨
        value.kind.isNumeric = false ∧ key.toValue = value) := by
  by_cases numeric : value.kind.isNumeric = true
  · obtain ⟨datum, double, number⟩ := IsNumber.exists_toDouble? ⟨numeric, can.number⟩
    cases given : value.toInt64? with
    | some word =>
      refine ⟨_, key_of_word given, .inl ⟨numeric, ?_⟩⟩
      rw [Key.toValue, ofInt64]
      split <;> rfl
    | none => exact ⟨_, key_of_double double number given, .inl ⟨numeric, rfl⟩⟩
  · rw [Bool.not_eq_true] at numeric
    cases value with
    | nil => exact absurd can.present (by decide)
    | boolean | text | reference => exact ⟨_, rfl, .inr ⟨numeric, rfl⟩⟩
    | int | single | number => contradiction

/-- Values that are not two numbers are equal if they are the same. -/
theorem scriptEqual_iff_eq (plain : (left.kind.isNumeric && right.kind.isNumeric) = false) :
    left.scriptEqual right = true ↔ left = right := by
  rw [scriptEqual, plain, if_neg Bool.false_ne_true]
  unfold rawEqual
  split
  case isTrue apart =>
    refine iff_of_false Bool.false_ne_true ?_
    rintro rfl
    exact apart rfl
  case isFalse same =>
    rw [← Decidable.not_not.mp same, Bool.and_self] at plain
    cases left with
    | nil | boolean | text | reference => cases right <;> simp [isSame]
    | int | single | number => contradiction

/-- Only numbers are severed. -/
theorem Severed.numeric (severed : left.Severed right) :
    (left.kind.isNumeric && right.kind.isNumeric) = true := by
  have beyond {value : Value} (known : value.isBeyond = true) : value.kind.isNumeric = true := by
    obtain ⟨content, rfl, -⟩ := eq_of_isBeyond known
    rfl
  have whole {value : Value} (known : value.toInt64?.isSome = true) :
      value.kind.isNumeric = true := by
    cases value with
    | int | single | number => rfl
    | nil | boolean | text | reference => contradiction
  rw [Bool.and_eq_true]
  exact severed.apart.elim (fun apart => ⟨beyond apart.1, whole apart.2⟩)
    fun apart => ⟨whole apart.1, beyond apart.2⟩

/-- Values have one key if they are equal in scripts and not severed. -/
theorem key_eq_key_iff (first : left.CanBeKey) (second : right.CanBeKey) :
    Key.ofValue? left = Key.ofValue? right ↔
      left.scriptEqual right = true ∧ ¬left.Severed right := by
  cases numbers : left.kind.isNumeric && right.kind.isNumeric with
  | true =>
    rw [Bool.and_eq_true] at numbers
    exact key_eq_key_of_numbers ⟨numbers.1, first.number⟩ ⟨numbers.2, second.number⟩
  | false =>
    have joined : ¬left.Severed right := fun severed =>
      Bool.false_ne_true (numbers.symm.trans severed.numeric)
    rw [scriptEqual_iff_eq numbers, and_iff_left joined]
    refine ⟨fun same => ?_, fun same => by rw [same]⟩
    obtain ⟨key, leftKnown, leftSort⟩ := first.exists_key
    obtain ⟨_, rightKnown, rightSort⟩ := second.exists_key
    obtain rfl := Option.some.inj (leftKnown.symm.trans (same.trans rightKnown))
    rcases leftSort with ⟨leftNumeric, number⟩ | ⟨leftPlain, leftBack⟩ <;>
      rcases rightSort with ⟨rightNumeric, number'⟩ | ⟨rightPlain, rightBack⟩
    · simp [leftNumeric, rightNumeric] at numbers
    · rw [rightBack, rightPlain] at number
      contradiction
    · rw [leftBack, leftPlain] at number'
      contradiction
    · rw [← leftBack, rightBack]

end Value

namespace Table

open Value

variable {left right : Value}

/-- Keys agree with equality: values that are not severed have one key exactly if they are equal in
scripts, so what is stored under one value is read under the equal ones and under no other. -/
theorem keys_agree (first : left.CanBeKey) (second : right.CanBeKey) (joined : ¬left.Severed right) :
    (Key.ofValue? left = Key.ofValue? right ↔ left.scriptEqual right = true) ∧
      ∀ (table : Table) (value : Value), ∃ old written,
        table.set left value = .ok (old, written) ∧
          written.get right = if left.scriptEqual right = true then value else table.get right := by
  have same : Key.ofValue? left = Key.ofValue? right ↔ left.scriptEqual right = true := by
    rw [key_eq_key_iff first second, and_iff_left joined]
  refine ⟨same, fun table value => ?_⟩
  obtain ⟨leftKey, leftKnown, -⟩ := first.exists_key
  obtain ⟨rightKey, rightKnown, -⟩ := second.exists_key
  rw [leftKnown, rightKnown, Option.some.injEq] at same
  refine ⟨table.read leftKey, table.write leftKey value, ?_, ?_⟩
  · rw [set, leftKnown]
  · rw [get, get, rightKnown]
    simp only [read_write, same]

/-- Negative zero and the zero of bytes. -/
theorem keys_agree_zero :
    (Key.ofValue? (.number (Datum.zero true)) = Key.ofValue? (.int .byte ⟨0, by decide, by decide⟩) ↔
        (Value.number (Datum.zero true)).scriptEqual (.int .byte ⟨0, by decide, by decide⟩) = true) ∧
      ∀ (table : Table) (value : Value), ∃ old written,
        table.set (.number (Datum.zero true)) value = .ok (old, written) ∧
          written.get (.int .byte ⟨0, by decide, by decide⟩) =
            if (Value.number (Datum.zero true)).scriptEqual (.int .byte ⟨0, by decide, by decide⟩) = true
            then value else table.get (.int .byte ⟨0, by decide, by decide⟩) :=
  keys_agree ⟨rfl, by decide⟩ ⟨rfl, rfl⟩ fun severed =>
    severed.apart.elim (fun apart => absurd apart.1 (by decide)) fun apart => absurd apart.2 (by decide)

/-- The double next above the 64-bit integers and the unsigned integer there. -/
example : (Value.number (Datum.ofInt (largestInt64 + 1))).Severed
    (.int .uint64 ⟨0x8000000000000000, by decide, by decide⟩) :=
  ⟨by decide +kernel, .inr ⟨by decide +kernel, by decide⟩⟩

end Table

end ScriptHost
