import ScriptHost.Proofs.Value.Key

/-!
# Raw equality

Raw equality compares contents within one kind: integers as integers, texts as texts, binary data
as the numbers they denote, and references by what they refer to. One place departs from this. An
unsigned integer above the 64-bit integers stands for none of them, so two of these are compared
through their nearest doubles alone, and different ones that share a double count as equal.
-/

namespace ScriptHost

namespace Binary.Datum

variable {format : Format} {left right : Datum format}

/-- Data that denote the same number, or the same infinity. -/
inductive SameNumber (left right : Datum format) : Prop
  | finite (leftFinite : left.isFinite = true) (rightFinite : right.isFinite = true)
    (same : left.toRat = right.toRat)
  | infinite (leftInfinite : left.isInfinite = true) (rightInfinite : right.isInfinite = true)
    (same : left.negative = right.negative)

/-- What is finite or infinite is a number. -/
theorem isNaN_eq_false_iff : left.isNaN = false ↔ left.magnitude ≤ format.infinity := by
  simp [isNaN]

/-- Numbers are equal if they have one rank. -/
theorem equals_iff_rank : left.equals right = true ↔
    left.isNaN = false ∧ right.isNaN = false ∧ left.rank = right.rank := by
  cases leftKnown : left.isNaN <;> cases rightKnown : right.isNaN <;>
    simp [equals, compare?, leftKnown, rightKnown]

/-- Data are equal if they denote the same number or the same infinity. -/
theorem equals_iff (regular : format.Regular) (infinite : 0 < format.infinity) :
    left.equals right = true ↔ left.SameNumber right := by
  rw [equals_iff_rank, isNaN_eq_false_iff, isNaN_eq_false_iff]
  constructor
  · rintro ⟨leftNumber, rightNumber, level⟩
    have magnitudes : left.magnitude = right.magnitude := by rw [← natAbs_rank, level, natAbs_rank]
    rcases Nat.lt_or_eq_of_le leftNumber with finite | reached
    · exact .finite (decide_eq_true finite) (decide_eq_true (magnitudes ▸ finite))
        (toRat_eq_of_rank_eq regular level)
    · refine .infinite (decide_eq_true reached) (decide_eq_true (magnitudes ▸ reached)) ?_
      unfold rank at level
      cases leftSign : left.negative <;> cases rightSign : right.negative <;>
        simp only [leftSign, rightSign, Bool.false_eq_true, if_false, if_true] at level ⊢ <;> omega
  · rintro (⟨leftFinite, rightFinite, same⟩ | ⟨leftInfinite, rightInfinite, same⟩)
    · have leftBelow : left.magnitude < format.infinity := of_decide_eq_true leftFinite
      have rightBelow : right.magnitude < format.infinity := of_decide_eq_true rightFinite
      exact ⟨leftBelow.le, rightBelow.le, le_antisymm ((toRat_le_toRat regular).mp same.le)
        ((toRat_le_toRat regular).mp same.ge)⟩
    · have leftReached : left.magnitude = format.infinity := of_decide_eq_true leftInfinite
      have rightReached : right.magnitude = format.infinity := of_decide_eq_true rightInfinite
      exact ⟨leftReached.le, rightReached.le, by rw [rank, rank, same, leftReached, rightReached]⟩

end Binary.Datum

open Binary

namespace Value

variable {left right : Value} {kind : IntKind}

/-- Values of one kind with one content. -/
def SameContent : Value → Value → Prop
  | .nil, .nil => True
  | .boolean a, .boolean b => a = b
  | .int leftKind a, .int rightKind b => leftKind = rightKind ∧ a.value = b.value
  | .single a, .single b => a.SameNumber b ∨ a.isNaN = true ∧ b.isNaN = true
  | .number a, .number b => a.SameNumber b ∨ a.isNaN = true ∧ b.isNaN = true
  | .text a, .text b => a = b
  | .reference a, .reference b => a = b
  | _, _ => False

/-- Unsigned integers above the 64-bit integers with one nearest double. -/
structure Merged (left right : Value) : Prop where
  leftBeyond : left.isBeyond = true
  rightBeyond : right.isBeyond = true
  level : left.toDouble? = right.toDouble?

/-- Two values of one kind, with any contents. -/
inductive Paired : Value → Value → Prop
  | nil : Paired .nil .nil
  | boolean (a b : Bool) : Paired (.boolean a) (.boolean b)
  | int {kind : IntKind} (a b : Ranged kind) : Paired (.int kind a) (.int kind b)
  | single (a b : Single) : Paired (.single a) (.single b)
  | number (a b : Double) : Paired (.number a) (.number b)
  | text (a b : String) : Paired (.text a) (.text b)
  | reference (a b : Reference) : Paired (.reference a) (.reference b)

/-- Values of one kind have contents of one sort. -/
theorem paired_of_kind_eq (kinds : left.kind = right.kind) : left.Paired right := by
  cases left with
  | int kind a =>
    cases right with
    | int other b =>
      obtain rfl : kind = other := Kind.int.inj kinds
      exact .int a b
    | reference b => cases b <;> contradiction
    | _ => contradiction
  | reference a =>
    cases right with
    | reference b => exact .reference a b
    | _ => cases a <;> contradiction
  | nil | boolean | text | single | number =>
    cases right with
    | reference b => cases b <;> contradiction
    | _ => first | contradiction | constructor

/-- An integer of any kind stands for the word that has its value. -/
theorem toInt64?_int_eq_some_iff {content : Ranged kind} {word : Int64} :
    (int kind content).toInt64? = some word ↔ word.toInt = content.value := by
  constructor
  · intro known
    rw [toInt64?] at known
    split at known
    case isFalse => contradiction
    case isTrue inside =>
      rw [Bool.and_eq_true, decide_eq_true_eq, decide_eq_true_eq] at inside
      rw [← Option.some.inj known, toInt_ofInt64 inside.1 inside.2]
  · intro same
    have low : smallestInt64 ≤ content.value := same ▸ word.le_toInt
    have high : content.value ≤ largestInt64 := same ▸ Int.le_sub_one_of_lt word.toInt_lt
    rw [toInt64?, if_pos (by simp [low, high]), ← same, Int64.ofInt_toInt]

/-- An integer of any kind stands for itself or is above the 64-bit integers. -/
theorem toInt64?_int (content : Ranged kind) :
    (∃ word : Int64, (int kind content).toInt64? = some word ∧ word.toInt = content.value) ∧
        (int kind content).isBeyond = false ∨
      (int kind content).toInt64? = none ∧ (int kind content).isBeyond = true := by
  cases known : (int kind content).toInt64? with
  | none => exact .inr ⟨rfl, isBeyond_of_int known⟩
  | some word =>
    refine .inl ⟨⟨word, rfl, toInt64?_int_eq_some_iff.mp known⟩, Bool.eq_false_iff.mpr ?_⟩
    intro beyond
    rw [toInt64?_of_isBeyond beyond] at known
    contradiction

/-- Integers above the 64-bit integers are compared by their doubles. -/
theorem sameNumber_iff_of_beyond (leftBeyond : left.isBeyond = true)
    (rightBeyond : right.isBeyond = true) :
    sameNumber left.toDouble? right.toDouble? = true ↔ left.toDouble? = right.toDouble? := by
  have leftNone := toInt64?_of_isBeyond leftBeyond
  obtain ⟨a, rfl, -⟩ := eq_of_isBeyond leftBeyond
  obtain ⟨b, rfl, -⟩ := eq_of_isBeyond rightBeyond
  have number (content : Ranged .uint64) : (Datum.ofInt content.value : Double).isNaN = false :=
    Datum.isNaN_ofRat Format.double_regular false _
  have filled : (Datum.ofInt a.value : Double).rank ≠ 0 := rank_ne_zero rfl leftNone
  show sameNumber (some (Datum.ofInt a.value)) (some (Datum.ofInt b.value)) = true ↔
    some (Datum.ofInt a.value : Double) = some (Datum.ofInt b.value)
  rw [sameNumber_iff (number a) (number b), Option.some.injEq]
  exact ⟨fun level => Datum.eq_of_rank_eq Format.double_regular level filled, congrArg Datum.rank⟩

/-- Integers of one kind are equal if they are the same, or merged. -/
theorem rawEqual_int (a b : Ranged kind) :
    (int kind a).rawEqual (int kind b) = true ↔
      a.value = b.value ∨ (int kind a).Merged (int kind b) := by
  have steps : (int kind a).rawEqual (int kind b) = true ↔
      (int kind a).toInt64? = (int kind b).toInt64? ∧
        sameNumber (int kind a).toDouble? (int kind b).toDouble? = true := by
    simp [rawEqual, Value.kind]
  have reflexive (content : Ranged kind) :
      sameNumber (int kind content).toDouble? (int kind content).toDouble? = true :=
    (sameNumber_iff (Datum.isNaN_ofRat Format.double_regular false _)
      (Datum.isNaN_ofRat Format.double_regular false _)).mpr rfl
  rw [steps]
  constructor
  · rintro ⟨words, doubles⟩
    rcases toInt64?_int a with ⟨⟨word, leftKnown, leftWord⟩, -⟩ | ⟨leftNone, leftBeyond⟩ <;>
      rcases toInt64?_int b with ⟨⟨other, rightKnown, rightWord⟩, -⟩ | ⟨rightNone, rightBeyond⟩
    · rw [leftKnown, rightKnown, Option.some.injEq] at words
      exact .inl (by rw [← leftWord, ← rightWord, words])
    · rw [leftKnown, rightNone] at words
      contradiction
    · rw [leftNone, rightKnown] at words
      contradiction
    · exact .inr ⟨leftBeyond, rightBeyond, (sameNumber_iff_of_beyond leftBeyond rightBeyond).mp doubles⟩
  · rintro (same | ⟨leftBeyond, rightBeyond, level⟩)
    · obtain rfl : a = b := by
        cases a
        cases b
        cases same
        rfl
      exact ⟨rfl, reflexive a⟩
    · exact ⟨by rw [toInt64?_of_isBeyond leftBeyond, toInt64?_of_isBeyond rightBeyond],
        (sameNumber_iff_of_beyond leftBeyond rightBeyond).mpr level⟩

/-- Binary data are equal if they denote one number or both denote none. -/
theorem equals_or_isNaN_iff {format : Format} (regular : format.Regular)
    (infinite : 0 < format.infinity) (a b : Datum format) :
    (a.equals b || (a.isNaN && b.isNaN)) = true ↔
      a.SameNumber b ∨ a.isNaN = true ∧ b.isNaN = true := by
  rw [Bool.or_eq_true, Bool.and_eq_true, Datum.equals_iff regular infinite]

/-- Two values are raw equal exactly if they are of one kind and have one content, or are unsigned
integers above the 64-bit integers that are merged. -/
theorem rawEqual_iff_content (left right : Value) :
    left.rawEqual right = true ↔
      left.kind = right.kind ∧ (left.SameContent right ∨ left.Merged right) := by
  by_cases kinds : left.kind = right.kind
  case neg =>
    have unequal : left.rawEqual right = false := if_pos kinds
    rw [unequal]
    exact iff_of_false Bool.false_ne_true fun known => kinds known.1
  case pos =>
    have unmerged (inside : left.isBeyond = false) : ¬left.Merged right := fun merged =>
      Bool.false_ne_true (inside.symm.trans merged.leftBeyond)
    rw [and_iff_right kinds]
    cases paired_of_kind_eq kinds with
    | nil => simp [rawEqual, SameContent]
    | boolean a b =>
      rw [or_iff_left (unmerged rfl)]
      simp [rawEqual, kinds, SameContent]
    | int a b => rw [rawEqual_int, SameContent, and_iff_right rfl]
    | single a b =>
      rw [or_iff_left (unmerged rfl)]
      exact equals_or_isNaN_iff Format.single_regular (by decide) a b
    | number a b =>
      rw [or_iff_left (unmerged rfl)]
      exact equals_or_isNaN_iff Format.double_regular (by decide) a b
    | text a b =>
      rw [or_iff_left (unmerged rfl)]
      simp [rawEqual, kinds, SameContent]
    | reference a b =>
      rw [or_iff_left (unmerged rfl)]
      simp [rawEqual, kinds, SameContent, isSame]

/-- The first unsigned integer above the 64-bit integers and the next one. -/
example : (int .uint64 ⟨0x8000000000000000, by decide, by decide⟩).rawEqual
    (int .uint64 ⟨0x8000000000000001, by decide, by decide⟩) = true := by decide +kernel

end Value

end ScriptHost
