import Mathlib.Tactic.Linarith
import ScriptHost.Proofs.Evaluation.Packing
import ScriptHost.Proofs.Value.RawEquality

/-!
# Integer arithmetic

Sums, differences, products and negations of integers are exact modulo the number of
64-bit words, whatever the kinds of the operands are and however often a result is
narrowed on the way. So the laws of rings hold of scripts, even where words overflow.
Remainders are floored, and no step of their computation overflows.
-/

namespace ScriptHost

open ScriptHost.Binary ScriptHost.Action Script

/-! ## Integers as values -/

/-- A value is of an integer kind, and the integer fits a 64-bit word. -/
inductive Value.IsInteger : Value → Int → Prop
  | mk {kind : IntKind} (content : Ranged kind) (low : smallestInt64 ≤ content.value)
    (high : content.value ≤ largestInt64) : IsInteger (.int kind content) content.value

/-- An integer is the word that the value has. -/
theorem Value.isInteger_iff {value : Value} {x : Int} :
    value.IsInteger x ↔ ∃ word, value.word? = some word ∧ word.toInt = x := by
  constructor
  · rintro ⟨content, low, high⟩
    have same := toInt_ofInt64 low high
    exact ⟨_, toInt64?_int_eq_some_iff.mpr same, same⟩
  · rintro ⟨word, known, rfl⟩
    cases value with
    | int kind content =>
      have same := toInt64?_int_eq_some_iff.mp known
      rw [same]
      exact .mk content (same ▸ word.le_toInt) (same ▸ Int.le_sub_one_of_lt word.toInt_lt)
    | _ => contradiction

/-- The word of an integer. -/
theorem Value.IsInteger.word {value : Value} {x : Int} (integer : value.IsInteger x) :
    value.word? = some (Int64.ofInt x) ∧ (Int64.ofInt x).toInt = x := by
  obtain ⟨word, known, rfl⟩ := isInteger_iff.mp integer
  rw [Int64.ofInt_toInt]
  exact ⟨known, rfl⟩

/-- The value of a word has it. -/
theorem Value.word?_ofInt64 (word : Int64) : (Value.ofInt64 word).word? = some word := by
  obtain ⟨kind, content, integer⟩ := ofInt64_eq_int word
  have stands := toInt64?_ofInt64 word
  rw [integer] at stands ⊢
  exact stands

/-- A value with a word is one of an integer kind. -/
theorem Value.eq_int_of_word {value : Value} {word : Int64} (known : value.word? = some word) :
    ∃ kind content, value = .int kind content := by
  cases value with
  | int kind content => exact ⟨kind, content, rfl⟩
  | _ => contradiction

/-- The values of words are equal exactly if the words are. -/
theorem Value.rawEqual_ofInt64_iff {a b : Int64} :
    (Value.ofInt64 a).rawEqual (Value.ofInt64 b) = true ↔ a = b := by
  constructor
  · intro equal
    obtain ⟨_, _, left⟩ := ofInt64_eq_int a
    obtain ⟨_, _, right⟩ := ofInt64_eq_int b
    have words : (ofInt64 a).toInt64? = (ofInt64 b).toInt64? := by
      rw [left, right] at equal ⊢
      unfold rawEqual at equal
      split at equal
      · contradiction
      · exact eq_of_beq ((Bool.and_eq_true _ _).mp equal).1
    rw [toInt64?_ofInt64, toInt64?_ofInt64] at words
    exact Option.some.inj words
  · rintro rfl
    obtain ⟨kind, content, same⟩ := ofInt64_eq_int a
    rw [same]
    exact (rawEqual_int content content).mpr (.inl rfl)

/-! ## Operations -/

/-- The operation on integers that an operator is up to overflow. -/
def ringOperation? : BinaryOperator → Option (Int → Int → Int)
  | .add => some (· + ·)
  | .sub => some (· - ·)
  | .mul => some (· * ·)
  | _ => none

variable {left right value : Value} {x y : Int} {op : BinaryOperator} {operation : Int → Int → Int}

/-- An operation on words is the operation on integers in words. -/
theorem wordOperation?_ofInt (known : ringOperation? op = some operation) (x y : Int) :
    Value.wordOperation? op (Int64.ofInt x) (Int64.ofInt y) =
      some (.ok (Int64.ofInt (operation x y))) := by
  cases op with
  | add =>
    obtain rfl := Option.some.inj known
    exact congrArg (some ∘ Except.ok) (Int64.ofInt_add x y).symm
  | sub =>
    obtain rfl := Option.some.inj known
    exact congrArg (some ∘ Except.ok) (Int64.ofInt_sub x y).symm
  | mul =>
    obtain rfl := Option.some.inj known
    exact congrArg (some ∘ Except.ok) (Int64.ofInt_mul x y).symm
  | _ => contradiction

/-- An operator with two words is its operation on words, if it has one. -/
theorem arithmetic_of_words {a b : Int64} {result : Except TypeFault Int64}
    (first : left.word? = some a) (second : right.word? = some b)
    (known : Value.wordOperation? op a b = some result) :
    left.arithmetic op right = result.map .ofInt64 := by
  obtain ⟨_, content, rfl⟩ := Value.eq_int_of_word first
  obtain ⟨_, content', rfl⟩ := Value.eq_int_of_word second
  simp only [Value.arithmetic, Value.toDouble?, Value.onWords?, first, second, known]

/-- A sum, a difference or a product of words is the one of integers in words. -/
theorem operate_of_words (first : left.word? = some (Int64.ofInt x))
    (second : right.word? = some (Int64.ofInt y)) (known : ringOperation? op = some operation) :
    left.operate op right = .ok (.ofInt64 (Int64.ofInt (operation x y))) := by
  have numeric : left.operate op right = left.arithmetic op right := by
    cases op <;> first | rfl | contradiction
  rw [numeric, arithmetic_of_words first second (wordOperation?_ofInt known x y)]
  rfl

/-- The negation of a word is that of the integer in words. -/
theorem negate_of_word (known : value.word? = some (Int64.ofInt x)) :
    value.negate = .ok (.ofInt64 (Int64.ofInt (-x))) := by
  rw [Value.negate, known, Int64.ofInt_neg]

/-! ## Remainders -/

section Remainder

variable {a b : Int64}

/-- Whether a remainder has not the sign of the divisor. -/
def IsCorrected (a b : Int64) : Prop := a % b ≠ 0 ∧ (a % b < 0 ↔ 0 ≤ b)

/-- A remainder is corrected if its sign is the opposite one. -/
theorem isCorrected_iff (divisor : b.toInt ≠ 0) :
    IsCorrected a b ↔
      (a % b).toInt < 0 ∧ 0 < b.toInt ∨ 0 < (a % b).toInt ∧ b.toInt < 0 := by
  have zero : a % b ≠ 0 ↔ (a % b).toInt ≠ 0 := not_congr Int64.toInt_inj.symm
  unfold IsCorrected
  rw [zero, Int64.lt_iff_toInt_lt, Int64.le_iff_toInt_le, Int64.toInt_zero]
  omega

/-- The remainder of words is smaller than the divisor. -/
theorem natAbs_mod_lt (divisor : b.toInt ≠ 0) : (a % b).toInt.natAbs < b.toInt.natAbs := by
  rw [Int64.toInt_mod, Int.natAbs_tmod]
  exact Nat.mod_lt _ (Int.natAbs_pos.mpr divisor)

/-- Correcting a remainder does not overflow, since it brings it towards zero. -/
theorem toInt_corrected (divisor : b.toInt ≠ 0) (corrected : IsCorrected a b) :
    (a % b + b).toInt = (a % b).toInt + b.toInt := by
  have small := natAbs_mod_lt (a := a) divisor
  have low := b.le_toInt
  have high := b.toInt_lt
  have signs := (isCorrected_iff divisor).mp corrected
  rw [Int64.toInt_add]
  apply Int.bmod_eq_of_le <;> omega

/-- The floored remainder is what a multiple of the divisor leaves, and lies between zero and the
divisor. -/
theorem flooredRemainder_spec (divisor : b.toInt ≠ 0) :
    (∃ quotient, a.toInt = quotient * b.toInt + (flooredRemainder a b).toInt) ∧
      (0 ≤ (flooredRemainder a b).toInt ∧ (flooredRemainder a b).toInt < b.toInt ∨
        b.toInt < (flooredRemainder a b).toInt ∧ (flooredRemainder a b).toInt ≤ 0) := by
  have small := natAbs_mod_lt (a := a) divisor
  have divided : b.toInt * a.toInt.tdiv b.toInt + (a % b).toInt = a.toInt := by
    rw [Int64.toInt_mod]
    exact Int.mul_tdiv_add_tmod _ _
  by_cases corrected : IsCorrected a b
  · have signs := (isCorrected_iff divisor).mp corrected
    have value : flooredRemainder a b = a % b + b := if_pos corrected
    rw [value, toInt_corrected divisor corrected]
    refine ⟨⟨a.toInt.tdiv b.toInt - 1, ?_⟩, by omega⟩
    linarith
  · have signs := mt (isCorrected_iff divisor).mpr corrected
    have value : flooredRemainder a b = a % b := if_neg corrected
    rw [value]
    refine ⟨⟨a.toInt.tdiv b.toInt, ?_⟩, by omega⟩
    rw [Int.mul_comm, divided]

end Remainder

/-- What exact arithmetic gives for two integers. -/
structure Value.ExactArithmetic (left right : Value) (x y : Int) : Prop where
  ring : ∀ op operation, ringOperation? op = some operation →
    ∃ word : Int64, left.operate op right = .ok (.ofInt64 word) ∧
      word.toInt = (operation x y).bmod Int64.size
  neg : ∃ word : Int64, left.negate = .ok (.ofInt64 word) ∧ word.toInt = (-x).bmod Int64.size
  /-- Only a divisor of zero fails. -/
  mod_zero : (∃ fault, left.operate .mod right = .error fault) ↔ y = 0
  mod : y ≠ 0 → ∃ remainder : Int64, left.operate .mod right = .ok (.ofInt64 remainder) ∧
    (∃ quotient, x = quotient * y + remainder.toInt) ∧
    (0 ≤ remainder.toInt ∧ remainder.toInt < y ∨ y < remainder.toInt ∧ remainder.toInt ≤ 0)
  /-- Neither the remainder of words nor its correction overflows. -/
  mod_fits : y ≠ 0 → (Int64.ofInt x % Int64.ofInt y).toInt = x.tmod y ∧
    (IsCorrected (Int64.ofInt x) (Int64.ofInt y) →
      (Int64.ofInt x % Int64.ofInt y + Int64.ofInt y).toInt = x.tmod y + y)

/-- Arithmetic of integers is exact. -/
theorem Value.IsInteger.exactArithmetic (first : left.IsInteger x) (second : right.IsInteger y) :
    left.ExactArithmetic right x y := by
  obtain ⟨leftWord, leftValue⟩ := first.word
  obtain ⟨rightWord, rightValue⟩ := second.word
  have divisor (nonzero : y ≠ 0) : (Int64.ofInt y).toInt ≠ 0 := rightValue.symm ▸ nonzero
  have remainder (nonzero : y ≠ 0) : left.operate .mod right =
      .ok (.ofInt64 (flooredRemainder (Int64.ofInt x) (Int64.ofInt y))) := by
    have known : wordOperation? .mod (Int64.ofInt x) (Int64.ofInt y) =
        some (.ok (flooredRemainder (Int64.ofInt x) (Int64.ofInt y))) := by
      rw [wordOperation?, if_neg fun zero => divisor nonzero (Int64.toInt_inj.mpr zero)]
    exact arithmetic_of_words leftWord rightWord known
  refine ⟨fun op operation known => ?_, ?_, ⟨?_, ?_⟩, fun nonzero => ?_, fun nonzero => ?_⟩
  · exact ⟨_, operate_of_words leftWord rightWord known, Int64.toInt_ofInt⟩
  · exact ⟨_, negate_of_word leftWord, Int64.toInt_ofInt⟩
  · rintro ⟨fault, failed⟩
    by_contra nonzero
    rw [remainder nonzero] at failed
    contradiction
  · rintro rfl
    have known : wordOperation? .mod (Int64.ofInt x) (Int64.ofInt 0) = some (.error .zeroModulus) := rfl
    exact ⟨.zeroModulus, arithmetic_of_words leftWord rightWord known⟩
  · have spec := flooredRemainder_spec (a := Int64.ofInt x) (divisor nonzero)
    rw [leftValue, rightValue] at spec
    exact ⟨_, remainder nonzero, spec⟩
  · have step : (Int64.ofInt x % Int64.ofInt y).toInt = x.tmod y := by
      rw [Int64.toInt_mod, leftValue, rightValue]
    refine ⟨step, fun corrected => ?_⟩
    rw [toInt_corrected (divisor nonzero) corrected, step, rightValue]

/-! ## Nested operations -/

/-- An expression that nests sums, differences, products and negations of integers, and the exact
integer that it stands for. The integers are written or held by locals. -/
inductive Exact (locals : List (String × Value)) : Expression → Int → Prop
  | literal (word : Int64) : Exact locals (.integer word) word.toInt
  | name {name : String} {value : Value} {x : Int} (found : locals.lookup name = some value)
    (integer : value.IsInteger x) : Exact locals (.name name) x
  | paren {inner : Expression} {x : Int} : Exact locals inner x → Exact locals (.paren inner) x
  | binary {op : BinaryOperator} {operation : Int → Int → Int} {left right : Expression}
    {x y : Int} (known : ringOperation? op = some operation) :
    Exact locals left x → Exact locals right y →
    Exact locals (.binary op left right) (operation x y)
  | minus {operand : Expression} {x : Int} :
    Exact locals operand x → Exact locals (.unary .minus operand) (-x)

section Nested

variable (call : Caller) (world : World) {locals : List (String × Value)}
  {first second : Expression}

/-- An operator gives the operation on the words of its operands. -/
theorem evaluate_binary {frame : Frame} {u v : Value} (known : ringOperation? op = some operation)
    (leftRun : evaluate call frame first world = .ok [u] world)
    (rightRun : evaluate call (frame.keep [u]) second world = .ok [v] world)
    (leftWord : u.word? = some (Int64.ofInt x)) (rightWord : v.word? = some (Int64.ofInt y)) :
    evaluate call frame (.binary op first second) world =
      .ok [.ofInt64 (Int64.ofInt (operation x y))] world := by
  have result := operate_of_words leftWord rightWord known
  have strict : op ≠ .and ∧ op ≠ .or := by
    constructor <;> rintro rfl <;> contradiction
  rw [evaluate, bind_of_run_ok leftRun]
  · show (evaluate call (frame.keep [u]) second >>= _) world = _
    rw [bind_of_run_ok rightRun]
    show (ofFaulty (u.operate op v) >>= _) world = _
    rw [result]
    rfl
  · exact strict.1
  · exact strict.2

/-- Whether an expression is an operation, in parentheses or not, so that its value is narrowed. -/
def IsOperation : Expression → Prop
  | .binary .. | .unary .. => True
  | .paren inner => IsOperation inner
  | _ => False

/-- A nested expression gives one value, which has its exact integer in words and is the narrowest
such one if it is the result of an operation. -/
theorem Exact.evaluate_word {expression : Expression} (exact : Exact locals expression x)
    {frame : Frame} (same : frame.locals = locals) :
    ∃ value, evaluate call frame expression world = .ok [value] world ∧
      value.word? = some (Int64.ofInt x) ∧
      (IsOperation expression → value = .ofInt64 (Int64.ofInt x)) := by
  induction exact generalizing frame with
  | literal word =>
    refine ⟨.ofInt64 word, by rw [evaluate]; rfl, ?_, nofun⟩
    rw [Int64.ofInt_toInt]
    exact Value.word?_ofInt64 word
  | name found integer =>
    subst same
    exact ⟨_, evaluate_name call world found, integer.word.1, nofun⟩
  | paren _ ih =>
    obtain ⟨value, run, result⟩ := ih same
    exact ⟨value, by rw [evaluate, bind_of_run_ok run]; rfl, result⟩
  | binary known _ _ leftIh rightIh =>
    obtain ⟨u, leftRun, leftWord, -⟩ := leftIh same
    obtain ⟨v, rightRun, rightWord, -⟩ :=
      rightIh (show (frame.keep [u]).locals = locals from same)
    exact ⟨_, evaluate_binary call world known leftRun rightRun leftWord rightWord,
      Value.word?_ofInt64 _, fun _ => rfl⟩
  | minus _ ih =>
    obtain ⟨value, run, word, -⟩ := ih same
    refine ⟨_, ?_, Value.word?_ofInt64 _, fun _ => rfl⟩
    rw [evaluate, bind_of_run_ok run]
    show (ofFaulty value.negate >>= _) world = _
    rw [negate_of_word word]
    rfl

/-- Both expressions give one value each and leave the world as it is, and the values are equal. -/
def SameResult (frame : Frame) (first second : Expression) : Prop :=
  ∃ u v, evaluate call frame first world = .ok [u] world ∧
    evaluate call frame second world = .ok [v] world ∧ u.rawEqual v = true

/-- Nested operations have equal results exactly if their exact integers differ by a multiple of the
number of words. -/
theorem Exact.sameResult_iff {frame : Frame} (left : Exact frame.locals first x)
    (right : Exact frame.locals second y) (leftOperation : IsOperation first)
    (rightOperation : IsOperation second) :
    SameResult call world frame first second ↔ x.bmod Int64.size = y.bmod Int64.size := by
  obtain ⟨u, leftRun, -, leftResult⟩ := left.evaluate_word call world rfl
  obtain ⟨v, rightRun, -, rightResult⟩ := right.evaluate_word call world rfl
  have level : u.rawEqual v = true ↔ x.bmod Int64.size = y.bmod Int64.size := by
    rw [leftResult leftOperation, rightResult rightOperation, Value.rawEqual_ofInt64_iff,
      ← Int64.toInt_inj, Int64.toInt_ofInt, Int64.toInt_ofInt]
  rw [← level]
  constructor
  · rintro ⟨u', v', leftRun', rightRun', equal⟩
    obtain rfl : u' = u := by simpa [leftRun] using leftRun'.symm
    obtain rfl : v' = v := by simpa [rightRun] using rightRun'.symm
    exact equal
  · exact fun equal => ⟨u, v, leftRun, rightRun, equal⟩

end Nested

/-- The laws of rings for the results of operations on three expressions. -/
structure RingLaws (call : Caller) (world : World) (frame : Frame) (a b c : Expression) : Prop where
  add_comm : SameResult call world frame (.binary .add a b) (.binary .add b a)
  add_assoc : SameResult call world frame (.binary .add (.paren (.binary .add a b)) c)
    (.binary .add a (.paren (.binary .add b c)))
  mul_comm : SameResult call world frame (.binary .mul a b) (.binary .mul b a)
  mul_assoc : SameResult call world frame (.binary .mul (.paren (.binary .mul a b)) c)
    (.binary .mul a (.paren (.binary .mul b c)))
  mul_add : SameResult call world frame (.binary .mul a (.paren (.binary .add b c)))
    (.binary .add (.binary .mul a b) (.binary .mul a c))
  mul_sub : SameResult call world frame (.binary .mul a (.paren (.binary .sub b c)))
    (.binary .sub (.binary .mul a b) (.binary .mul a c))
  sub_eq : SameResult call world frame (.binary .sub a b) (.binary .add a (.unary .minus b))
  neg_mul : SameResult call world frame (.binary .mul (.unary .minus a) b)
    (.unary .minus (.paren (.binary .mul a b)))

/-- Nested operations on integers obey the laws of rings. -/
theorem ringLaws_of_exact (call : Caller) (world : World) {frame : Frame} {a b c : Expression}
    {k m n : Int} (first : Exact frame.locals a k) (second : Exact frame.locals b m)
    (third : Exact frame.locals c n) : RingLaws call world frame a b c := by
  have agree {left right : Expression} {x y : Int} (leftExact : Exact frame.locals left x)
      (rightExact : Exact frame.locals right y) (leftOperation : IsOperation left)
      (rightOperation : IsOperation right) (same : x = y) :
      SameResult call world frame left right :=
    (leftExact.sameResult_iff call world rightExact leftOperation rightOperation).mpr
      (congrArg (Int.bmod · Int64.size) same)
  constructor
  · exact agree (.binary rfl first second) (.binary rfl second first) trivial trivial
      (Int.add_comm k m)
  · exact agree (.binary rfl (.paren (.binary rfl first second)) third)
      (.binary rfl first (.paren (.binary rfl second third))) trivial trivial (Int.add_assoc k m n)
  · exact agree (.binary rfl first second) (.binary rfl second first) trivial trivial
      (Int.mul_comm k m)
  · exact agree (.binary rfl (.paren (.binary rfl first second)) third)
      (.binary rfl first (.paren (.binary rfl second third))) trivial trivial (Int.mul_assoc k m n)
  · exact agree (.binary rfl first (.paren (.binary rfl second third)))
      (.binary rfl (.binary rfl first second) (.binary rfl first third)) trivial trivial
      (Int.mul_add k m n)
  · exact agree (.binary rfl first (.paren (.binary rfl second third)))
      (.binary rfl (.binary rfl first second) (.binary rfl first third)) trivial trivial
      (Int.mul_sub k m n)
  · exact agree (.binary rfl first second) (.binary rfl first (.minus second)) trivial trivial
      Int.sub_eq_add_neg
  · exact agree (.binary rfl (.minus first) second) (.minus (.paren (.binary rfl first second)))
      trivial trivial (Int.neg_mul k m)

/-- Arithmetic of integers is exact modulo the number of words, operand by operand and nested, and
remainders are floored. So nested operations have the results of the ring of integers modulo that
number. -/
theorem integer_arithmetic_exact {left right : Value} {x y : Int} (isLeft : left.IsInteger x)
    (isRight : right.IsInteger y) (call : Caller) (world : World) (frame : Frame)
    {a b c : Expression} {k m n : Int} (first : Exact frame.locals a k)
    (second : Exact frame.locals b m) (third : Exact frame.locals c n) :
    left.ExactArithmetic right x y ∧
    (∃ value, evaluate call frame a world = .ok [value] world ∧
      value.IsInteger (k.bmod Int64.size)) ∧
    (IsOperation a → IsOperation b →
      (SameResult call world frame a b ↔ k.bmod Int64.size = m.bmod Int64.size)) ∧
    RingLaws call world frame a b c := by
  refine ⟨isLeft.exactArithmetic isRight, ?_, first.sameResult_iff call world second,
    ringLaws_of_exact call world first second third⟩
  obtain ⟨value, run, word, -⟩ := first.evaluate_word call world rfl
  exact ⟨value, run, Value.isInteger_iff.mpr ⟨_, word, Int64.toInt_ofInt⟩⟩

/-- The smallest integer and a divisor of another kind, minus one. -/
theorem integer_arithmetic_exact_least :
    let least : Value := .int .int64 ⟨smallestInt64, by decide, by decide⟩
    let divisor : Value := .int .sbyte ⟨-1, by decide, by decide⟩
    let frame : Frame := { environment := ⟨0⟩, locals := [("x", least), ("y", divisor)] }
    let call : Caller := fun _ _ _ => pure []
    least.operate .mod divisor = .ok (.ofInt64 0) ∧
      SameResult call {} frame (.binary .mul (.name "x") (.name "y"))
        (.binary .mul (.name "y") (.name "x")) := by
  intro least divisor frame call
  have isLeast : least.IsInteger smallestInt64 := .mk _ (by decide) (by decide)
  have isDivisor : divisor.IsInteger (-1) := .mk ⟨-1, by decide, by decide⟩ (by decide) (by decide)
  have first : Exact frame.locals (.name "x") smallestInt64 := .name rfl isLeast
  have second : Exact frame.locals (.name "y") (-1) := .name (by decide) isDivisor
  have exact := integer_arithmetic_exact isLeast isDivisor call {} frame first second (.literal 3)
  obtain ⟨remainder, result, -, bounds⟩ := exact.1.mod (by decide)
  have zero : remainder = 0 := Int64.toInt_inj.mp (by rw [Int64.toInt_zero]; omega)
  exact ⟨zero ▸ result, exact.2.2.2.mul_comm⟩

end ScriptHost
