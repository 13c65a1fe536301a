import ScriptHost.Binary.Arithmetic
import ScriptHost.Script.Block
import ScriptHost.Value.Conversion

/-!
# Operators on values

Sums, differences, products and remainders of integer kinds are taken in 64-bit
words; every other combination of numbers is computed on doubles, and so is every
quotient. A remainder takes the sign of its divisor.
-/

namespace ScriptHost

open ScriptHost.Binary

/-- The remainder that takes the sign of the divisor, which is not zero. -/
def flooredRemainder (left right : Int64) : Int64 :=
  let remainder := left % right
  if remainder ≠ 0 ∧ (remainder < 0 ↔ 0 ≤ right) then remainder + right else remainder

namespace Value

/-- The integer of an integer kind, if it fits a 64-bit word. -/
def word? (value : Value) : Option Int64 :=
  match value with
  | .single _ | .number _ => none
  | _ => value.toInt64?

/-- An operation on words, absent for operators that always work on doubles. -/
def wordOperation? (op : Script.BinaryOperator) (left right : Int64) :
    Option (Except TypeFault Int64) :=
  match op with
  | .add => some (.ok (left + right))
  | .sub => some (.ok (left - right))
  | .mul => some (.ok (left * right))
  | .mod => some (if right = 0 then .error .zeroModulus else .ok (flooredRemainder left right))
  | _ => none

/-- An operation on doubles. -/
def doubleOperation (op : Script.BinaryOperator) (left right : Double) : Except TypeFault Double :=
  match op with
  | .add => .ok (left.add right)
  | .sub => .ok (left.sub right)
  | .mul => .ok (left.mul right)
  | .div => .ok (left.div right)
  | .mod => .ok (left.sub ((left.div right).floor.mul right))
  | _ => .error .unsupportedOperator

/-- The operation on words that an operator is, if both operands have words. -/
def onWords? (op : Script.BinaryOperator) (left right : Value) : Option (Except TypeFault Int64) :=
  match left.word?, right.word? with
  | some a, some b => wordOperation? op a b
  | _, _ => none

/-- Arithmetic on two values. -/
def arithmetic (op : Script.BinaryOperator) (left right : Value) : Except TypeFault Value :=
  match left.toDouble?, right.toDouble? with
  | some a, some b =>
    match onWords? op left right with
    | some result => result.map .ofInt64
    | none => (doubleOperation op a b).map .number
  | none, _ => .error (.notArithmetic left.kind)
  | some _, none => .error (.notArithmetic right.kind)

/-- The negation of a value. -/
def negate (value : Value) : Except TypeFault Value :=
  match value.word? with
  | some word => .ok (.ofInt64 (-word))
  | none =>
    match value.toDouble? with
    | some datum => .ok (.number datum.neg)
    | none => .error (.notArithmetic value.kind)

/-- The concatenation of two values. -/
def concatenate (left right : Value) : Except TypeFault Value :=
  match left.concatText?, right.concatText? with
  | some a, some b => .ok (.text (a ++ b))
  | none, _ => .error (.notConcatenable left.kind)
  | some _, none => .error (.notConcatenable right.kind)

/-- The result of an operator with two evaluated operands. -/
def operate (op : Script.BinaryOperator) (left right : Value) : Except TypeFault Value :=
  match op with
  | .eq => .ok (.boolean (left.scriptEqual right))
  | .notEq => .ok (.boolean (!left.scriptEqual right))
  | .less => do return .boolean (← left.order right).isLT
  | .lessEq => do return .boolean (← left.order right).isLE
  | .greater => do return .boolean (← left.order right).isGT
  | .greaterEq => do return .boolean (← left.order right).isGE
  | .concat => concatenate left right
  | _ => arithmetic op left right

end Value

end ScriptHost
