import ScriptHost.Failure

/-!
# Comparison of values

Three relations compare values. Identity holds between references to the same thing
only. Raw equality compares contents within one kind. Script equality compares
numbers of all kinds with each other, as integers where both sides are integers. The
order of scripts compares numbers as doubles and texts by code points.
-/

namespace ScriptHost.Value

open ScriptHost.Binary

/-- Whether two values are references to the same thing. -/
def isSame : Value → Value → Bool
  | .reference left, .reference right => left == right
  | _, _ => false

/-- Equality of optional doubles, as numbers. -/
def sameNumber : Option Double → Option Double → Bool
  | some left, some right => left.equals right
  | none, none => true
  | _, _ => false

/-- Equality within one kind. A datum that is no number equals its like. -/
def rawEqual (left right : Value) : Bool :=
  if left.kind ≠ right.kind then false
  else
    match left, right with
    | .nil, .nil => true
    | .boolean a, .boolean b => a == b
    | .text a, .text b => a == b
    | .single a, .single b => a.equals b || (a.isNaN && b.isNaN)
    | .number a, .number b => a.equals b || (a.isNaN && b.isNaN)
    | .int _ _, .int _ _ =>
      left.toInt64? == right.toInt64? && sameNumber left.toDouble? right.toDouble?
    | _, _ => left.isSame right

/-- Equality of scripts. -/
def scriptEqual (left right : Value) : Bool :=
  if left.kind.isNumeric && right.kind.isNumeric then
    match left.toInt64?, right.toInt64? with
    | some a, some b => a == b
    | _, _ => sameNumber left.toDouble? right.toDouble?
  else left.rawEqual right

/-- The order of scripts. Only two numbers or two texts have one. -/
def order (left right : Value) : Except TypeFault Ordering :=
  match left.toDouble?, right.toDouble? with
  | some a, some b =>
    match a.compare? b with
    | some ordering => .ok ordering
    | none => .error .unordered
  | _, _ =>
    match left.text?, right.text? with
    | some a, some b => .ok (compare a b)
    | _, _ => .error (.incomparable left.kind right.kind)

end ScriptHost.Value
