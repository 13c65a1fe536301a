import ScriptHost.Binary.Arithmetic
import ScriptHost.Library.Arguments

/-!
# The math library

All functions work on doubles. Integral results become integers where they lie
within the bounds of 64-bit integers.
-/

namespace ScriptHost.Math

open ScriptHost.Binary ScriptHost.Action

/-- The value of a result that has no fraction if it is finite. -/
def integral (result : Double) : Value :=
  if result.isFinite && withinBounds result.toRat.floor then
    .ofInt64 (cutToInt64 result.toRat.floor)
  else .number result

/-- The absolute value. Integer kinds give an integer. -/
def abs (arguments : List Value) : Action (List Value) := do
  let result := (← Arguments.double arguments 0 "abs").abs
  return match Arguments.value arguments 0 with
    | .single _ | .number _ => [.number result]
    | _ => [integral result]

/-- The largest integer not above. -/
def floor (arguments : List Value) : Action (List Value) := do
  return [integral (← Arguments.double arguments 0 "floor").floor]

/-- The smallest integer not below. -/
def ceil (arguments : List Value) : Action (List Value) := do
  return [integral (← Arguments.double arguments 0 "ceil").ceil]

/-- The square root. -/
def sqrt (arguments : List Value) : Action (List Value) := do
  return [.number (← Arguments.double arguments 0 "sqrt").sqrt]

/-- The argument whose double is better than those before it, from a best one so far.
`index` is the position of the first argument left. -/
def pickFrom (function : String) (wanted : Ordering) (arguments : List Value) :
    List Value → Nat → Value → Double → Action Value
  | [], _, best, _ => pure best
  | candidate :: rest, index, best, double => do
    let datum ← Arguments.double arguments index function
    if datum.compare? double == some wanted then
      pickFrom function wanted arguments rest (index + 1) candidate datum
    else pickFrom function wanted arguments rest (index + 1) best double

/-- The argument that no other one is better than, the first of several. -/
def pick (function : String) (wanted : Ordering) (arguments : List Value) :
    Action (List Value) := do
  let first ← Arguments.double arguments 0 function
  let best := Arguments.value arguments 0
  return [← pickFrom function wanted arguments (arguments.drop 1) 1 best first]

/-- The largest argument. -/
def max (arguments : List Value) : Action (List Value) := pick "max" .gt arguments

/-- The smallest argument. -/
def min (arguments : List Value) : Action (List Value) := pick "min" .lt arguments

end ScriptHost.Math
