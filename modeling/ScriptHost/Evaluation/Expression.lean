import ScriptHost.Evaluation.Arithmetic
import ScriptHost.Evaluation.Members

/-!
# Evaluation of expressions

An expression gives a list of values: any number for calls and for the extra
arguments, exactly one for everything else. In a list of expressions the last one
keeps all its values and each of the others its first. Expressions read the frame of
their chunk and never change it. The values of the parts already evaluated are held
while the next part is.
-/

namespace ScriptHost

open ScriptHost.Action Script

/-- What a running chunk knows: its environment, its parameters and locals, and the arguments
beyond the parameters. Besides these the chunk and the code around it hold what `held` lists. -/
structure Frame where
  environment : EnvironmentId
  locals : List (String × Value) := []
  extras : List Value := []
  held : List Reference := []
deriving DecidableEq

namespace Frame

/-- The value of a local. -/
def find? (frame : Frame) (name : String) : Option Value := frame.locals.lookup name

/-- Locals with a value under a name, in the old place if the name has one. -/
def put (name : String) (value : Value) : List (String × Value) → List (String × Value)
  | [] => [(name, value)]
  | (other, old) :: rest =>
    if other = name then (name, value) :: rest else (other, old) :: put name value rest

/-- The frame with a local. -/
def declare (frame : Frame) (name : String) (value : Value) : Frame :=
  { frame with locals := put name value frame.locals }

/-- The frame with values held besides. -/
def keep (frame : Frame) (values : List Value) : Frame :=
  { frame with held := values.flatMap Value.holds ++ frame.held }

/-- The frame with what a table holds held besides. -/
def keepTable (frame : Frame) (table : Table) : Frame :=
  { frame with held := table.holds ++ frame.held }

/-- What the chunk holds, its environment apart, together with the code around it. -/
def holds (frame : Frame) : List Reference :=
  frame.locals.flatMap (·.2.holds) ++ frame.extras.flatMap Value.holds ++ frame.held

/-- The context of what the chunk calls. -/
def context (frame : Frame) : Context :=
  { environment := some frame.environment, held := frame.holds }

end Frame

/-- The value of a name: that of a local, else that of a global. -/
def lookupName (call : Caller) (frame : Frame) (name : String) : Action Value :=
  match frame.find? name with
  | some value => pure value
  | none => Environment.getGlobal call frame.holds frame.environment name

/-- The one value that a list of values stands for. -/
def firstValue (values : List Value) : Value := values.headD .nil

/-- A table with values at consecutive positions from one on. -/
def placeValues (table : Table) (position : Nat) : List Value → Table
  | [] => table
  | value :: rest =>
    placeValues (table.write (.integer (Int64.ofNat position)) value) (position + 1) rest

mutual

/-- The values of an expression. -/
def evaluate (call : Caller) (frame : Frame) : Expression → Action (List Value)
  | .nil => return [.nil]
  | .boolean value => return [.boolean value]
  | .integer value => return [.ofInt64 value]
  | .number value => return [.number value]
  | .text value => return [.text value]
  | .varargs => return frame.extras
  | .name name => do return [← lookupName call frame name]
  | .index object key => do
    let object := firstValue (← evaluate call frame object)
    let key := firstValue (← evaluate call (frame.keep [object]) key)
    return [← Value.index call frame.context object key]
  | .call callee arguments => do
    let callee := firstValue (← evaluate call frame callee)
    let arguments ← evaluateList call (frame.keep [callee]) arguments
    Value.apply call frame.context callee arguments
  | .method object name arguments => do
    let object := firstValue (← evaluate call frame object)
    let arguments ← evaluateList call (frame.keep [object]) arguments
    Value.applyMethod call frame.context object name arguments
  | .binary .and left right => do
    let left := firstValue (← evaluate call frame left)
    if left.isTruthy then return [firstValue (← evaluate call (frame.keep [left]) right)]
    else return [left]
  | .binary .or left right => do
    let left := firstValue (← evaluate call frame left)
    if left.isTruthy then return [left]
    else return [firstValue (← evaluate call (frame.keep [left]) right)]
  | .binary op left right => do
    let left := firstValue (← evaluate call frame left)
    let right := firstValue (← evaluate call (frame.keep [left]) right)
    return [← ofFaulty (left.operate op right)]
  | .unary .not operand => do
    let operand := firstValue (← evaluate call frame operand)
    return [.boolean !operand.isTruthy]
  | .unary .minus operand => do
    let operand := firstValue (← evaluate call frame operand)
    return [← ofFaulty operand.negate]
  | .table fields => do
    let table ← evaluateFields call frame default 1 fields
    return [.table (← newTable table)]
  | .paren inner => do return [firstValue (← evaluate call frame inner)]

/-- The values of a list of expressions. -/
def evaluateList (call : Caller) (frame : Frame) : List Expression → Action (List Value)
  | [] => return []
  | [last] => evaluate call frame last
  | expression :: rest => do
    let value := firstValue (← evaluate call frame expression)
    return value :: (← evaluateList call (frame.keep [value]) rest)

/-- The table of fields, from what the fields before have stored and the next position. -/
def evaluateFields (call : Caller) (frame : Frame) (table : Table) (position : Nat) :
    List Field → Action Table
  | [] => return table
  | [.positional last] => do
    return placeValues table position (← evaluate call (frame.keepTable table) last)
  | .positional value :: rest => do
    let value := firstValue (← evaluate call (frame.keepTable table) value)
    evaluateFields call frame (placeValues table position [value]) (position + 1) rest
  | .keyed key value :: rest => do
    let key := firstValue (← evaluate call (frame.keepTable table) key)
    let value := firstValue (← evaluate call ((frame.keepTable table).keep [key]) value)
    let (_, table) ← ofFaulty (table.set key value)
    evaluateFields call frame table position rest

end

end ScriptHost
