import ScriptHost.Evaluation.Chunk

/-!
# The core functions

The built-in functions that are global names of their own.
-/

namespace ScriptHost.Core

open ScriptHost.Binary ScriptHost.Action

/-- Gives its argument back if that converts to true, and fails otherwise. -/
def assert (arguments : List Value) : Action (List Value) := do
  let value := Arguments.value arguments 0
  if value.toBoolean then return [value]
  else
    match Arguments.value arguments 1 with
    | .nil => Action.fail (.raised "assertion failed!" 1)
    | message => Action.fail (.raised (← view (·.display message)) 1)

/-- The kilobytes in use and the bytes beyond whole kilobytes. -/
def memoryCount (context : Context) : Action (List Value) := do
  let id ← Context.required context "collectgarbage"
  let bytes := (← view (·.environment id)).heap.allocated.toNat
  return [.number ((Datum.ofInt bytes).div (Datum.ofInt 1024)), .ofNat (bytes % 1024)]

/-- Heap queries by option. An option that is not known gives nothing. -/
def collectGarbage (context : Context) (arguments : List Value) : Action (List Value) := do
  match Arguments.value arguments 0 with
  | .nil => return []
  | option =>
    match ← view (·.display option) with
    | "collect" =>
      let id ← Context.required context "collectgarbage"
      let _ ← Environment.collect id
      memoryCount context
    | "count" => memoryCount context
    | "isrunning" => return [.boolean true]
    | _ => return []

/-- Runs a file in the calling environment. -/
def doFile (call : Caller) (context : Context) (arguments : List Value) : Action (List Value) := do
  match Arguments.value arguments 0 with
  | .text path =>
    let id ← Context.required context "dofile"
    Environment.doFile call context.holds id path []
  | _ => badArgument 1 "dofile" (.expected "string" (Arguments.given arguments 0))

/-- Fails with a text and a level. -/
def error (arguments : List Value) : Action (List Value) := do
  let message ← view (·.display (Arguments.value arguments 0))
  let level := ((Arguments.value arguments 1).toInt64?).getD 1
  Action.fail (.raised message level)

/-- The line that printing writes: all texts in a row, `nil` giving none. -/
def printedLine (world : World) (arguments : List Value) : String :=
  String.join ((arguments.filter (!·.isNil)).map world.display)

/-- Prints a line, unless there are no arguments. -/
def print (context : Context) (arguments : List Value) : Action (List Value) := do
  if !arguments.isEmpty then
    match context.environment with
    | some id => Environment.printLine id (← view (printedLine · arguments))
    | none => pure ()
  return []

/-- The table that a raw operation insists on. -/
def tableArgument (arguments : List Value) (function : String) : Action TableId :=
  match Arguments.value arguments 0 with
  | .reference (.table id) => pure id
  | _ => fault (.tableExpected function (Arguments.given arguments 0))

/-- Raw equality. -/
def rawEqual (arguments : List Value) : Action (List Value) :=
  return [.boolean ((Arguments.value arguments 0).rawEqual (Arguments.value arguments 1))]

/-- Reads a table without its hooks. -/
def rawGet (arguments : List Value) : Action (List Value) := do
  let id ← tableArgument arguments "rawget"
  return [(← view (·.table id)).get (Arguments.value arguments 1)]

/-- Writes to a table and gives the table back. -/
def rawSet (context : Context) (arguments : List Value) : Action (List Value) := do
  let id ← tableArgument arguments "rawset"
  let key := Arguments.value arguments 1
  let value := Arguments.value arguments 2
  if key.isNil then badArgument 2 "rawset" .nilIndex
  else
    match context.environment with
    | some environment => Environment.storeInTable environment id key value
    | none =>
      let _ ← Action.rawSet id key value
      pure ()
    return [.table id]

/-- The length of a value: the bytes of a text, the positions of a table, or what a host object
reports. -/
def rawLen (arguments : List Value) : Action (List Value) := do
  let length ←
    match Arguments.value arguments 0 with
    | .text content => pure content.utf8ByteSize
    | .reference (.table id) => view fun world => (world.table id).length
    | .reference (.object id) => view fun world => ((world.object id).length?).getD 0
    | _ => pure 0
  return [.ofNat length]

/-- The arguments from an index on, counted from zero or, if negative, from the end. -/
def selected (index : Int) (rest : List Value) : List Value :=
  if index < 0 then rest.drop (rest.length + index).toNat else rest.drop index.toNat

/-- Gives trailing arguments, or their number for the selector `#`. -/
def select (arguments : List Value) : Action (List Value) :=
  match arguments with
  | [] => badArgument 1 "select" (.expected "number" none)
  | .text "#" :: rest => return [.ofNat rest.length]
  | selector :: rest =>
    match selector.toInt64? with
    | some index => return selected index.toInt rest
    | none => badArgument 1 "select" (.expected "number" selector.kind)

/-- The base that a conversion argument gives. -/
def numberBase (arguments : List Value) : Action Nat :=
  match Arguments.value arguments 1 with
  | .nil => pure 10
  | base =>
    match base.toInt64? with
    | some base =>
      if 0 ≤ base.toInt ∧ base.toInt ≤ IntKind.uint32.high then pure base.toInt.toNat
      else badArgument 2 "tonumber" (.baseRange base)
    | none => badArgument 2 "tonumber" .number

/-- Converts to a number. -/
def toNumber (arguments : List Value) : Action (List Value) := do
  let base ← numberBase arguments
  match (Arguments.value arguments 0).toNumber base with
  | .ok result => return [result]
  | .error cause => refuse cause

/-- The display text of a value, `nil` for `nil`. -/
def toString (arguments : List Value) : Action (List Value) := do
  match Arguments.value arguments 0 with
  | .nil => return [.nil]
  | value => return [.text (← view (·.display value))]

/-- The type that scripts see. -/
def typeOf (arguments : List Value) : Action (List Value) :=
  return [.text (Arguments.value arguments 0).typeName]

end ScriptHost.Core

namespace ScriptHost

/-- Run a core function. -/
def CoreFunction.run (call : Caller) (context : Context) (arguments : List Value) :
    CoreFunction → Action (List Value)
  | .assert => Core.assert arguments
  | .collectgarbage => Core.collectGarbage context arguments
  | .dofile => Core.doFile call context arguments
  | .error => Core.error arguments
  | .print => Core.print context arguments
  | .rawequal => Core.rawEqual arguments
  | .rawget => Core.rawGet arguments
  | .rawlen => Core.rawLen arguments
  | .rawset => Core.rawSet context arguments
  | .select => Core.select arguments
  | .tonumber => Core.toNumber arguments
  | .tostring => Core.toString arguments
  | .type => Core.typeOf arguments

/-- Run a built-in function. -/
def Builtin.run (call : Caller) (context : Context) (arguments : List Value) :
    Builtin → Action (List Value)
  | .core function => function.run call context arguments
  | .library function => function.run context arguments

end ScriptHost
