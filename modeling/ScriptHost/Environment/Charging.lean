import ScriptHost.World.Action

/-!
# Charged writes

Writes to globals and to tables charge the environment's heap with the growth of the
entry, or refund what it shrinks by. A write that the heap refuses changes nothing.
-/

namespace ScriptHost.Environment

open ScriptHost.Action

/-- Charge the growth of an entry, or refund what it shrinks by. -/
def charge (id : EnvironmentId) (oldSize newSize : Nat) : Action Unit := do
  let heap := (← view (·.environment id)).heap
  if oldSize < newSize then
    match heap.charge? (Heap.word (newSize - oldSize)) with
    | some heap => changeEnvironment id fun environment => { environment with heap }
    | none => fail .outOfMemory
  else
    let heap := heap.refund (Heap.word (oldSize - newSize))
    changeEnvironment id fun environment => { environment with heap }

/-- The bytes that a global is charged with. -/
def globalSize (world : World) (name : String) (value : Value) : Nat :=
  if value.isNil then 0 else world.valueSize value + name.utf8ByteSize

/-- Write a global. `nil` removes it. -/
def setGlobal (id : EnvironmentId) (name : String) (value : Value) : Action Unit := do
  let world ← get
  let storage := (world.environment id).storage
  let old := (world.table storage).read (.text name)
  charge id (globalSize world name old) (globalSize world name value)
  let _ ← rawSet storage (.text name) value

/-- Write to a table, charged to an environment. -/
def storeInTable (id : EnvironmentId) (table : TableId) (key value : Value) : Action Unit := do
  let world ← get
  let oldSize := world.entrySize key ((world.table table).get key)
  let newSize := world.entrySize key value
  if oldSize < newSize &&
      !(world.environment id).heap.hasRoomFor (Heap.word (newSize - oldSize)) then
    fail .outOfMemory
  else
    let _ ← rawSet table key value
    charge id oldSize newSize

/-- Measure what global storage holds and make that the count of the heap. -/
def collect (id : EnvironmentId) : Action Nat := do
  let world ← get
  let measured := world.measure (world.environment id).storage
  changeEnvironment id fun environment =>
    { environment with heap := environment.heap.reset (UInt64.ofNat measured) }
  return measured

/-- Print a line. A captured line ends in a line break. -/
def printLine (id : EnvironmentId) (line : String) : Action Unit :=
  changeEnvironment id fun environment =>
    match environment.sink with
    | .capture text => { environment with sink := .capture (text ++ line ++ "\n") }
    | .elsewhere => environment

end ScriptHost.Environment
