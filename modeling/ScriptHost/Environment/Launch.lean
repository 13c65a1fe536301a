import ScriptHost.Config.Settings
import ScriptHost.Environment.Charging

/-!
# Starting environments

A host registers types, starts environments from settings and adds sources of names
to them. Starting an environment registers the packages of its settings one after
another, and the first one that cannot be registered makes the start fail. A package
is charged to the heap like any other global.
-/

namespace ScriptHost

open ScriptHost.Action

/-- Register a host type under its full name. -/
def HostType.register (type : HostType) : Action Unit := do
  let id ← newHostType type
  modify fun world => { world with registry := world.registry.register type.fullName id }

/-- Remove the host type of a full name, telling whether one was registered. -/
def Registry.remove (fullName : String) : Action Bool := do
  let world ← get
  set { world with registry := world.registry.unregister fullName }
  return (world.registry.find? fullName).isSome

namespace Environment

/-- The heap that settings ask for. -/
def heapOf (settings : Config.Settings) : Heap := { limit := settings.maxHeapBytes }

/-- Expose the static members of a host type under a global name. -/
def addPackage (id : EnvironmentId) (name : String) (type : Option HostTypeId) :
    Action Unit := do
  if name.isEmpty then refuse .packageName
  else
    match type with
    | none => refuse (.packageType name)
    | some type => setGlobal id name (.object (← newObject (.package type)))

/-- Register packages in order, each a global name with the full name of a host type. -/
def addPackages (id : EnvironmentId) : List (String × String) → Action Unit
  | [] => return ()
  | (name, fullName) :: rest => do
    match (← view (·.registry)).find? fullName with
    | none => refuse (.unknownPackageType name fullName)
    | some type => addPackage id name (some type)
    addPackages id rest

/-- A new environment with nothing in its storage. -/
def new (heap : Heap) (sink : Sink) (compiler : Compiler) : Action EnvironmentId := do
  let storage ← newTable {}
  let world ← get
  set { world with environments := world.environments.push { storage, heap, sink, compiler } }
  return ⟨world.environments.size⟩

/-- Start an environment. -/
def launch (settings : Config.Settings) (sink : Sink) (compiler : Compiler) :
    Action EnvironmentId := do
  let id ← new (heapOf settings) sink compiler
  addPackages id settings.packages
  return id

/-- Let the host no longer hold an environment. -/
def drop (id : EnvironmentId) : Action Unit :=
  changeEnvironment id fun environment => { environment with hosted := false }

/-- Consult a source after all those already there. -/
def addSource (id : EnvironmentId) (source : Source) : Action Unit :=
  changeEnvironment id fun environment =>
    { environment with sources := environment.sources ++ [source] }

/-- Take the lines that an environment has captured. -/
def takeOutput (id : EnvironmentId) : Action String := do
  match (← view (·.environment id)).sink with
  | .capture text =>
    changeEnvironment id fun environment => { environment with sink := .capture "" }
    return text
  | .elsewhere => return ""

end Environment

/-- Install an index hook on a table, or remove it with `nil`. -/
def TableId.installHook (id : TableId) (hook : Value) : Action Unit := do
  let table ← view (·.table id)
  putTable id { table with hook := if hook.isNil then none else some hook }

end ScriptHost
