import ScriptHost.World.Display
import ScriptHost.World.Measure
import ScriptHost.World.Retention

/-!
# Actions

An action runs in a world and gives a result or an interruption, in either case
together with the world it leaves behind. Running out of call depth and leaving the
range of a slice are interruptions of their own, which no script can bring about by
failing.
-/

namespace ScriptHost

/-- Why an action gave no result. -/
inductive Interrupt where
  | failed (failure : Failure)
  | tooDeep
  | outOfRange
deriving DecidableEq

/-- A computation in a world. -/
abbrev Action : Type → Type := EStateM Interrupt World

/-- What code runs in: an environment, if it has one, and everything else that the code running
around it holds. -/
structure Context where
  environment : Option EnvironmentId := none
  held : List Reference := []
deriving DecidableEq

namespace Context

/-- What the code in a context and around it holds. -/
def holds (context : Context) : List Reference :=
  context.environment.toList.map Reference.environment ++ context.held

/-- The context with values held besides. -/
def keep (context : Context) (values : List Value) : Context :=
  { context with held := values.flatMap Value.holds ++ context.held }

/-- The context of code in another environment that is run from this one. -/
def enter (context : Context) (id : EnvironmentId) : Context :=
  { environment := some id, held := context.holds }

end Context

/-- What can be called: a function value, or what a function would do, without there being one. -/
inductive Callee where
  | function (id : FunctionId)
  | body (body : FunctionBody)

instance : Coe FunctionId Callee := ⟨.function⟩

/-- A routine of the host as something to call, whatever the environment. -/
def Routine.callee (routine : Routine) : Callee := .body (.closure fun _ => routine)

/-- How something is called: in a context, with arguments. -/
abbrev Caller : Type := Context → Callee → List Value → Action (List Value)

namespace Action

/-- Give up with a failure. -/
def fail {Result : Type} (failure : Failure) : Action Result := throw (.failed failure)

/-- Give up with a type fault. -/
def fault {Result : Type} (fault : TypeFault) : Action Result := fail (.type fault)

/-- Give up with an argument fault. -/
def refuse {Result : Type} (fault : BadArgument) : Action Result := fail (.argument fault)

/-- Give up with an argument fault of a built-in function. -/
def badArgument {Result : Type} (place : Nat) (function : String) (problem : ArgumentProblem) :
    Action Result :=
  refuse (.position place function problem)

/-- The result of a step that can have a type fault. -/
def ofFaulty {Result : Type} : Except TypeFault Result → Action Result
  | .ok result => pure result
  | .error cause => fault cause

/-- The result of a step that can fail. -/
def ofOutcome {Result : Type} : Except Failure Result → Action Result
  | .ok result => pure result
  | .error failure => fail failure

/-- The result of a look at the world. -/
def view {Result : Type} (look : World → Result) : Action Result := do return look (← get)

/-- A new table. -/
def newTable (table : Table) : Action TableId := do
  let world ← get
  set { world with tables := world.tables.push table }
  return ⟨world.tables.size⟩

/-- A new function. -/
def newFunction (function : Callable) : Action FunctionId := do
  let world ← get
  set { world with functions := world.functions.push function }
  return ⟨world.functions.size⟩

/-- A new host object. -/
def newObject (object : HostObject) : Action ObjectId := do
  let world ← get
  set { world with objects := world.objects.push object }
  return ⟨world.objects.size⟩

/-- A new host type. -/
def newHostType (type : HostType) : Action HostTypeId := do
  let world ← get
  set { world with hostTypes := world.hostTypes.push type }
  return ⟨world.hostTypes.size⟩

/-- Let the host keep a value, giving the place where it keeps it. -/
def hold (value : Value) : Action Nat := do
  let world ← get
  set { world with held := world.held ++ [value] }
  return world.held.length

/-- Change a table. -/
def putTable (id : TableId) (table : Table) : Action Unit :=
  modify fun world => world.setTable id table

/-- Change an environment. -/
def changeEnvironment (id : EnvironmentId) (change : Environment → Environment) : Action Unit :=
  modify fun world => world.setEnvironment id (change (world.environment id))

/-- Store a value in a table, whatever its size. -/
def rawSet (id : TableId) (key value : Value) : Action Value := do
  let (previous, table) ← ofFaulty ((← view (·.table id)).set key value)
  putTable id table
  return previous

/-- Have the host remember a value under a key. -/
def remember (key value : Value) : Action Value := do
  let (previous, memory) ← ofFaulty ((← view (·.memory)).set key value)
  modify fun world => { world with memory }
  return previous

/-- Run an action for its result or its failure. What it has changed by then stays. -/
def attempt {Result : Type} (action : Action Result) : Action (Except Failure Result) :=
  fun world =>
    match action world with
    | .ok result later => .ok (.ok result) later
    | .error (.failed failure) later => .ok (.error failure) later
    | .error interrupt later => .error interrupt later

end Action

/-- The environment of a context that a built-in function needs. -/
def Context.required (context : Context) (caller : String) : Action EnvironmentId :=
  match context.environment with
  | some id => pure id
  | none => Action.fault (.noEnvironment caller)

end ScriptHost
