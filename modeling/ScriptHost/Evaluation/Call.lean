import ScriptHost.Library.Core

/-!
# Calls

Calls are the only way for scripts and for code of the host to run inside one another, so
the depth of calls bounds every run. Code of the host runs operation by operation and
decides itself what becomes of a failure in one of them. A built-in function with a home
runs in its home environment, whoever calls it, and fails once that environment is gone.
The arguments of a call are held while it runs.
-/

namespace ScriptHost

open ScriptHost.Action

/-! ## Code of the host -/

/-- Carry out an operation of the host. `held` is what the code that asks for it holds. -/
def HostOperation.perform (call : Caller) (held : List Reference) :
    HostOperation → Action (List Value)
  | .display value => do return [.text (← view (·.display value))]
  | .makeTable => do return [.table (← newTable {})]
  | .get table key => do return [(← view (·.table table)).get key]
  | .set table key value => do return [← rawSet table key value]
  | .entries table => do
    let table ← view (·.table table)
    return table.entries.flatMap fun entry => [entry.1.toValue, entry.2]
  | .length table => do return [.ofNat (← view (·.table table)).length]
  | .remembered key => do return [(← view (·.memory)).get key]
  | .remember key value => do return [← Action.remember key value]
  | .index environment object key => do
    return [← Value.index call { environment, held } object key]
  | .store environment object key value => do
    Value.store call held environment object key value
    return []
  | .call environment callee arguments =>
    Value.apply call { environment, held } callee arguments
  | .method environment object name arguments =>
    Value.applyMethod call { environment, held } object name arguments

/-- What code of the host holds by a reply. -/
def HostReply.holds : HostReply → List Reference
  | .ok values => values.flatMap Value.holds
  | .error _ => []

/-- Run code of the host. It holds what it has been replied to the end. -/
def HostCode.run {Result : Type} (call : Caller) (held : List Reference) :
    HostCode Result → Action Result
  | .done result => return result
  | .step operation next => do
    let reply ← attempt (operation.perform call held)
    (next reply).run call (HostReply.holds reply ++ held)

/-- Run a routine of the host with arguments. -/
def Routine.run (call : Caller) (held : List Reference) (arguments : List Value)
    (routine : Routine) : Action (List Value) := do
  ofOutcome (← (routine arguments).run call held)

/-- Run the overload that takes the arguments. -/
def MethodGroup.invoke (call : Caller) (held : List Reference) (group : MethodGroup)
    (arguments : List Value) : Action (List Value) :=
  match group.select arguments.length with
  | some overload => overload.routine.run call held arguments
  | none => fault (.noOverload group.label arguments.length)

/-! ## Calls of functions -/

/-- The context that a function runs in. -/
def Callable.context (function : Callable) (caller : Context) : Action Context :=
  match function.home with
  | some id => do
    if ← view (·.isLive caller.holds id) then return caller.enter id
    else fault (.outlived function.name)
  | none => return caller

/-- Call a function. `call` runs the calls inside it. -/
def Callable.run (call : Caller) (caller : Context) (arguments : List Value)
    (function : Callable) : Action (List Value) :=
  let caller := caller.keep arguments
  match function.body with
  | .builtin builtin => do builtin.run call (← function.context caller) arguments
  | .closure code => (code caller.environment).run call caller.holds arguments
  | .methods group => group.invoke call caller.holds arguments

/-- The function that a callee stands for. -/
def World.callable (world : World) : Callee → Callable
  | .function id => world.function id
  | .body body => { name := "", body }

/-- Call functions with at most `depth` calls inside one another. -/
def callWithin : Nat → Caller
  | 0, _, _, _ => throw .tooDeep
  | depth + 1, context, callee, arguments => do
    (← view (·.callable callee)).run (callWithin depth) context arguments

/-- How deep calls can be. -/
def callDepth : Nat := 1000000

/-- Call functions. -/
def caller : Caller := callWithin callDepth

end ScriptHost
