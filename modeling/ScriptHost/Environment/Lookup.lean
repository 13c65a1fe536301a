import ScriptHost.World.Action

/-!
# Name resolution

A global name is looked up source by source, and the first answer wins: reserved
names, the environment's storage, core functions, system libraries, then the sources
that the host has added, whose answers come from code of the host. Storage is read with
its index hook. Nothing remembers which source answered; only the values made for core
functions and libraries are kept, so that they stay the same.
-/

namespace ScriptHost

open ScriptHost.Action

/-- How many tables a hooked read visits at most. -/
def hookDepth : Nat := 100

/-- Read a key from a table and, on a miss, from what its hooks lead to, over at most `steps`
tables. A table hook is read next. A function hook is called with the table and the key. -/
def hookedFrom (call : Caller) (context : Context) (key : Value) : Nat → TableId → Action Value
  | 0, _ => fault .hookChain
  | steps + 1, id => do
    let table ← view (·.table id)
    let value := table.get key
    if !value.isNil then return value
    match table.hook with
    | some (.reference (.table next)) => hookedFrom call context key steps next
    | some (.reference (.function hook)) =>
      return (← call context hook [.table id, key]).headD .nil
    | _ => return .nil

/-- Read a key from a table with its hooks. Both are held meanwhile. -/
def hookedGet (call : Caller) (context : Context) (table : TableId) (key : Value) : Action Value :=
  hookedFrom call (context.keep [.table table, key]) key hookDepth table

namespace Environment

/-- The text of the reserved name for the version. -/
def versionText : String := "Lune 5.2"

/-- The reserved name for the version. -/
def versionName : String := "_VERSION"

/-- The function value that the sources of an environment have for a core function. It is made at
its first use, at home in the environment that it is looked up in then. -/
def coreValue (owner id : EnvironmentId) (function : CoreFunction) : Action Value := do
  match (← view (·.environment owner)).coreMade.lookup function with
  | some made => return .function made
  | none =>
    let made ← newFunction { name := function.label, body := .builtin (.core function), home := id }
    changeEnvironment owner fun environment =>
      { environment with coreMade := environment.coreMade ++ [(function, made)] }
    return .function made

/-- The object that the sources of an environment have for a library, made at its first use. -/
def libraryValue (owner : EnvironmentId) (library : Library) : Action Value := do
  match (← view (·.environment owner)).librariesMade.lookup library with
  | some made => return .object made
  | none =>
    let made ← newObject (.library library [])
    changeEnvironment owner fun environment =>
      { environment with librariesMade := environment.librariesMade ++ [(library, made)] }
    return .object made

/-- Run code of the host that answers a name. -/
def answerOfHost (call : Caller) (held : List Reference)
    (code : HostCode (Except Failure (Option Value))) : Action (Option Value) := do
  let routine : Routine := fun _ => code.bind fun answer => .done (answer.map Option.toList)
  return (← call { held } routine.callee []).head?

/-- The answer in an environment of one of the sources of `owner`. `held` is what the code that
asks holds. -/
def answer (call : Caller) (held : List Reference) (owner id : EnvironmentId) (name : String) :
    Source → Action (Option Value)
  | .reserved =>
    if name = TypeTree.rootName then return some (.node TypeTree.root)
    else if name = versionName then return some (.text versionText)
    else return none
  | .storage => do
    let storage := (← view (·.environment id)).storage
    let value ← hookedGet call { environment := some id, held } storage (.text name)
    return if value.isNil then none else some value
  | .coreFunctions =>
    match CoreFunction.ofLabel? name with
    | some function => do return some (← coreValue owner id function)
    | none => return none
  | .systemLibraries =>
    match Library.ofLabel? name with
    | some library => do return some (← libraryValue owner library)
    | none => return none
  | .host _ _ reply => answerOfHost call held (reply id name)

/-- The first answer in an environment of sources of `owner`, in order. -/
def resolve (call : Caller) (held : List Reference) (owner id : EnvironmentId) (name : String) :
    List Source → Action (Option Value)
  | [] => return none
  | source :: rest => do
    match ← answer call held owner id name source with
    | some value => return some value
    | none => resolve call held owner id name rest

/-- The value of a global, `nil` where no source answers. -/
def getGlobal (call : Caller) (held : List Reference) (id : EnvironmentId) (name : String) :
    Action Value := do
  let sources := (← view (·.environment id)).sources
  return (← resolve call held id id name sources).getD .nil

end Environment

end ScriptHost
