import ScriptHost.Environment.Charging
import ScriptHost.Environment.Lookup
import ScriptHost.Host.Members

/-!
# Members of values

Indexing, member assignment and method calls look at what the object is. Tables are
read with their hooks and written raw; every other object is indexed by names only.
-/

namespace ScriptHost

open ScriptHost.Action

/-- Call a value. -/
def Value.apply (call : Caller) (context : Context) (callee : Value) (arguments : List Value) :
    Action (List Value) :=
  match callee with
  | .reference (.function function) => call context function arguments
  | _ => fault (.notCallable callee.kind)

/-- The member name that a key stands for. -/
def keyName (object key : Value) : Action String :=
  match key with
  | .text name => pure name
  | _ => fault (.memberKey object.kind key.kind)

/-- Read a member. -/
def Value.index (call : Caller) (context : Context) (object key : Value) : Action Value :=
  match object with
  | .reference (.table id) => hookedGet call context id key
  | .reference (.node id) => do id.readMember call context (← keyName object key) false
  | .reference (.object id) => do
    return (← id.readMember? call context (← keyName object key) false).getD .nil
  | .reference (.environment id) => do
    Environment.getGlobal call context.holds id (← keyName object key)
  | _ => fault (.notIndexable object.kind)

/-- Write a member. Table writes are charged to an environment. `held` is what the code that
writes holds. -/
def Value.store (call : Caller) (held : List Reference) (environment : EnvironmentId)
    (object key value : Value) : Action Unit :=
  match object with
  | .reference (.table id) => Environment.storeInTable environment id key value
  | .reference (.node id) => do
    id.writeMember call { held } (← keyName object key) value false
  | .reference (.object id) => do
    let name ← keyName object key
    if ← id.writeMember call { held } name value then return ()
    else
      let typeName ← view fun world => (world.object id).typeName world
      fault (.noSettableMember (.object typeName) name)
  | .reference (.environment id) => do
    Environment.setGlobal id (← keyName object key) value
  | _ => fault (.notIndexable object.kind)

/-- Call a method. Host values select it by name; to any other object it is a member that
takes the object first. -/
def Value.applyMethod (call : Caller) (context : Context) (object : Value) (name : String)
    (arguments : List Value) : Action (List Value) :=
  match object with
  | .reference (.node id) => id.callMember call context name arguments false
  | .reference (.object id) => do
    match ← id.callMember? call context name arguments false with
    | some results => return results
    | none =>
      match ← id.readMember? call (context.keep arguments) name false with
      | some (.reference (.function function)) => call context function arguments
      | _ =>
        let typeName ← view fun world => (world.object id).typeName world
        fault (.noCallableMember (.object typeName) name)
  | _ => do
    let method ← Value.index call (context.keep (object :: arguments)) object (.text name)
    Value.apply call context method (object :: arguments)

end ScriptHost
