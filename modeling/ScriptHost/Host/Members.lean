import ScriptHost.Library.Math
import ScriptHost.Library.Text

/-!
# Members of host values

Reading a member of a type gives the value of a field, which its getter computes, or a
function of its overloads. A node of the type tree that is no type, or whose type lacks
the member, gives its child instead. Invoking a member by a method call runs its overloads
without making a function of them.
-/

namespace ScriptHost

open ScriptHost.Binary ScriptHost.Action

/-- What a member name of a host type is bound to. -/
inductive Bound where
  | value (content : Value)
  | methods (group : MethodGroup)

/-- The value of a field. -/
def Getter.read (call : Caller) (context : Context) (getter : Getter) : Action Value := do
  return (← call context getter.routine.callee []).headD .nil

/-- What a member name of a host type is bound to, absent where there is no member. Binding a
field reads it. -/
def HostType.bind? (call : Caller) (context : Context) (type : HostType) (name : String)
    (ignoreCase : Bool) : Action (Option Bound) :=
  match type.find? name ignoreCase with
  | some (_, .field getter _) => do return some (.value (← getter.read call context))
  | some (key, .methods overloads) => return some (.methods (type.group key overloads))
  | none => return none

/-- The group that a method call on a host type runs, absent where the name is no method. -/
def HostType.methodGroup? (call : Caller) (context : Context) (type : HostType) (name : String)
    (ignoreCase : Bool) : Action (Option MethodGroup) :=
  if name = HostType.constructorName then return type.constructorGroup?
  else do
    match ← type.bind? call context name ignoreCase with
    | some (.methods group) => return some group
    | _ => return none

/-- The value of what a member is bound to. Overloads become a new function. -/
def Bound.toValue : Bound → Action Value
  | .value content => return content
  | .methods group => do
    return .function (← newFunction { name := group.label, body := .methods group })

/-- Assign to a field of a host type, telling whether there is one of the name. The setter of the
field decides what becomes of the value. -/
def HostType.assign (call : Caller) (context : Context) (type : HostType) (name : String)
    (value : Value) (ignoreCase : Bool) : Action Bool :=
  match type.find? name ignoreCase with
  | some (_, .field _ (some setter)) => do
    let _ ← call context setter.routine.callee [value]
    return true
  | some (key, .field _ none) => fault (.readOnlyField type.fullName key)
  | _ => return false

namespace NodeId

/-- The type of a node, looked up if it is not known yet. -/
def knownType (id : NodeId) : Action (Option HostTypeId) := do
  let world ← get
  let (type, tree) := world.tree.resolve world.registry id
  set { world with tree }
  return type

/-- The child of a node, made if there is none, with its position. -/
def child (id : NodeId) (name : String) (ignoreCase : Bool) : Action (NodeId × Nat) := do
  let world ← get
  let (found, tree) := world.tree.visit world.registry id name ignoreCase
  set { world with tree }
  return found

/-- The type of a node that must be one. -/
def requiredType (id : NodeId) : Action HostTypeId := do
  match ← id.knownType with
  | some type => return type
  | none => fault (.unresolvedType (← view (·.tree.fullName id)))

/-- The value of what a name is bound to, or the child of the name where it is bound to nothing. -/
def boundOrChild (id : NodeId) (name : String) (ignoreCase : Bool) : Option Bound → Action Value
  | some bound => bound.toValue
  | none => do return .node (← id.child name ignoreCase).1

/-- A member of the node's type if it has one, otherwise the child of the name. -/
def readMember (call : Caller) (context : Context) (id : NodeId) (name : String)
    (ignoreCase : Bool) : Action Value := do
  let bound ←
    match ← id.knownType with
    | some type => do
      let type ← view (·.hostType type)
      type.bind? call context name ignoreCase
    | none => pure none
  id.boundOrChild name ignoreCase bound

/-- Assign to a field of the node's type. -/
def writeMember (call : Caller) (context : Context) (id : NodeId) (name : String) (value : Value)
    (ignoreCase : Bool) : Action Unit := do
  let type ← id.requiredType
  let type ← view (·.hostType type)
  if ← type.assign call context name value ignoreCase then return ()
  else fault (.noSettableMember (.type type.fullName) name)

/-- Call a member of the node's type: its overloads, or whatever function reading the member
gives. -/
def callMember (call : Caller) (context : Context) (id : NodeId) (name : String)
    (arguments : List Value) (ignoreCase : Bool) : Action (List Value) := do
  let type ← id.requiredType
  let type ← view (·.hostType type)
  let busy := context.keep arguments
  match ← type.methodGroup? call busy name ignoreCase with
  | some group => call context (.body (.methods group)) arguments
  | none =>
    match ← id.readMember call busy name ignoreCase with
    | .reference (.function function) => call context function arguments
    | _ => fault (.noCallableMember (.type type.fullName) name)

end NodeId

/-- Run a library function. -/
def LibraryFunction.run (context : Context) (arguments : List Value) :
    LibraryFunction → Action (List Value)
  | .abs => Math.abs arguments
  | .ceil => Math.ceil arguments
  | .floor => Math.floor arguments
  | .max => Math.max arguments
  | .min => Math.min arguments
  | .sqrt => Math.sqrt arguments
  | .len => TextLibrary.len arguments
  | .lower => TextLibrary.lower arguments
  | .rep => TextLibrary.rep context arguments
  | .sub => TextLibrary.sub arguments
  | .upper => TextLibrary.upper arguments

namespace Library

/-- The constant of a name. -/
def constant? (library : Library) (name : String) (ignoreCase : Bool) : Option Value :=
  (library.constants.find? fun entry => sameName ignoreCase entry.1 name).map (·.2)

/-- The function of a name. -/
def function? (library : Library) (name : String) (ignoreCase : Bool) : Option LibraryFunction :=
  library.functions.find? fun function => sameName ignoreCase function.label name

end Library

namespace ObjectId

/-- The function value of a library function, made at its first use. -/
def libraryMember (id : ObjectId) (library : Library) (made : List (LibraryFunction × FunctionId))
    (function : LibraryFunction) : Action Value := do
  match made.lookup function with
  | some known => return .function known
  | none =>
    let fresh ← newFunction (Builtin.library function).callable
    modify fun world =>
      { world with
        objects := world.objects.setIfInBounds id.index
          (.library library (made ++ [(function, fresh)])) }
    return .function fresh

/-- A member of a host object, absent where it has none of the name. -/
def readMember? (call : Caller) (context : Context) (id : ObjectId) (name : String)
    (ignoreCase : Bool) : Action (Option Value) := do
  match ← view (·.object id) with
  | .handle _ _ => return none
  | .library library made =>
    match library.constant? name ignoreCase, library.function? name ignoreCase with
    | some value, _ => return some value
    | none, some function => return some (← id.libraryMember library made function)
    | none, none => return none
  | .package type =>
    let type ← view (·.hostType type)
    match ← type.bind? call context name ignoreCase with
    | some bound => return some (← bound.toValue)
    | none => return none

/-- Assign to a member of a host object, telling whether it has a settable one of the name. -/
def writeMember (call : Caller) (context : Context) (id : ObjectId) (name : String)
    (value : Value) : Action Bool := do
  match ← view (·.object id) with
  | .package type =>
    let type ← view (·.hostType type)
    type.assign call context name value false
  | _ => return false

/-- Call a member of a host object, absent where it has no method of the name. -/
def callMember? (call : Caller) (context : Context) (id : ObjectId) (name : String)
    (arguments : List Value) (ignoreCase : Bool) : Action (Option (List Value)) := do
  match ← view (·.object id) with
  | .handle _ _ => return none
  | .library library _ =>
    match library.function? name ignoreCase with
    | some function => return some (← function.run context arguments)
    | none => return none
  | .package type =>
    let type ← view (·.hostType type)
    match ← type.methodGroup? call (context.keep arguments) name ignoreCase with
    | some group => return some (← call context (.body (.methods group)) arguments)
    | none => return none

end ObjectId

end ScriptHost
