import ScriptHost.Host.Code

/-!
# Host types

A host type has static members and constructors, declared in order. A member is a
field, which has a getter and can have a setter, or a group of overloads. A later declaration of a
name replaces a field, and adds to a group if it is a method. A call takes the
earliest overload with the right number of parameters, else the earliest one that
takes any number.
-/

namespace ScriptHost

/-- One overload. Without a parameter count it takes any number of arguments. -/
structure Overload where
  arity : Option Nat
  routine : Routine

/-- A static member. A field without a setter is read-only. -/
inductive Member where
  | field (getter : Getter) (setter : Option Setter)
  | methods (overloads : List Overload)

/-- The identity of a host type: its place in declaration order. -/
structure HostTypeId where
  index : Nat
deriving DecidableEq, Repr, Inhabited

/-- A host type. -/
structure HostType where
  fullName : String
  members : List (String × Member) := []
  constructors : List Overload := []

instance : Inhabited HostType := ⟨⟨"", [], []⟩⟩

/-- Overloads under one label. -/
structure MethodGroup where
  label : String
  overloads : List Overload

/-- One declaration in a host type. -/
inductive Declaration where
  | field (name : String) (getter : Getter)
  | property (name : String) (getter : Getter) (setter : Setter)
  | method (name : String) (overload : Overload)
  | constructor (overload : Overload)

/-- The member of a name. -/
def findMember (name : String) : List (String × Member) → Option Member
  | [] => none
  | (other, member) :: rest => if other = name then some member else findMember name rest

/-- Members with one under a name, in the old place if the name has one. -/
def putMember (name : String) (member : Member) : List (String × Member) → List (String × Member)
  | [] => [(name, member)]
  | (other, old) :: rest =>
    if other = name then (name, member) :: rest else (other, old) :: putMember name member rest

/-- Whether two texts are equal up to the case of ASCII letters. -/
def sameFolded (left right : String) : Bool := foldAscii left == foldAscii right

/-- Whether two names match, with the case of ASCII letters counting or not. -/
def sameName (ignoreCase : Bool) (left right : String) : Bool :=
  if ignoreCase then sameFolded left right else left == right

/-- The overload that takes a number of arguments. -/
def MethodGroup.select (group : MethodGroup) (count : Nat) : Option Overload :=
  match group.overloads.find? (·.arity == some count) with
  | some overload => some overload
  | none => group.overloads.find? (·.arity.isNone)

namespace HostType

/-- A host type with one more declaration. -/
def declare (type : HostType) : Declaration → HostType
  | .field name getter =>
    { type with members := putMember name (.field getter none) type.members }
  | .property name getter setter =>
    { type with members := putMember name (.field getter (some setter)) type.members }
  | .method name overload =>
    let member :=
      match findMember name type.members with
      | some (.methods overloads) => Member.methods (overloads ++ [overload])
      | _ => Member.methods [overload]
    { type with members := putMember name member type.members }
  | .constructor overload => { type with constructors := type.constructors ++ [overload] }

/-- The host type of declarations in order. -/
def build (fullName : String) (declarations : List Declaration) : HostType :=
  declarations.foldl declare { fullName }

/-- The last segment of the full name. -/
def shortName (type : HostType) : String :=
  String.ofList (type.fullName.toList.reverse.takeWhile fun character =>
    character != '.' && character != '+').reverse

/-- The member of a name: an exact match first, then one up to case if that is asked for. -/
def find? (type : HostType) (name : String) (ignoreCase : Bool) : Option (String × Member) :=
  match findMember name type.members with
  | some member => some (name, member)
  | none => if ignoreCase then type.members.find? fun entry => sameFolded entry.1 name else none

/-- The names of the members in order. -/
def memberNames (type : HostType) : List String := (type.members.map (·.1)).mergeSort (· ≤ ·)

/-- The group of overloads of a method. -/
def group (type : HostType) (name : String) (overloads : List Overload) : MethodGroup :=
  ⟨type.fullName ++ "." ++ name, overloads⟩

/-- The member name that stands for the constructors. -/
def constructorName : String := "construct"

/-- The constructors, if there are any. -/
def constructorGroup? (type : HostType) : Option MethodGroup :=
  if type.constructors.isEmpty then none else some (type.group constructorName type.constructors)

end HostType

/-- The host types registered under their full names. Every change of the set counts one, in a
64-bit word. -/
structure Registry where
  types : List (String × HostTypeId) := []
  stamp : UInt64 := 0
deriving DecidableEq

namespace Registry

/-- The version of the set of types. -/
def version (registry : Registry) : Nat := registry.stamp.toNat

/-- The type registered under a full name. -/
def find? (registry : Registry) (fullName : String) : Option HostTypeId :=
  (registry.types.find? (·.1 == fullName)).map (·.2)

/-- The registry with a type under a full name. -/
def register (registry : Registry) (fullName : String) (type : HostTypeId) : Registry :=
  ⟨registry.types.filter (·.1 != fullName) ++ [(fullName, type)], registry.stamp + 1⟩

/-- The registry without a full name. Nothing changes where it is not registered. -/
def unregister (registry : Registry) (fullName : String) : Registry :=
  match registry.find? fullName with
  | some _ => ⟨registry.types.filter (·.1 != fullName), registry.stamp + 1⟩
  | none => registry

end Registry

end ScriptHost
