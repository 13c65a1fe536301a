import ScriptHost.Text.Quoted
import ScriptHost.World.State

/-!
# Texts of values

Every value has a display text, which printing and concatenated messages use, and a
description, which names its kind. A table is shown by an address that no other
table has.
-/

namespace ScriptHost

namespace HostObject

/-- The type name of a host object. -/
def typeName (world : World) : HostObject → String
  | .handle typeName _ => typeName
  | .library name _ => name.label
  | .package type => (world.hostType type).fullName

/-- The display text of a host object. -/
def display (world : World) : HostObject → String
  | .handle typeName _ => "userdata: " ++ typeName
  | .library name _ => "library: " ++ name.label
  | .package type => "package: " ++ (world.hostType type).fullName

/-- The length that a host object reports. -/
def length? : HostObject → Option Nat
  | .handle _ length => length
  | .library name _ => some (name.functions.length + name.constants.length)
  | .package _ => none

end HostObject

/-- The address that a table is shown by. -/
def TableId.address (id : TableId) : String :=
  "0x" ++ String.ofList (Text.hexadecimal (0x560000000000 + 64 * id.index))

namespace World

/-- The display text of a value. -/
def display (world : World) (value : Value) : String :=
  match value with
  | .nil => "nil"
  | .boolean content => if content then "true" else "false"
  | .text content => content
  | .reference (.table id) => "table: " ++ id.address
  | .reference (.function id) => "function: " ++ (world.function id).name
  | .reference (.node id) => world.tree.display id
  | .reference (.object id) => (world.object id).display world
  | .reference (.environment _) => "global"
  | _ => value.numberText?.getD ""

/-- The description of a value. -/
def describe (world : World) (value : Value) : String :=
  let content :=
    match value with
    | .nil | .reference (.environment _) => ""
    | .text content => "(" ++ Text.quotedString content ++ ")"
    | .reference (.table _) => "(...)"
    | .reference (.function id) => "(" ++ (world.function id).name ++ ")"
    | .reference (.object id) => "(" ++ (world.object id).typeName world ++ ")"
    | _ => "(" ++ world.display value ++ ")"
  "Value::" ++ value.kind.label ++ content

/-- The description of a node of the type tree. -/
def describeNode (world : World) (id : NodeId) : String :=
  "ProxyNode \x7b id: NodeId(" ++ toString id.index ++ "), full_name: "
    ++ Text.quotedString (world.tree.fullName id) ++ " \x7d"

end World

/-- The description of a host type. -/
def HostType.describe (type : HostType) : String :=
  "HostType \x7b full_name: " ++ Text.quotedString type.fullName ++ ", members: ["
    ++ ", ".intercalate (type.memberNames.map Text.quotedString) ++ "], constructors: "
    ++ toString type.constructors.length ++ " \x7d"

end ScriptHost
