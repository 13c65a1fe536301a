import ScriptHost.Binary.Integral

/-!
# Values

A value is a scalar with its content or a reference to something that has an
identity. The eight integer kinds are kept apart from each other and from the two
binary formats: scripts write only two of the ten numeric kinds, hosts hand over all
of them.
-/

namespace ScriptHost

open ScriptHost.Binary

/-- The kinds of integers. -/
inductive IntKind where
  | byte | sbyte | int16 | uint16 | integer | uint32 | int64 | uint64
deriving DecidableEq, Repr

namespace IntKind

/-- The smallest integer of a kind. -/
def low : IntKind → Int
  | .byte | .uint16 | .uint32 | .uint64 => 0
  | .sbyte => -0x80
  | .int16 => -0x8000
  | .integer => -0x80000000
  | .int64 => -0x8000000000000000

/-- The largest integer of a kind. -/
def high : IntKind → Int
  | .byte => 0xFF
  | .sbyte => 0x7F
  | .int16 => 0x7FFF
  | .uint16 => 0xFFFF
  | .integer => 0x7FFFFFFF
  | .uint32 => 0xFFFFFFFF
  | .int64 => 0x7FFFFFFFFFFFFFFF
  | .uint64 => 0xFFFFFFFFFFFFFFFF

end IntKind

/-- An integer of a kind. -/
structure Ranged (kind : IntKind) where
  value : Int
  low_le : kind.low ≤ value
  le_high : value ≤ kind.high
deriving DecidableEq

/-- The integer of a kind, if it has it. -/
def Ranged.ofInt? (kind : IntKind) (value : Int) : Option (Ranged kind) :=
  if h : kind.low ≤ value ∧ value ≤ kind.high then some ⟨value, h.1, h.2⟩ else none

/-- The identity of a table. -/
structure TableId where
  index : Nat
deriving DecidableEq, Repr, Inhabited

/-- The identity of a function. -/
structure FunctionId where
  index : Nat
deriving DecidableEq, Repr, Inhabited

/-- The identity of a node of the type tree: its place in creation order. -/
structure NodeId where
  index : Nat
deriving DecidableEq, Repr, Inhabited

/-- The identity of a host object. -/
structure ObjectId where
  index : Nat
deriving DecidableEq, Repr, Inhabited

/-- The identity of an environment. -/
structure EnvironmentId where
  index : Nat
deriving DecidableEq, Repr, Inhabited

/-- What a value can refer to. -/
inductive Reference where
  | table (id : TableId)
  | function (id : FunctionId)
  | node (id : NodeId)
  | object (id : ObjectId)
  | environment (id : EnvironmentId)
deriving DecidableEq, Repr

/-- The values of scripts. -/
inductive Value where
  | nil
  | boolean (content : Bool)
  | int (kind : IntKind) (content : Ranged kind)
  | single (content : Single)
  | number (content : Double)
  | text (content : String)
  | reference (target : Reference)
deriving DecidableEq

instance : Inhabited Value := ⟨.nil⟩

/-- The kinds of values. -/
inductive Kind where
  | nil | boolean
  | int (kind : IntKind)
  | single | number | string | table | function | typeNode | hostObject | environment
deriving DecidableEq, Repr

namespace Kind

/-- The name of a kind. -/
def label : Kind → String
  | .nil => "Nil"
  | .boolean => "Boolean"
  | .int .byte => "Byte"
  | .int .sbyte => "SByte"
  | .int .int16 => "Int16"
  | .int .uint16 => "UInt16"
  | .int .integer => "Integer"
  | .int .uint32 => "UInt32"
  | .int .int64 => "Int64"
  | .int .uint64 => "UInt64"
  | .single => "Single"
  | .number => "Number"
  | .string => "String"
  | .table => "Table"
  | .function => "Function"
  | .typeNode => "TypeNode"
  | .hostObject => "HostObject"
  | .environment => "Environment"

/-- Every kind. -/
def all : List Kind :=
  [.nil, .boolean, .int .byte, .int .sbyte, .int .int16, .int .uint16, .int .integer,
    .int .uint32, .int .int64, .int .uint64, .single, .number, .string, .table, .function,
    .typeNode, .hostObject, .environment]

/-- The kind with a given name. -/
def ofLabel? (label : String) : Option Kind := all.find? (·.label == label)

/-- Whether values of a kind are compared by content. -/
def isByContent : Kind → Bool
  | .table | .function | .typeNode | .hostObject | .environment => false
  | _ => true

/-- Whether values of a kind are numbers. -/
def isNumeric : Kind → Bool
  | .int _ | .single | .number => true
  | _ => false

/-- The type that scripts see. Only the numbers that scripts write are numbers to them. -/
def typeName : Kind → String
  | .nil => "nil"
  | .boolean => "bool"
  | .string => "string"
  | .table => "table"
  | .function => "function"
  | .int .integer | .number => "number"
  | _ => "userdata"

end Kind

namespace Value

/-- A table. -/
abbrev table (id : TableId) : Value := .reference (.table id)

/-- A function. -/
abbrev function (id : FunctionId) : Value := .reference (.function id)

/-- A node of the type tree. -/
abbrev node (id : NodeId) : Value := .reference (.node id)

/-- A host object. -/
abbrev object (id : ObjectId) : Value := .reference (.object id)

/-- An environment. -/
abbrev environment (id : EnvironmentId) : Value := .reference (.environment id)

/-- The kind of a value. -/
def kind : Value → Kind
  | .nil => .nil
  | .boolean _ => .boolean
  | .int kind _ => .int kind
  | .single _ => .single
  | .number _ => .number
  | .text _ => .string
  | .reference (.table _) => .table
  | .reference (.function _) => .function
  | .reference (.node _) => .typeNode
  | .reference (.object _) => .hostObject
  | .reference (.environment _) => .environment

/-- The type that scripts see. -/
def typeName (value : Value) : String := value.kind.typeName

/-- Whether a value is absent. -/
def isNil : Value → Bool
  | .nil => true
  | _ => false

/-- Whether a value counts as true. Only `nil` and `false` do not. -/
def isTruthy : Value → Bool
  | .nil | .boolean false => false
  | _ => true

/-- The nearest double of a number. -/
def toDouble? : Value → Option Double
  | .int _ content => some (Datum.ofInt content.value)
  | .single content => some (content.convert .double)
  | .number content => some content
  | _ => none

/-- The integer that a number without a fraction stands for. -/
def toInt64? : Value → Option Int64
  | .int _ content =>
    if smallestInt64 ≤ content.value && content.value ≤ largestInt64 then
      some (Int64.ofInt content.value)
    else none
  | .single content => (content.convert .double).toInt64?
  | .number content => content.toInt64?
  | _ => none

/-- The content of a text. -/
def text? : Value → Option String
  | .text content => some content
  | _ => none

/-- An integer in the narrowest kind that scripts use for results. -/
def ofInt64 (value : Int64) : Value :=
  if h : IntKind.integer.low ≤ value.toInt ∧ value.toInt ≤ IntKind.integer.high then
    .int .integer ⟨value.toInt, h.1, h.2⟩
  else
    .int .int64 ⟨value.toInt, value.le_toInt, Int.le_sub_one_of_lt value.toInt_lt⟩

/-- A natural number as a result. -/
def ofNat (value : Nat) : Value := ofInt64 (Int64.ofNat value)

end Value

end ScriptHost
