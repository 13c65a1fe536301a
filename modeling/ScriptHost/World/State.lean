import ScriptHost.Files
import ScriptHost.Heap
import ScriptHost.Host.TypeTree
import ScriptHost.Table

/-!
# The world

Everything with an identity lives in one world: tables, functions, host objects,
environments and host types, each under its place in creation order, together with
the tree of types, the registry behind it, the files and what the host remembers.
Environments share the tree, the registry and what is the host's, and nothing else.
-/

namespace ScriptHost

open ScriptHost.Binary

/-- The built-in functions that are names of their own. -/
inductive CoreFunction where
  | assert | collectgarbage | dofile | error | print | rawequal | rawget | rawlen | rawset
  | select | tonumber | tostring | type
deriving DecidableEq, Repr

namespace CoreFunction

/-- The name of a core function. -/
def label : CoreFunction → String
  | .assert => "assert"
  | .collectgarbage => "collectgarbage"
  | .dofile => "dofile"
  | .error => "error"
  | .print => "print"
  | .rawequal => "rawequal"
  | .rawget => "rawget"
  | .rawlen => "rawlen"
  | .rawset => "rawset"
  | .select => "select"
  | .tonumber => "tonumber"
  | .tostring => "tostring"
  | .type => "type"

/-- The core functions in order of their names. -/
def all : List CoreFunction :=
  [.assert, .collectgarbage, .dofile, .error, .print, .rawequal, .rawget, .rawlen, .rawset,
    .select, .tonumber, .tostring, .type]

/-- The core function of a name. -/
def ofLabel? (label : String) : Option CoreFunction := all.find? (·.label == label)

end CoreFunction

/-- The system libraries. -/
inductive Library where
  | math | string
deriving DecidableEq, Repr

/-- The functions of the system libraries. -/
inductive LibraryFunction where
  | abs | ceil | floor | max | min | sqrt
  | len | lower | rep | sub | upper
deriving DecidableEq, Repr

namespace LibraryFunction

/-- The library of a function. -/
def library : LibraryFunction → Library
  | .abs | .ceil | .floor | .max | .min | .sqrt => .math
  | .len | .lower | .rep | .sub | .upper => .string

/-- The name of a function in its library. -/
def label : LibraryFunction → String
  | .abs => "abs"
  | .ceil => "ceil"
  | .floor => "floor"
  | .max => "max"
  | .min => "min"
  | .sqrt => "sqrt"
  | .len => "len"
  | .lower => "lower"
  | .rep => "rep"
  | .sub => "sub"
  | .upper => "upper"

/-- The library functions in order of their names. -/
def all : List LibraryFunction :=
  [.abs, .ceil, .floor, .max, .min, .sqrt, .len, .lower, .rep, .sub, .upper]

end LibraryFunction

namespace Library

/-- The name of a library. -/
def label : Library → String
  | .math => "math"
  | .string => "string"

/-- The libraries in order of their names. -/
def all : List Library := [.math, .string]

/-- The library of a name. -/
def ofLabel? (label : String) : Option Library := all.find? (·.label == label)

/-- The functions of a library in order of their names. -/
def functions (library : Library) : List LibraryFunction :=
  LibraryFunction.all.filter (·.library = library)

/-- The constants of a library in order of their names. -/
def constants : Library → List (String × Value)
  | .math =>
    [("huge", .number (Datum.infinite false)),
      ("pi", .number (Datum.ofBits .double 0x400921FB54442D18))]
  | .string => []

end Library

/-- A built-in function. -/
inductive Builtin where
  | core (function : CoreFunction)
  | library (function : LibraryFunction)
deriving DecidableEq, Repr

/-- The full name of a built-in function. -/
def Builtin.label : Builtin → String
  | .core function => function.label
  | .library function => function.library.label ++ "." ++ function.label

/-- The built-in function of a full name. -/
def Builtin.ofLabel? (label : String) : Option Builtin :=
  (CoreFunction.all.map Builtin.core ++ LibraryFunction.all.map Builtin.library).find?
    (·.label == label)

/-- What a function does. -/
inductive FunctionBody where
  | builtin (function : Builtin)
  /-- Code of the host, given the environment that it is called in. -/
  | closure (code : Option EnvironmentId → Routine)
  | methods (group : MethodGroup)

/-- A function. One that has a home always runs in that environment. -/
structure Callable where
  name : String
  body : FunctionBody
  home : Option EnvironmentId := none

instance : Inhabited Callable := ⟨⟨"", .methods ⟨"", []⟩, none⟩⟩

/-- A built-in function that has no home. -/
def Builtin.callable (builtin : Builtin) : Callable :=
  { name := builtin.label, body := .builtin builtin }

/-- A host object. -/
inductive HostObject where
  /-- A bare handle. -/
  | handle (label : String) (length : Option Nat)
  /-- A library, with the function values it has handed out. -/
  | library (name : Library) (made : List (LibraryFunction × FunctionId))
  /-- A host type under a global name. -/
  | package (type : HostTypeId)
deriving DecidableEq

instance : Inhabited HostObject := ⟨.handle "" none⟩

/-- Where printed lines go. -/
inductive Sink where
  | capture (text : String)
  | elsewhere
deriving DecidableEq, Repr

/-- How sources become code. -/
inductive Compiler where
  | script
  /-- A compiler of the host: the code that it makes of a chunk's name, its source and the number
  of its parameters. -/
  | host (compile : String → String → Nat → Except Failure Routine)

/-- How a source of the host answers a name in an environment. -/
abbrev Reply : Type := EnvironmentId → String → HostCode (Except Failure (Option Value))

/-- One step of name resolution. -/
inductive Source where
  | reserved
  | storage
  | coreFunctions
  | systemLibraries
  /-- A source of the host: its replies, and the values that it keeps for them. -/
  | host (name : String) (kept : List Value) (reply : Reply)

/-- The name of a source. -/
def Source.label : Source → String
  | .reserved => "reserved"
  | .storage => "storage"
  | .coreFunctions => "core_functions"
  | .systemLibraries => "system_libraries"
  | .host name _ _ => name

/-- The steps that every environment starts with. -/
def standardSources : List Source := [.reserved, .storage, .coreFunctions, .systemLibraries]

/-- An environment. -/
structure Environment where
  storage : TableId
  heap : Heap
  sink : Sink
  compiler : Compiler
  sources : List Source := standardSources
  coreMade : List (CoreFunction × FunctionId) := []
  librariesMade : List (Library × ObjectId) := []
  /-- Whether the host still holds it. -/
  hosted : Bool := true

instance : Inhabited Environment where
  default :=
    { storage := ⟨0⟩
      heap := ⟨none, 0⟩
      sink := .elsewhere
      compiler := .script }

/-- Everything with an identity. -/
structure World where
  tables : Array Table := #[]
  functions : Array Callable := #[]
  objects : Array HostObject := #[]
  environments : Array Environment := #[]
  hostTypes : Array HostType := #[]
  registry : Registry := {}
  tree : TypeTree := .initial
  files : Files := []
  /-- What code of the host keeps from one run to the next. -/
  memory : Table := {}
  /-- Values the host keeps. -/
  held : List Value := []

namespace World

/-- The table of an identity. -/
def table (world : World) (id : TableId) : Table := world.tables[id.index]?.getD default

/-- The function of an identity. -/
def function (world : World) (id : FunctionId) : Callable :=
  world.functions[id.index]?.getD default

/-- The host object of an identity. -/
def object (world : World) (id : ObjectId) : HostObject := world.objects[id.index]?.getD default

/-- The environment of an identity. -/
def environment (world : World) (id : EnvironmentId) : Environment :=
  world.environments[id.index]?.getD default

/-- The host type of an identity. -/
def hostType (world : World) (id : HostTypeId) : HostType :=
  world.hostTypes[id.index]?.getD default

/-- The world with a table changed. -/
def setTable (world : World) (id : TableId) (table : Table) : World :=
  { world with tables := world.tables.setIfInBounds id.index table }

/-- The world with an environment changed. -/
def setEnvironment (world : World) (id : EnvironmentId) (environment : Environment) : World :=
  { world with environments := world.environments.setIfInBounds id.index environment }

end World

end ScriptHost
