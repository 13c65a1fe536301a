import Mathlib.Logic.Relation
import ScriptHost.Evaluation.Chunk

/-!
# What things refer to

Things with an identity refer to one another: a table to its keys, its values and its hook,
an environment to its storage, to what its sources and its compiler have and to what it has made, a
function to its home and to what its host code brings in, a library object to the functions
that it has handed out. Packages and the nodes of the type tree refer to what is declared in host
types. What a thing reaches it refers to, directly or through others.
-/

namespace ScriptHost

/-! ## Code of the host -/

/-- The values that an operation of the host is about. -/
def HostOperation.values : HostOperation → List Value
  | .display value => [value]
  | .makeTable => []
  | .get table key => [.table table, key]
  | .set table key value => [.table table, key, value]
  | .entries table | .length table => [.table table]
  | .remembered key => [key]
  | .remember key value => [key, value]
  | .index environment object key => environment.toList.map .environment ++ [object, key]
  | .store environment object key value => [.environment environment, object, key, value]
  | .call environment callee arguments =>
    environment.toList.map .environment ++ callee :: arguments
  | .method environment object _ arguments =>
    environment.toList.map .environment ++ object :: arguments

/-- A reply shows the values it is made of. -/
def HostReply.Shows : HostReply → Reference → Prop
  | .ok values, target => .reference target ∈ values
  | .error _, _ => False

/-- What code of the host brings in: it names it in an operation or gives it, although no reply on
the way there has shown it. -/
inductive HostCode.Refers {Result : Type} (gives : Result → Reference → Prop) :
    HostCode Result → Reference → Prop where
  | result {result : Result} {target : Reference} (given : gives result target) :
    Refers gives (.done result) target
  | operation {operation : HostOperation} {next : HostReply → HostCode Result}
    {target : Reference} (named : .reference target ∈ operation.values) :
    Refers gives (.step operation next) target
  | later {operation : HostOperation} {next : HostReply → HostCode Result} {reply : HostReply}
    {target : Reference} (unseen : ¬reply.Shows target) (refers : (next reply).Refers gives target) :
    Refers gives (.step operation next) target

/-- What a routine brings in besides its arguments. -/
def Routine.Refers (routine : Routine) (target : Reference) : Prop :=
  ∃ arguments, .reference target ∉ arguments ∧ (routine arguments).Refers HostReply.Shows target

/-- What the overloads of a group bring in besides their arguments. -/
def MethodGroup.Refers (group : MethodGroup) (target : Reference) : Prop :=
  ∃ overload ∈ group.overloads, overload.routine.Refers target

/-- Code that answers a name as a routine. -/
def HostCode.answering (code : HostCode (Except Failure (Option Value))) : Routine := fun _ =>
  code.bind fun answer => .done (answer.map Option.toList)

/-- What the members and constructors of a host type bring in. -/
inductive HostType.Refers (type : HostType) : Reference → Prop where
  | getter {name : String} {getter : Getter} {setter : Option Setter} {target : Reference}
    (member : (name, .field getter setter) ∈ type.members)
    (refers : getter.routine.Refers target) : Refers type target
  | setter {name : String} {getter : Getter} {setter : Setter} {target : Reference}
    (member : (name, .field getter (some setter)) ∈ type.members)
    (refers : setter.routine.Refers target) : Refers type target
  | method {name : String} {overloads : List Overload} {overload : Overload} {target : Reference}
    (member : (name, .methods overloads) ∈ type.members) (among : overload ∈ overloads)
    (refers : overload.routine.Refers target) : Refers type target
  | constructor {overload : Overload} {target : Reference} (among : overload ∈ type.constructors)
    (refers : overload.routine.Refers target) : Refers type target

/-- What a compiler of the host puts into code. -/
def Compiler.Refers : Compiler → Reference → Prop
  | .script, _ => False
  | .host compile, target =>
    ∃ name source count routine, compile name source count = .ok routine ∧ routine.Refers target

/-- What the code of a chunk brings in. -/
def Code.Refers : Code → Reference → Prop
  | .script _ _, _ => False
  | .host routine, target => routine.Refers target

/-! ## Things with an identity -/

/-- What a table has as keys, as values and as its hook. -/
inductive Table.Refers (table : Table) : Reference → Prop where
  | key {target : Reference} {value : Value} (entry : (.reference target, value) ∈ table.entries) :
    Refers table target
  | value {key : Key} {target : Reference} (entry : (key, .reference target) ∈ table.entries) :
    Refers table target
  | hook {target : Reference} (hook : table.hook = some (.reference target)) : Refers table target

/-- What the body of a function brings in besides the environment and the arguments of a call. -/
def FunctionBody.Refers : FunctionBody → Reference → Prop
  | .builtin _, _ => False
  | .closure code, target =>
    ∃ environment : Option EnvironmentId, (∀ id ∈ environment, target ≠ .environment id) ∧
      (code environment).Refers target
  | .methods group, target => group.Refers target

/-- What a function has as its home and brings in. -/
inductive Callable.Refers (function : Callable) : Reference → Prop where
  | home {id : EnvironmentId} (home : function.home = some id) : Refers function (.environment id)
  | body {target : Reference} (refers : function.body.Refers target) : Refers function target

/-- What a source of the host keeps, and what its replies bring in besides the environment that
they are for. -/
inductive Source.Refers : Source → Reference → Prop where
  | kept {label : String} {kept : List Value} {reply : Reply} {target : Reference}
    (member : .reference target ∈ kept) : Refers (.host label kept reply) target
  | answer {label : String} {kept : List Value} {reply : Reply} {environment : EnvironmentId}
    {name : String} {target : Reference} (unseen : target ≠ .environment environment)
    (refers : (reply environment name).answering.Refers target) :
    Refers (.host label kept reply) target

/-- What an environment has: its storage, what its sources and its compiler have, and what it has
made. -/
inductive Environment.Refers (environment : Environment) : Reference → Prop where
  | storage : Refers environment (.table environment.storage)
  | source {source : Source} {target : Reference} (member : source ∈ environment.sources)
    (refers : source.Refers target) : Refers environment target
  | compiler {target : Reference} (refers : environment.compiler.Refers target) :
    Refers environment target
  | core {function : CoreFunction} {made : FunctionId}
    (member : (function, made) ∈ environment.coreMade) : Refers environment (.function made)
  | library {library : Library} {made : ObjectId}
    (member : (library, made) ∈ environment.librariesMade) : Refers environment (.object made)

/-- What a host object has: the functions that a library has handed out, or what the host type of a
package has. -/
inductive HostObject.Refers (world : World) : HostObject → Reference → Prop where
  | member {library : Library} {made : List (LibraryFunction × FunctionId)}
    {function : LibraryFunction} {id : FunctionId} (member : (function, id) ∈ made) :
    Refers world (.library library made) (.function id)
  | package {type : HostTypeId} {target : Reference}
    (refers : (world.hostType type).Refers target) : Refers world (.package type) target

namespace World

/-- What a thing refers to. From a node of the type tree every host type can be found. -/
inductive Leads (world : World) : Reference → Reference → Prop where
  | table {id : TableId} {target : Reference} (refers : (world.table id).Refers target) :
    Leads world (.table id) target
  | function {id : FunctionId} {target : Reference} (refers : (world.function id).Refers target) :
    Leads world (.function id) target
  | object {id : ObjectId} {target : Reference} (refers : (world.object id).Refers world target) :
    Leads world (.object id) target
  | node {id : NodeId} {type : HostTypeId} {target : Reference}
    (refers : (world.hostType type).Refers target) : Leads world (.node id) target
  | environment {id : EnvironmentId} {target : Reference}
    (refers : (world.environment id).Refers target) : Leads world (.environment id) target

/-- What a thing leads to in any number of steps. -/
abbrev Reaches (world : World) : Reference → Reference → Prop := Relation.ReflTransGen world.Leads

/-- What things lead to stays among them if each of them leads to one of them only. -/
theorem reaches_among {world : World} {among : Reference → Prop}
    (closed : ∀ source target, among source → world.Leads source target → among target)
    {source target : Reference} (start : among source) (reaches : world.Reaches source target) :
    among target := by
  induction reaches with
  | refl => exact start
  | tail _ leads ih => exact closed _ _ ih leads

/-- A table, a function or an object is there. -/
def Stands (world : World) : Reference → Prop
  | .table id => id.index < world.tables.size
  | .function id => id.index < world.functions.size
  | .object id => id.index < world.objects.size
  | .node _ | .environment _ => True

/-- Whatever the storage of an environment reaches is there. The next new thing takes an identity
that nothing has yet, so no identity is reached before the thing that it is for. -/
def Settled (world : World) (id : EnvironmentId) : Prop :=
  ∀ target, world.Reaches (.table (world.environment id).storage) target → world.Stands target

/-- A thing belongs to an environment if it is that environment, a table that its storage reaches,
or a function at home there. -/
inductive Belongs (world : World) (id : EnvironmentId) : Reference → Prop where
  | itself : Belongs world id (.environment id)
  | table {table : TableId}
    (reached : world.Reaches (.table (world.environment id).storage) (.table table)) :
    Belongs world id (.table table)
  | function {function : FunctionId} (home : (world.function function).home = some id) :
    Belongs world id (.function function)

/-- A thing reaches nothing that belongs to an environment. -/
def Clear (world : World) (id : EnvironmentId) (source : Reference) : Prop :=
  ∀ target, world.Reaches source target → ¬world.Belongs id target

/-- Some things reach nothing that belongs to an environment, and neither do the members of host
types and what code of the host remembers. -/
structure Apart (world : World) (roots : Reference → Prop) (id : EnvironmentId) : Prop where
  roots : ∀ root, roots root → world.Clear id root
  types : ∀ (type : HostTypeId) root, (world.hostType type).Refers root → world.Clear id root
  memory : ∀ root, world.memory.Refers root → world.Clear id root

end World

end ScriptHost
