import ScriptHost.Proofs.World.Outcome

/-!
# Changes of the world

Whatever scripts and code of the host do to the world they do in a few kinds of changes:
entries written to tables, new tables, function values and library objects made at their
first use, counts of heaps, captured lines, what the host remembers, and what the type
tree learns. No change touches the sources of an environment, the hook of a table, the
body of a function or a host type. Some changes are additions, which alter nothing that
was there.
-/

namespace ScriptHost

open ScriptHost.Action

/-- A table that writes have made of an empty one. -/
inductive Table.Written : Table → Prop where
  | empty : Written {}
  | write {table : Table} (written : Written table) (key : Key) (value : Value) :
    Written (table.write key value)

/-- The function value of a core function in an environment. -/
def CoreFunction.bound (function : CoreFunction) (id : EnvironmentId) : Callable :=
  { name := function.label, body := .builtin (.core function), home := id }

/-- The sink after a line has been printed to it. -/
def Sink.printed (line : String) : Sink → Sink
  | .capture text => .capture (text ++ line ++ "\n")
  | .elsewhere => .elsewhere

namespace World

/-- The world with a core function's value made for an environment. -/
def addCore (world : World) (id : EnvironmentId) (function : CoreFunction) : World :=
  let made : FunctionId := ⟨world.functions.size⟩
  { world with functions := world.functions.push (function.bound id) }.setEnvironment id
    { world.environment id with
      coreMade := (world.environment id).coreMade ++ [(function, made)] }

/-- The world with a library's object made for an environment. -/
def addLibrary (world : World) (id : EnvironmentId) (library : Library) : World :=
  let made : ObjectId := ⟨world.objects.size⟩
  { world with objects := world.objects.push (.library library []) }.setEnvironment id
    { world.environment id with
      librariesMade := (world.environment id).librariesMade ++ [(library, made)] }

/-- The world with a library function's value made for a library object. -/
def addMember (world : World) (id : ObjectId) (library : Library)
    (made : List (LibraryFunction × FunctionId)) (function : LibraryFunction) : World :=
  { world with
    functions := world.functions.push (Builtin.library function).callable
    objects := world.objects.setIfInBounds id.index
      (.library library (made ++ [(function, ⟨world.functions.size⟩)])) }

/-- A change that scripts can make. -/
inductive Change (world : World) : World → Prop where
  | table (table : Table) (written : table.Written) :
    Change world { world with tables := world.tables.push table }
  | entry (id : TableId) (key : Key) (value : Value) :
    Change world (world.setTable id ((world.table id).write key value))
  | methods (group : MethodGroup) :
    Change world { world with
      functions := world.functions.push { name := group.label, body := .methods group } }
  | core (id : EnvironmentId) (function : CoreFunction)
    (missing : (world.environment id).coreMade.lookup function = none) :
    Change world (world.addCore id function)
  | library (id : EnvironmentId) (library : Library)
    (missing : (world.environment id).librariesMade.lookup library = none) :
    Change world (world.addLibrary id library)
  | member (id : ObjectId) (library : Library) (made : List (LibraryFunction × FunctionId))
    (function : LibraryFunction) (known : world.object id = .library library made)
    (missing : made.lookup function = none) :
    Change world (world.addMember id library made function)
  | charge (id : EnvironmentId) (bytes : UInt64) (heap : Heap)
    (granted : (world.environment id).heap.charge? bytes = some heap) :
    Change world (world.setEnvironment id { world.environment id with heap })
  | refund (id : EnvironmentId) (bytes : UInt64) :
    Change world (world.setEnvironment id
      { world.environment id with heap := (world.environment id).heap.refund bytes })
  | collect (id : EnvironmentId) :
    Change world (world.setEnvironment id
      { world.environment id with
        heap := (world.environment id).heap.reset
          (UInt64.ofNat (world.measure (world.environment id).storage)) })
  | line (id : EnvironmentId) (line : String) :
    Change world (world.setEnvironment id
      { world.environment id with sink := (world.environment id).sink.printed line })
  | memory (key : Key) (value : Value) :
    Change world { world with memory := world.memory.write key value }
  | resolve (id : NodeId) :
    Change world { world with tree := (world.tree.resolve world.registry id).2 }
  | visit (id : NodeId) (name : String) (ignoreCase : Bool) :
    Change world { world with tree := (world.tree.visit world.registry id name ignoreCase).2 }

/-- Worlds that changes lead to. -/
abbrev Later : World → World → Prop := Relation.ReflTransGen Change

/-- A change that adds something to the world, or has it remember an answer, and alters nothing. -/
inductive Addition (world : World) : World → Prop where
  | table (table : Table) (written : table.Written) :
    Addition world { world with tables := world.tables.push table }
  | methods (group : MethodGroup) :
    Addition world { world with
      functions := world.functions.push { name := group.label, body := .methods group } }
  | core (id : EnvironmentId) (function : CoreFunction)
    (missing : (world.environment id).coreMade.lookup function = none) :
    Addition world (world.addCore id function)
  | library (id : EnvironmentId) (library : Library)
    (missing : (world.environment id).librariesMade.lookup library = none) :
    Addition world (world.addLibrary id library)
  | member (id : ObjectId) (library : Library) (made : List (LibraryFunction × FunctionId))
    (function : LibraryFunction) (known : world.object id = .library library made)
    (missing : made.lookup function = none) :
    Addition world (world.addMember id library made function)
  | resolve (id : NodeId) :
    Addition world { world with tree := (world.tree.resolve world.registry id).2 }
  | visit (id : NodeId) (name : String) (ignoreCase : Bool) :
    Addition world { world with tree := (world.tree.visit world.registry id name ignoreCase).2 }

/-- An addition is a change. -/
theorem Addition.change {old new : World} (addition : Addition old new) : Change old new := by
  cases addition with
  | table table written => exact .table table written
  | methods group => exact .methods group
  | core id function missing => exact .core id function missing
  | library id library missing => exact .library id library missing
  | member id library made function known missing =>
    exact .member id library made function known missing
  | resolve id => exact .resolve id
  | visit id name ignoreCase => exact .visit id name ignoreCase

/-- Worlds that additions lead to. -/
abbrev Grown : World → World → Prop := Relation.ReflTransGen Addition

/-- What additions lead to changes lead to. -/
theorem Grown.later {old new : World} (grown : Grown old new) : Later old new :=
  Relation.ReflTransGen.mono (fun _ _ => Addition.change) _ _ grown

end World

end ScriptHost
