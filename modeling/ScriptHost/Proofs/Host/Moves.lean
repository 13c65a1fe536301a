import ScriptHost.Environment.Launch
import ScriptHost.Proofs.Evaluation.Effects
import ScriptHost.Proofs.World.Kept

/-!
# Moves of a host

A host launches environments, writes globals, installs and removes hooks, adds sources of
names, looks names up, runs scripts and has its code remember values. Whatever such a move
does to the world, apart from adding a source, it does in changes of the kinds that scripts
make and in a few deeds that are left to the host.
-/

namespace ScriptHost

open ScriptHost.Action World

/-- What a host can do. -/
inductive HostMove where
  | launch (settings : Config.Settings) (sink : Sink) (compiler : Compiler)
  | drop (id : EnvironmentId)
  | addSource (id : EnvironmentId) (label : String) (kept : List Value) (reply : Reply)
  | installHook (table : TableId) (hook : Value)
  | setGlobal (id : EnvironmentId) (name : String) (value : Value)
  | rawSet (table : TableId) (key value : Value)
  | addPackage (id : EnvironmentId) (name : String) (type : Option HostTypeId)
  | lookUp (held : List Reference) (id : EnvironmentId) (name : String)
  | runText (held : List Reference) (id : EnvironmentId) (source name : String)
    (arguments : List (String × Value))
  | runFile (held : List Reference) (id : EnvironmentId) (path : String)
    (arguments : List (String × Value))
  | runBytes (held : List Reference) (id : EnvironmentId) (content : ByteArray) (name : String)
    (arguments : List (String × Value))
  | runChunk (held : List Reference) (id : EnvironmentId) (chunk : Chunk) (arguments : List Value)
  | call (context : Context) (callee : Value) (arguments : List Value)
  | callMethod (context : Context) (object : Value) (name : String) (arguments : List Value)
  | read (context : Context) (object key : Value)
  | store (held : List Reference) (id : EnvironmentId) (object key value : Value)
  | remember (key value : Value)
  | collect (id : EnvironmentId)
  | takeOutput (id : EnvironmentId)
  | makeTable (table : Table)
  | makeFunction (function : Callable)
  | makeObject (object : HostObject)
  | register (type : HostType)
  | unregister (fullName : String)
  | hold (value : Value)

namespace HostMove

/-- A move as an action. What it gives is dropped. -/
def perform : HostMove → Action Unit
  | launch settings sink compiler => do
    let _ ← Environment.launch settings sink compiler
  | drop id => Environment.drop id
  | addSource id label kept reply => Environment.addSource id (.host label kept reply)
  | installHook table hook => table.installHook hook
  | setGlobal id name value => Environment.setGlobal id name value
  | rawSet table key value => do
    let _ ← Action.rawSet table key value
  | addPackage id name type => Environment.addPackage id name type
  | lookUp held id name => do
    let _ ← Environment.getGlobal caller held id name
  | runText held id source name arguments => do
    let _ ← Environment.doString caller held id source name arguments
  | runFile held id path arguments => do
    let _ ← Environment.doFile caller held id path arguments
  | runBytes held id content name arguments => do
    let _ ← Environment.doBytes caller held id content name arguments
  | runChunk held id chunk arguments => do
    let _ ← Environment.runChunk caller held id chunk arguments
  | call context callee arguments => do
    let _ ← Value.apply caller context callee arguments
  | callMethod context object name arguments => do
    let _ ← Value.applyMethod caller context object name arguments
  | read context object key => do
    let _ ← Value.index caller context object key
  | store held id object key value => Value.store caller held id object key value
  | remember key value => do
    let _ ← Action.remember key value
  | collect id => do
    let _ ← Environment.collect id
  | takeOutput id => do
    let _ ← Environment.takeOutput id
  | makeTable table => do
    let _ ← newTable table
  | makeFunction function => do
    let _ ← newFunction function
  | makeObject object => do
    let _ ← newObject object
  | register type => type.register
  | unregister fullName => do
    let _ ← Registry.remove fullName
  | hold value => do
    let _ ← Action.hold value

/-- What a move needs: an environment to add a source to, a function that exists as a hook, and
writes as the way that a table comes about. -/
def Fits (world : World) : HostMove → Prop
  | addSource id _ _ _ => id.index < world.environments.size
  | installHook _ hook =>
    ∀ function, hook = .reference (.function function) → function.index < world.functions.size
  | makeTable table => table.Written
  | _ => True

/-- The source that a move adds to an environment. -/
def source? (id : EnvironmentId) : HostMove → Option Source
  | addSource other label kept reply => if other = id then some (.host label kept reply) else none
  | _ => none

end HostMove

namespace World

/-- A change that only a host makes. Adding a source is another one. -/
inductive Deed (world : World) : World → Prop where
  | function (function : Callable) :
    Deed world { world with functions := world.functions.push function }
  | object (object : HostObject) :
    Deed world { world with objects := world.objects.push object }
  | environment (heap : Heap) (sink : Sink) (compiler : Compiler) :
    Deed world { world with
      tables := world.tables.push {}
      environments :=
        world.environments.push { storage := ⟨world.tables.size⟩, heap, sink, compiler } }
  | drop (id : EnvironmentId) :
    Deed world (world.setEnvironment id { world.environment id with hosted := false })
  | hook (id : TableId) (hook : Option Value)
    (fits : ∀ function, hook = some (.reference (.function function)) →
      function.index < world.functions.size) :
    Deed world (world.setTable id { world.table id with hook })
  | output (id : EnvironmentId) :
    Deed world (world.setEnvironment id { world.environment id with sink := .capture "" })
  | register (type : HostType) :
    Deed world { world with
      hostTypes := world.hostTypes.push type
      registry := world.registry.register type.fullName ⟨world.hostTypes.size⟩ }
  | unregister (fullName : String) :
    Deed world { world with registry := world.registry.unregister fullName }
  | hold (value : Value) :
    Deed world { world with held := world.held ++ [value] }

/-- Worlds that changes and deeds lead to. -/
abbrev Onward : World → World → Prop :=
  Relation.ReflTransGen fun old new => Change old new ∨ Deed old new

/-- Changes lead onward. -/
theorem Later.onward {old new : World} (later : Later old new) : Onward old new :=
  Relation.ReflTransGen.mono (fun _ _ => Or.inl) _ _ later

/-- A deed leads onward. -/
theorem Deed.onward {old new : World} (deed : Deed old new) : Onward old new :=
  .single (.inr deed)

/-- What every change and every deed keeps is kept onward. -/
theorem Onward.keeps {relates : World → World → Prop} [IsPreorder World relates]
    {old new : World} (onward : Onward old new)
    (change : ∀ old new, Change old new → relates old new)
    (deed : ∀ old new, Deed old new → relates old new) : relates old new := by
  induction onward with
  | refl => exact refl_of relates old
  | tail _ step ih =>
    rcases step with changed | made
    · exact trans_of relates ih (change _ _ changed)
    · exact trans_of relates ih (deed _ _ made)

end World

/-- An action that makes changes only leads onward. -/
theorem Action.Keeps.onward {Result : Type} {action : Action Result}
    (keeps : Keeps Later action) : Keeps Onward action :=
  keeps.mono fun _ _ later => later.onward

namespace Environment

/-- Adding a package leads onward. -/
theorem addPackage_onward (id : EnvironmentId) (name : String) (type : Option HostTypeId) :
    Keeps Onward (addPackage id name type) := by
  unfold addPackage
  split
  · exact keeps_throw _
  · split
    · exact keeps_throw _
    · next type =>
      have made : Keeps Onward (newObject (.package type)) := fun _ => (Deed.object _).onward
      exact Keeps.bind made fun object => (setGlobal_keeps id name _).onward

/-- Adding packages leads onward. -/
theorem addPackages_onward (id : EnvironmentId) (packages : List (String × String)) :
    Keeps Onward (addPackages id packages) := by
  induction packages with
  | nil => exact keeps_pure _
  | cons package rest ih =>
    obtain ⟨name, fullName⟩ := package
    unfold addPackages
    refine Keeps.bind (keeps_view _) fun registry => ?_
    split
    · exact Keeps.bind (keeps_throw _) fun _ => ih
    · exact Keeps.bind (addPackage_onward id name _) fun _ => ih

/-- A new environment is a deed. -/
theorem new_onward (heap : Heap) (sink : Sink) (compiler : Compiler) :
    Keeps Onward (new heap sink compiler) :=
  fun _ => (Deed.environment heap sink compiler).onward

/-- Launching an environment leads onward. -/
theorem launch_onward (settings : Config.Settings) (sink : Sink) (compiler : Compiler) :
    Keeps Onward (launch settings sink compiler) := by
  unfold launch
  apply Keeps.bind (new_onward _ sink compiler)
  intro id
  exact Keeps.bind (addPackages_onward id _) fun _ => keeps_pure _

/-- Taking the captured lines is a deed, if there are any. -/
theorem takeOutput_onward (id : EnvironmentId) : Keeps Onward (takeOutput id) := by
  intro world
  unfold takeOutput
  rw [left_view_bind]
  split
  · exact (Deed.output id).onward
  · exact refl_of Onward world

end Environment

/-- Every move but that of adding a source leads onward. -/
theorem HostMove.onward {world : World} {move : HostMove} (fits : move.Fits world)
    (other : ∀ id label kept reply, move ≠ .addSource id label kept reply) :
    Onward world (left move.perform world) := by
  cases move with
  | launch settings sink compiler =>
    exact (Environment.launch_onward settings sink compiler).discard world
  | drop id => exact (Deed.drop id).onward
  | addSource id label kept reply => exact absurd rfl (other id label kept reply)
  | installHook table hook =>
    apply Deed.onward
    apply Deed.hook table
    intro function installed
    split at installed
    · contradiction
    · exact fits function (Option.some.inj installed)
  | setGlobal id name value => exact (Environment.setGlobal_keeps id name value).onward world
  | rawSet table key value => exact (rawSet_keeps table key value).discard.onward world
  | addPackage id name type => exact Environment.addPackage_onward id name type world
  | lookUp held id name =>
    exact (Environment.getGlobal_keeps caller_keeps held id name).discard.onward world
  | runText held id source name arguments =>
    exact (Environment.doString_keeps caller_keeps held id source name arguments).discard.onward
      world
  | runFile held id path arguments =>
    exact (Environment.doFile_keeps caller_keeps held id path arguments).discard.onward world
  | runBytes held id content name arguments =>
    exact (Environment.doBytes_keeps caller_keeps held id content name arguments).discard.onward
      world
  | runChunk held id chunk arguments =>
    exact (Environment.runChunk_keeps caller_keeps held id chunk arguments).discard.onward world
  | call context callee arguments =>
    exact (Value.apply_keeps caller_keeps context callee arguments).discard.onward world
  | callMethod context object name arguments =>
    exact (Value.applyMethod_keeps caller_keeps context object name arguments).discard.onward world
  | read context object key =>
    exact (Value.index_keeps caller_keeps context object key).discard.onward world
  | store held id object key value =>
    exact (Value.store_keeps caller_keeps held id object key value).onward world
  | remember key value => exact (remember_keeps key value).discard.onward world
  | collect id => exact (Environment.collect_keeps id).discard.onward world
  | takeOutput id => exact (Environment.takeOutput_onward id).discard world
  | makeTable table => exact (newTable_keeps fits).discard.onward world
  | makeFunction function => exact (Deed.function function).onward
  | makeObject object => exact (Deed.object object).onward
  | register type => exact (Deed.register type).onward
  | unregister fullName => exact (Deed.unregister fullName).onward
  | hold value => exact (Deed.hold value).onward

/-- Adding a source puts it behind those already there. -/
theorem HostMove.left_addSource (id : EnvironmentId) (label : String) (kept : List Value)
    (reply : Reply) (world : World) :
    left (addSource id label kept reply).perform world = world.setEnvironment id
      { world.environment id with
        sources := (world.environment id).sources ++ [.host label kept reply] } :=
  rfl

/-- A move adds a source, or it adds none and leads onward. -/
theorem HostMove.adds_or_onward {world : World} {move : HostMove} (fits : move.Fits world) :
    (∃ id label kept reply, move = .addSource id label kept reply) ∨
      Onward world (left move.perform world) ∧ ∀ id, move.source? id = none := by
  cases move with
  | addSource id label kept reply => exact .inl ⟨id, label, kept, reply, rfl⟩
  | _ => exact .inr ⟨onward fits fun _ _ _ _ => HostMove.noConfusion, fun _ => rfl⟩

namespace World

/-! ## Courses -/

/-- A change, a deed or a new source. -/
inductive Step (old : World) : World → Prop where
  | change {new : World} (change : Change old new) : Step old new
  | deed {new : World} (deed : Deed old new) : Step old new
  | source (id : EnvironmentId) (source : Source) :
    Step old (old.setEnvironment id
      { old.environment id with sources := (old.environment id).sources ++ [source] })

/-- Worlds that steps lead to, those in the middle of moves and of scripts among them. -/
abbrev Course : World → World → Prop := Relation.ReflTransGen Step

/-- What leads onward is a course. -/
theorem Onward.course {old new : World} (onward : Onward old new) : Course old new := by
  refine Relation.ReflTransGen.mono ?_ _ _ onward
  rintro before after (change | deed)
  · exact .change change
  · exact .deed deed

/-- A later world with the environments of an earlier one in their places, and with storage for
those that are new. -/
structure Furthers (old new : World) : Prop where
  tables : old.tables.size ≤ new.tables.size
  environments : old.environments.size ≤ new.environments.size
  storage : ∀ id : EnvironmentId, id.index < old.environments.size →
    (new.environment id).storage = (old.environment id).storage
  fresh : ∀ id : EnvironmentId, old.environments.size ≤ id.index →
    id.index < new.environments.size → (new.environment id).storage.index < new.tables.size

/-- An environment changed in other ways than its storage furthers the world. -/
theorem Furthers.setEnvironment (world : World) {id : EnvironmentId} {environment : Environment}
    (storage : environment.storage = (world.environment id).storage) :
    Furthers world (world.setEnvironment id environment) where
  tables := Nat.le_refl _
  environments := Nat.le_of_eq Array.size_setIfInBounds.symm
  storage := fun other _ => world.environment_common Environment.storage storage other
  fresh := by
    intro other new there
    have size : (world.setEnvironment id environment).environments.size =
        world.environments.size := Array.size_setIfInBounds
    omega

/-- A new entry in another part of the world furthers it. -/
theorem Furthers.of_same {old new : World} (tables : old.tables.size ≤ new.tables.size)
    (environments : new.environments = old.environments) : Furthers old new where
  tables := tables
  environments := Nat.le_of_eq (congrArg Array.size environments).symm
  storage := by
    intro id _
    unfold World.environment
    rw [environments]
  fresh := by
    intro id new there
    rw [environments] at there
    omega

/-- A change furthers the world. -/
theorem Change.furthers {old new : World} (change : Change old new) : Furthers old new where
  tables := change.kept.tables
  environments := Nat.le_of_eq change.kept.environments.symm
  storage := fun id _ => change.kept.storage id
  fresh := by
    intro id new there
    have size := change.kept.environments
    omega

/-- A deed furthers the world. -/
theorem Deed.furthers {old new : World} (deed : Deed old new) : Furthers old new := by
  cases deed with
  | environment heap sink compiler =>
    have read (id : EnvironmentId) := environment_push
      { old with tables := old.tables.push {} }
      { storage := ⟨old.tables.size⟩, heap, sink, compiler } id
    refine ⟨?_, ?_, ?_, ?_⟩
    · simp
    · simp
    · intro id there
      have apart : id.index ≠ old.environments.size := Nat.ne_of_lt there
      exact congrArg Environment.storage ((read id).trans (if_neg apart))
    · intro id new there
      have last : id.index = old.environments.size := by
        simp only [Array.size_push] at there
        omega
      have storage := congrArg Environment.storage ((read id).trans (if_pos last))
      rw [storage]
      simp
  | drop id => exact Furthers.setEnvironment old rfl
  | output id => exact Furthers.setEnvironment old rfl
  | hook id hook fits => exact Furthers.of_same (Nat.le_of_eq Array.size_setIfInBounds.symm) rfl
  | _ => exact Furthers.of_same (Nat.le_refl _) rfl

/-- A step furthers the world. -/
theorem Step.furthers {old new : World} (step : Step old new) : Furthers old new := by
  cases step with
  | change change => exact change.furthers
  | deed deed => exact deed.furthers
  | source id source => exact Furthers.setEnvironment old rfl

/-- Along a course environments stay in their places with their storage. -/
theorem Course.houses {old new : World} (course : Course old new)
    (housed : ∀ id : EnvironmentId, id.index < old.environments.size → old.Houses id)
    (id : EnvironmentId) (there : id.index < new.environments.size) : new.Houses id := by
  induction course generalizing id with
  | refl => exact housed id there
  | @tail before after _ step ih =>
    have furthers := step.furthers
    by_cases known : id.index < before.environments.size
    · have houses := ih id known
      refine ⟨there, ?_⟩
      rw [furthers.storage id known]
      exact Nat.lt_of_lt_of_le houses.storage furthers.tables
    · exact ⟨there, furthers.fresh id (Nat.le_of_not_lt known) there⟩

end World

/-- A move of a host runs a course. -/
theorem HostMove.course {world : World} {move : HostMove} (fits : move.Fits world) :
    Course world (left move.perform world) := by
  rcases adds_or_onward fits with ⟨id, label, kept, reply, rfl⟩ | ⟨onward, _⟩
  · exact .single (.source id (.host label kept reply))
  · exact onward.course

/-- A host makes a move that it can make. -/
def HostMove.Leads (old new : World) : Prop :=
  ∃ move : HostMove, move.Fits old ∧ new = left move.perform old

/-- Moves one after another run a course. -/
theorem HostMove.course_of_moves {old new : World}
    (moved : Relation.ReflTransGen HostMove.Leads old new) : Course old new := by
  induction moved with
  | refl => exact .refl
  | tail _ leads ih =>
    obtain ⟨move, fits, rfl⟩ := leads
    exact ih.trans (move.course fits)

end ScriptHost
