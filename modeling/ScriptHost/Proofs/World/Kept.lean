import Mathlib.Tactic.ByContra
import ScriptHost.Proofs.Table.Entries
import ScriptHost.Proofs.World.Change

/-!
# What changes keep

Along any number of changes functions keep their bodies, packages keep their type, library
objects stay those of their library, tables keep their hooks, host types stay as they are,
and environments keep their storage, their sources and their compiler. Nothing that has a
place goes away.
-/

namespace ScriptHost

open ScriptHost.Action

/-! ## Tables that writes have made -/

namespace Table

/-- A table that writes have made has no hook and no `nil`. -/
theorem Written.spec {table : Table} (written : table.Written) :
    table.hook = none ∧ table.Filled := by
  induction written with
  | empty => exact ⟨rfl, filled_empty⟩
  | write _ key value ih => exact ⟨(hook_write _ key value).trans ih.1, ih.2.write key value⟩

/-- A table that writes have made has different keys. -/
theorem Written.distinct {table : Table} (written : table.Written) : table.Distinct := by
  induction written with
  | empty => exact List.nodup_nil
  | write _ key value ih => exact ih.write key value

end Table

/-! ## Reading a changed world -/

/-- What has a place in an array keeps it when more is added. -/
theorem Array.getElem?_push_of_some {Entry : Type} {entries : Array Entry} {place : Nat}
    {entry : Entry} (found : entries[place]? = some entry) (more : Entry) :
    (entries.push more)[place]? = some entry := by
  have inside := (Array.getElem?_eq_some_iff.mp found).1
  rw [Array.getElem?_push, if_neg (Nat.ne_of_lt inside)]
  exact found

/-- Tables are the same when their places are. -/
theorem TableId.eq_iff {left right : TableId} : left = right ↔ left.index = right.index := by
  cases left
  cases right
  simp

/-- Environments are the same when their places are. -/
theorem EnvironmentId.eq_iff {left right : EnvironmentId} :
    left = right ↔ left.index = right.index := by
  cases left
  cases right
  simp

namespace World

section Outside

variable {world : World}

/-- A table that is not there has nothing. -/
theorem table_of_outside {id : TableId} (outside : world.tables.size ≤ id.index) :
    world.table id = {} := by
  unfold World.table
  rw [Array.getElem?_eq_none outside]
  rfl

/-- A function that is not there is the default one. -/
theorem function_of_outside {id : FunctionId} (outside : world.functions.size ≤ id.index) :
    world.function id = default := by
  unfold World.function
  rw [Array.getElem?_eq_none outside]
  rfl

/-- An object that is not there is the default one. -/
theorem object_of_outside {id : ObjectId} (outside : world.objects.size ≤ id.index) :
    world.object id = default := by
  unfold World.object
  rw [Array.getElem?_eq_none outside]
  rfl

/-- An environment that is not there is the default one. -/
theorem environment_of_outside {id : EnvironmentId}
    (outside : world.environments.size ≤ id.index) : world.environment id = default := by
  unfold World.environment
  rw [Array.getElem?_eq_none outside]
  rfl

/-- A host type that is not there is the default one. -/
theorem hostType_of_outside {id : HostTypeId} (outside : world.hostTypes.size ≤ id.index) :
    world.hostType id = default := by
  unfold World.hostType
  rw [Array.getElem?_eq_none outside]
  rfl

end Outside

section Reading

variable (world : World)

/-- A changed table is read at its place only. -/
theorem table_setTable (id other : TableId) (table : Table) :
    (world.setTable id table).table other =
      if other = id ∧ id.index < world.tables.size then table else world.table other := by
  unfold setTable World.table
  rw [Array.getElem?_setIfInBounds]
  by_cases here : other = id
  · subst here
    by_cases inside : other.index < world.tables.size <;> simp [inside]
  · have apart := mt TableId.eq_iff.mpr (Ne.symm here)
    simp [here, apart]

/-- A changed environment is read at its place only. -/
theorem environment_setEnvironment (id other : EnvironmentId) (environment : Environment) :
    (world.setEnvironment id environment).environment other =
      if other = id ∧ id.index < world.environments.size then environment
      else world.environment other := by
  unfold setEnvironment World.environment
  rw [Array.getElem?_setIfInBounds]
  by_cases here : other = id
  · subst here
    by_cases inside : other.index < world.environments.size <;> simp [inside]
  · have apart := mt EnvironmentId.eq_iff.mpr (Ne.symm here)
    simp [here, apart]

/-- What a changed environment has in common with the old one all environments have. -/
theorem environment_common {Part : Type} (part : Environment → Part) {id : EnvironmentId}
    {environment : Environment} (same : part environment = part (world.environment id))
    (other : EnvironmentId) :
    part ((world.setEnvironment id environment).environment other) =
      part (world.environment other) := by
  rw [environment_setEnvironment]
  split
  · next here => rw [same, here.1]
  · rfl

/-- A new environment is read at its place only. -/
theorem environment_push (environment : Environment) (other : EnvironmentId) :
    { world with environments := world.environments.push environment }.environment other =
      if other.index = world.environments.size then environment
      else world.environment other := by
  unfold World.environment
  rw [Array.getElem?_push]
  split <;> rfl

/-- A new table is read at its place only. -/
theorem table_push (table : Table) (other : TableId) :
    { world with tables := world.tables.push table }.table other =
      if other.index = world.tables.size then table else world.table other := by
  unfold World.table
  rw [Array.getElem?_push]
  split <;> rfl

/-- A new host type is read at its place only. -/
theorem hostType_push (type : HostType) (other : HostTypeId) :
    { world with hostTypes := world.hostTypes.push type }.hostType other =
      if other.index = world.hostTypes.size then type else world.hostType other := by
  unfold World.hostType
  rw [Array.getElem?_push]
  split <;> rfl

/-- A changed object is read at its place only. -/
theorem object_setIfInBounds (id other : ObjectId) (object : HostObject) :
    { world with objects := world.objects.setIfInBounds id.index object }.object other =
      if other.index = id.index ∧ id.index < world.objects.size then object
      else world.object other := by
  unfold World.object
  rw [Array.getElem?_setIfInBounds]
  by_cases here : other.index = id.index
  · rw [here]
    by_cases inside : id.index < world.objects.size <;> simp [inside]
  · simp [here, Ne.symm here]

/-- A new object is read at its place only. -/
theorem object_push (object : HostObject) (other : ObjectId) :
    { world with objects := world.objects.push object }.object other =
      if other.index = world.objects.size then object else world.object other := by
  unfold World.object
  rw [Array.getElem?_push]
  split <;> rfl

/-- A new function is read at its place only. -/
theorem function_push (function : Callable) (other : FunctionId) :
    { world with functions := world.functions.push function }.function other =
      if other.index = world.functions.size then function else world.function other := by
  unfold World.function
  rw [Array.getElem?_push]
  split <;> rfl

/-- A library object is there. -/
theorem index_lt_of_library {id : ObjectId} {library : Library}
    {made : List (LibraryFunction × FunctionId)} (known : world.object id = .library library made) :
    id.index < world.objects.size := by
  by_contra outside
  rw [object_of_outside (Nat.le_of_not_lt outside)] at known
  contradiction

/-- A package is there. -/
theorem index_lt_of_package {id : ObjectId} {type : HostTypeId}
    (known : world.object id = .package type) : id.index < world.objects.size := by
  by_contra outside
  rw [object_of_outside (Nat.le_of_not_lt outside)] at known
  contradiction

end Reading

/-! ## What stays -/

/-- What a later world has of an earlier one. -/
structure Kept (old new : World) : Prop where
  functions : ∀ (place : Nat) (function : Callable), old.functions[place]? = some function →
    new.functions[place]? = some function
  libraries : ∀ id library made, old.object id = .library library made →
    ∃ more, new.object id = .library library more
  packages : ∀ id type, old.object id = .package type → new.object id = .package type
  tables : old.tables.size ≤ new.tables.size
  hook : ∀ id, (new.table id).hook = (old.table id).hook
  filled : (∀ id, (old.table id).Filled) → ∀ id, (new.table id).Filled
  environments : new.environments.size = old.environments.size
  storage : ∀ id, (new.environment id).storage = (old.environment id).storage
  sources : ∀ id, (new.environment id).sources = (old.environment id).sources
  compiler : ∀ id, (new.environment id).compiler = (old.environment id).compiler
  hosted : ∀ id, (new.environment id).hosted = (old.environment id).hosted
  held : new.held = old.held
  files : new.files = old.files
  hostTypes : new.hostTypes = old.hostTypes
  registry : new.registry = old.registry

namespace Kept

/-- A world keeps itself. -/
theorem refl (world : World) : Kept world world where
  functions := fun _ _ found => found
  libraries := fun _ _ made known => ⟨made, known⟩
  packages := fun _ _ known => known
  tables := Nat.le_refl _
  hook := fun _ => rfl
  filled := id
  environments := rfl
  storage := fun _ => rfl
  sources := fun _ => rfl
  compiler := fun _ => rfl
  hosted := fun _ => rfl
  held := rfl
  files := rfl
  hostTypes := rfl
  registry := rfl

/-- What is kept twice is kept. -/
theorem trans {old middle new : World} (first : Kept old middle) (second : Kept middle new) :
    Kept old new where
  functions := fun place function found =>
    second.functions place function (first.functions place function found)
  libraries := by
    intro id library made known
    obtain ⟨more, between⟩ := first.libraries id library made known
    exact second.libraries id library more between
  packages := fun id type known => second.packages id type (first.packages id type known)
  tables := Nat.le_trans first.tables second.tables
  hook := fun id => (second.hook id).trans (first.hook id)
  filled := fun filled => second.filled (first.filled filled)
  environments := second.environments.trans first.environments
  storage := fun id => (second.storage id).trans (first.storage id)
  sources := fun id => (second.sources id).trans (first.sources id)
  compiler := fun id => (second.compiler id).trans (first.compiler id)
  hosted := fun id => (second.hosted id).trans (first.hosted id)
  held := second.held.trans first.held
  files := second.files.trans first.files
  hostTypes := second.hostTypes.trans first.hostTypes
  registry := second.registry.trans first.registry

/-- A changed environment that has its storage, sources, compiler and host keeps the world. -/
theorem setEnvironment (world : World) {id : EnvironmentId} {environment : Environment}
    (storage : environment.storage = (world.environment id).storage)
    (sources : environment.sources = (world.environment id).sources)
    (compiler : environment.compiler = (world.environment id).compiler)
    (hosted : environment.hosted = (world.environment id).hosted) :
    Kept world (world.setEnvironment id environment) :=
  { refl world with
    environments := Array.size_setIfInBounds
    storage := world.environment_common Environment.storage storage
    sources := world.environment_common Environment.sources sources
    compiler := world.environment_common Environment.compiler compiler
    hosted := world.environment_common Environment.hosted hosted }

/-- New functions keep the world. -/
theorem pushFunction (world : World) (function : Callable) :
    Kept world { world with functions := world.functions.push function } :=
  { refl world with functions := fun _ _ found => Array.getElem?_push_of_some found function }

/-- New objects keep the world. -/
theorem pushObject (world : World) (object : HostObject) :
    Kept world { world with objects := world.objects.push object } :=
  { refl world with
    libraries := by
      intro id library made known
      have inside := world.index_lt_of_library known
      rw [object_push, if_neg (Nat.ne_of_lt inside)]
      exact ⟨made, known⟩
    packages := by
      intro id type known
      rw [object_push, if_neg (Nat.ne_of_lt (world.index_lt_of_package known))]
      exact known }

/-- A library object that hands out one more function keeps the world. -/
theorem setMade (world : World) {id : ObjectId} {library : Library}
    {made : List (LibraryFunction × FunctionId)} (known : world.object id = .library library made)
    (more : List (LibraryFunction × FunctionId)) :
    Kept world
      { world with objects := world.objects.setIfInBounds id.index (.library library more) } :=
  { refl world with
    libraries := by
      intro other name given there
      rw [object_setIfInBounds]
      split
      · next here =>
        obtain rfl : other = id := by
          cases other
          cases id
          exact congrArg ObjectId.mk here.1
        rw [known] at there
        obtain ⟨rfl, rfl⟩ := HostObject.library.inj there
        exact ⟨more, rfl⟩
      · exact ⟨given, there⟩
    packages := by
      intro other type there
      rw [object_setIfInBounds, if_neg]
      · exact there
      · rintro ⟨here, _⟩
        obtain rfl : other = id := by
          cases other
          cases id
          exact congrArg ObjectId.mk here
        rw [known] at there
        contradiction }

end Kept

/-- Every change keeps the world. -/
theorem Change.kept {old new : World} (change : Change old new) : Kept old new := by
  cases change with
  | table table written =>
    have bare (id : TableId) (new : id.index = old.tables.size) : old.table id = {} :=
      table_of_outside (Nat.le_of_eq new.symm)
    exact { Kept.refl old with
      tables := by
        rw [Array.size_push]
        exact Nat.le_succ _
      hook := by
        intro id
        rw [table_push]
        split
        · next new => rw [written.spec.1, bare id new]
        · rfl
      filled := by
        intro filled id
        rw [table_push]
        split
        · exact written.spec.2
        · exact filled id }
  | entry id key value =>
    exact { Kept.refl old with
      tables := Nat.le_of_eq Array.size_setIfInBounds.symm
      hook := by
        intro other
        rw [table_setTable]
        split
        · next here => rw [Table.hook_write, here.1]
        · rfl
      filled := by
        intro filled other
        rw [table_setTable]
        split
        · exact (filled id).write key value
        · exact filled other }
  | methods group => exact Kept.pushFunction old _
  | core id function missing =>
    exact (Kept.pushFunction old (function.bound id)).trans (Kept.setEnvironment _ rfl rfl rfl rfl)
  | library id library missing =>
    exact (Kept.pushObject old (.library library [])).trans
      (Kept.setEnvironment _ rfl rfl rfl rfl)
  | member id library made function known missing =>
    let grown : World :=
      { old with functions := old.functions.push (Builtin.library function).callable }
    have same : grown.object id = .library library made := known
    exact (Kept.pushFunction old _).trans (Kept.setMade grown same _)
  | charge id bytes heap granted => exact Kept.setEnvironment old rfl rfl rfl rfl
  | refund id bytes => exact Kept.setEnvironment old rfl rfl rfl rfl
  | collect id => exact Kept.setEnvironment old rfl rfl rfl rfl
  | line id line => exact Kept.setEnvironment old rfl rfl rfl rfl
  | memory key value => exact { Kept.refl old with functions := fun _ _ found => found }
  | resolve id => exact { Kept.refl old with functions := fun _ _ found => found }
  | visit id name ignoreCase => exact { Kept.refl old with functions := fun _ _ found => found }

/-- Changes keep the world. -/
theorem Later.kept {old new : World} (later : Later old new) : Kept old new := by
  induction later with
  | refl => exact Kept.refl old
  | tail _ change ih => exact ih.trans change.kept

/-- An environment that is there, with its storage. -/
structure Houses (world : World) (id : EnvironmentId) : Prop where
  there : id.index < world.environments.size
  storage : (world.environment id).storage.index < world.tables.size

end World

end ScriptHost
