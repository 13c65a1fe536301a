import ScriptHost.Environment.Lookup
import ScriptHost.Proofs.World.Holders
import ScriptHost.Proofs.World.Sound

/-!
# Enrichment

Looking names up makes function values and library objects, and the hooks on the way can
print. A world enriched like that cannot be told from the old one by what looks at tables,
hooks, sources and holders. A steady action has in every enrichment of a world the outcome
that it has in the world itself, and enriches further.
-/

namespace ScriptHost

open ScriptHost.Action

namespace World

/-- A world with what another one has, more function values and objects, and other captured lines. -/
structure Enriches (old new : World) : Prop where
  tables : new.tables = old.tables
  functions : ∀ (place : Nat) (function : Callable), old.functions[place]? = some function →
    new.functions[place]? = some function
  environments : new.environments.size = old.environments.size
  storage : ∀ id, (new.environment id).storage = (old.environment id).storage
  sources : ∀ id, (new.environment id).sources = (old.environment id).sources
  heap : ∀ id, (new.environment id).heap = (old.environment id).heap
  hosted : ∀ id, (new.environment id).hosted = (old.environment id).hosted
  hostTypes : new.hostTypes = old.hostTypes
  registry : new.registry = old.registry
  tree : new.tree = old.tree
  files : new.files = old.files
  memory : new.memory = old.memory
  held : new.held = old.held

namespace Enriches

/-- A world enriches itself. -/
theorem refl (world : World) : Enriches world world :=
  ⟨rfl, fun _ _ found => found, rfl, fun _ => rfl, fun _ => rfl, fun _ => rfl, fun _ => rfl,
    rfl, rfl, rfl, rfl, rfl, rfl⟩

/-- What enriches an enrichment enriches the world. -/
theorem trans {old middle new : World} (first : Enriches old middle)
    (second : Enriches middle new) : Enriches old new where
  tables := second.tables.trans first.tables
  functions := fun place function found =>
    second.functions place function (first.functions place function found)
  environments := second.environments.trans first.environments
  storage := fun id => (second.storage id).trans (first.storage id)
  sources := fun id => (second.sources id).trans (first.sources id)
  heap := fun id => (second.heap id).trans (first.heap id)
  hosted := fun id => (second.hosted id).trans (first.hosted id)
  hostTypes := second.hostTypes.trans first.hostTypes
  registry := second.registry.trans first.registry
  tree := second.tree.trans first.tree
  files := second.files.trans first.files
  memory := second.memory.trans first.memory
  held := second.held.trans first.held

end Enriches

instance : IsPreorder World Enriches where
  refl := Enriches.refl
  trans := fun _ _ _ => Enriches.trans

namespace Enriches

/-- New functions enrich a world. -/
theorem pushFunction (world : World) (function : Callable) :
    Enriches world { world with functions := world.functions.push function } :=
  { refl world with functions := (Kept.pushFunction world function).functions }

/-- New objects enrich a world. -/
theorem pushObject (world : World) (object : HostObject) :
    Enriches world { world with objects := world.objects.push object } :=
  { refl world with functions := fun _ _ found => found }

/-- An environment changed in what it has made and captured enriches a world. -/
theorem setEnvironment (world : World) {id : EnvironmentId} {environment : Environment}
    (storage : environment.storage = (world.environment id).storage)
    (sources : environment.sources = (world.environment id).sources)
    (heap : environment.heap = (world.environment id).heap)
    (hosted : environment.hosted = (world.environment id).hosted) :
    Enriches world (world.setEnvironment id environment) :=
  { refl world with
    environments := Array.size_setIfInBounds
    storage := world.environment_common Environment.storage storage
    sources := world.environment_common Environment.sources sources
    heap := world.environment_common Environment.heap heap
    hosted := world.environment_common Environment.hosted hosted }

variable {old new : World}

/-- Tables are as they were. -/
theorem table (enriches : Enriches old new) (id : TableId) : new.table id = old.table id := by
  unfold World.table
  rw [enriches.tables]

/-- A function that is there is as it was. -/
theorem function (enriches : Enriches old new) {id : FunctionId}
    (inside : id.index < old.functions.size) : new.function id = old.function id := by
  have there := Array.getElem?_eq_getElem inside
  unfold World.function
  rw [enriches.functions _ _ there, there]

/-- What an enrichment adds holds nothing. -/
theorem holdsAlike (enriches : Enriches old new) : HoldsAlike old new where
  tables := by rw [enriches.tables]
  table := fun id => by rw [enriches.table]
  environments := enriches.environments
  storage := enriches.storage
  sources := fun id => by rw [enriches.sources]
  hosted := enriches.hosted
  memory := by rw [enriches.memory]
  held := by rw [enriches.held]

end Enriches

end World

open World

/-- An action has the same outcome in a world and in all its enrichments, and enriches them. -/
structure Action.Steady {Result : Type} (action : Action Result) (world : World) : Prop where
  same : ∀ new, Enriches world new → outcome action new = outcome action world
  enriches : ∀ new, Enriches world new → Enriches new (left action new)

namespace Action

variable {First Second : Type} {world : World}

/-- A plain action is steady. -/
theorem Plain.steady {action : Action First} (plain : Plain action) : Steady action world where
  same := fun new _ => plain.blind new world
  enriches := by
    intro new _
    rw [plain.still]
    exact Enriches.refl new

/-- Taking the world is steady if what follows goes by what enrichments have in common. -/
theorem steady_get {rest : World → Action First}
    (common : ∀ new, Enriches world new → rest new = rest world)
    (steady : Steady (rest world) world) : Steady (get >>= rest) world where
  same := by
    intro new enriched
    rw [outcome_get_bind, outcome_get_bind, common new enriched]
    exact steady.same new enriched
  enriches := by
    intro new enriched
    rw [left_get_bind, common new enriched]
    exact steady.enriches new enriched

/-- A look at the world is steady if what follows goes by what enrichments have in common. -/
theorem steady_view {look : World → First} {next : First → Action Second}
    (common : ∀ new, Enriches world new → next (look new) = next (look world))
    (steady : Steady (next (look world)) world) : Steady (view look >>= next) world := by
  show Steady (get >>= fun seen => next (look seen)) world
  exact steady_get common steady

/-- Two steady steps are steady, the second one for what the first one gives. -/
theorem Steady.bind {first : Action First} {next : First → Action Second}
    (steady : Steady first world)
    (rest : ∀ result, outcome first world = .ok result → Steady (next result) world) :
    Steady (first >>= next) world := by
  have further (new : World) (enriched : Enriches world new) :
      Enriches world (left first new) :=
    enriched.trans (steady.enriches new enriched)
  have itself := Enriches.refl world
  constructor
  · intro new enriched
    rw [outcome_bind, outcome_bind, steady.same new enriched]
    cases given : outcome first world with
    | ok result =>
      dsimp only
      rw [(rest result given).same _ (further new enriched),
        (rest result given).same _ (further world itself)]
    | error interrupt => rfl
  · intro new enriched
    rw [left_bind, steady.same new enriched]
    cases given : outcome first world with
    | ok result =>
      exact (steady.enriches new enriched).trans
        ((rest result given).enriches _ (further new enriched))
    | error interrupt => exact steady.enriches new enriched

end Action

end ScriptHost
