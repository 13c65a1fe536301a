import ScriptHost.World.Retention

/-!
# Worlds that hold alike

Which environments are still held goes by how many tables and environments there are, by what
each of them holds and by what the host holds. Worlds that are alike in that hold the same
environments, whatever else they have.
-/

namespace ScriptHost.World

/-- Worlds in which the host, the tables and the environments hold the same. -/
structure HoldsAlike (old new : World) : Prop where
  tables : new.tables.size = old.tables.size
  table : ∀ id, (new.table id).holds = (old.table id).holds
  environments : new.environments.size = old.environments.size
  storage : ∀ id, (new.environment id).storage = (old.environment id).storage
  sources : ∀ id, (new.environment id).sources.flatMap Source.holds =
    (old.environment id).sources.flatMap Source.holds
  hosted : ∀ id, (new.environment id).hosted = (old.environment id).hosted
  memory : new.memory.holds = old.memory.holds
  held : new.held.flatMap Value.holds = old.held.flatMap Value.holds

namespace HoldsAlike

variable {old new : World}

/-- Tables and environments hold the same. -/
theorem holds (alike : HoldsAlike old new) (reference : Reference) :
    new.holds reference = old.holds reference := by
  cases reference with
  | table id => exact alike.table id
  | environment id =>
    unfold World.holds
    dsimp only
    rw [alike.storage, alike.sources]
  | function id => rfl
  | node id => rfl
  | object id => rfl

/-- Releasing goes the same way. -/
theorem release (alike : HoldsAlike old new) (steps : Nat) (pending : List Reference)
    (holders : Holders) :
    new.release steps pending holders = old.release steps pending holders := by
  induction steps generalizing pending holders with
  | zero => rfl
  | succ steps ih =>
    cases pending with
    | nil => rfl
    | cons reference rest =>
      unfold World.release
      rw [alike.holds]
      exact ih _ _

/-- The same environments are still held. -/
theorem isLive (alike : HoldsAlike old new) (running : List Reference) (id : EnvironmentId) :
    new.isLive running id = old.isLive running id := by
  have containers : new.containers = old.containers := by
    unfold World.containers
    rw [alike.tables, alike.environments]
  have heldByHost : new.heldByHost = old.heldByHost := by
    unfold World.heldByHost
    simp only [alike.held, alike.memory, alike.environments, alike.hosted]
  have holders : new.holders running = old.holders running := by
    unfold World.holders
    rw [alike.tables, alike.environments, heldByHost, containers,
      show new.holds = old.holds from funext alike.holds]
  unfold World.isLive World.holdersLeft
  rw [alike.hosted, containers, holders, alike.release]

end HoldsAlike

end ScriptHost.World
