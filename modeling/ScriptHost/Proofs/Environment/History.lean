import ScriptHost.Proofs.Host.Moves
import ScriptHost.Proofs.World.Sound

/-!
# Histories

A history is any number of moves, each with or without success. Every world that a history
leads to is sound, and the sources of each environment are the standard ones followed by
those that the host has added to it, in order.
-/

namespace ScriptHost

open ScriptHost.Action World

/-- The sources that moves add to an environment, in order. -/
def addedSources (id : EnvironmentId) (moves : List HostMove) : List Source :=
  moves.filterMap (·.source? id)

/-- The worlds that a host can bring about, with the moves that have led there. -/
inductive Reached : List HostMove → World → Prop where
  | start (files : Files) : Reached [] { files }
  | step {moves : List HostMove} {world : World} (reached : Reached moves world) (move : HostMove)
    (fits : move.Fits world) : Reached (moves ++ [move]) (left move.perform world)

namespace World

/-! ## What stays sound -/

namespace Sound

variable {world : World}

/-- An environment changed in other ways than what it has made leaves a world sound. -/
theorem setEnvironment (sound : Sound world) {id : EnvironmentId} {environment : Environment}
    (coreMade : environment.coreMade = (world.environment id).coreMade)
    (librariesMade : environment.librariesMade = (world.environment id).librariesMade) :
    Sound (world.setEnvironment id environment) where
  core := by
    intro other function made known
    rw [world.environment_common Environment.coreMade coreMade] at known
    exact sound.core other function made known
  library := by
    intro other library made known
    rw [world.environment_common Environment.librariesMade librariesMade] at known
    exact sound.library other library made known
  hooked := sound.hooked
  filled := sound.filled

/-- A new environment that has made nothing leaves a world sound. -/
theorem pushEnvironment (sound : Sound world) {environment : Environment}
    (coreMade : environment.coreMade = []) (librariesMade : environment.librariesMade = []) :
    Sound { world with environments := world.environments.push environment } := by
  have pushed := environment_push world environment
  refine ⟨?_, ?_, sound.hooked, sound.filled⟩
  · intro id function made known
    rw [pushed] at known
    split at known
    · rw [coreMade] at known
      contradiction
    · exact sound.core id function made known
  · intro id library made known
    rw [pushed] at known
    split at known
    · rw [librariesMade] at known
      contradiction
    · exact sound.library id library made known

/-- A new function leaves a world sound. -/
theorem pushFunction (sound : Sound world) (function : Callable) :
    Sound { world with functions := world.functions.push function } where
  core := fun id core made known =>
    (Kept.pushFunction world function).functions _ _ (sound.core id core made known)
  library := sound.library
  hooked := by
    intro id hook known
    rw [Array.size_push]
    exact Nat.lt_succ_of_lt (sound.hooked id hook known)
  filled := sound.filled

/-- A new object leaves a world sound. -/
theorem pushObject (sound : Sound world) (object : HostObject) :
    Sound { world with objects := world.objects.push object } where
  core := sound.core
  library := by
    intro id library made known
    obtain ⟨given, there⟩ := sound.library id library made known
    exact (Kept.pushObject world object).libraries made library given there
  hooked := sound.hooked
  filled := sound.filled

/-- A hook that is no function, or one that exists, leaves a world sound. -/
theorem setHook (sound : Sound world) (id : TableId) {hook : Option Value}
    (fits : ∀ function, hook = some (.reference (.function function)) →
      function.index < world.functions.size) :
    Sound (world.setTable id { world.table id with hook }) where
  core := sound.core
  library := sound.library
  hooked := by
    intro other function known
    rw [table_setTable] at known
    split at known
    · exact fits function known
    · exact sound.hooked other function known
  filled := by
    intro other
    rw [table_setTable]
    split
    · exact sound.filled id
    · exact sound.filled other

/-- An empty world is sound. -/
theorem initial (files : Files) : Sound { files } where
  core := fun _ _ _ known => by simp [World.environment, default] at known
  library := fun _ _ _ known => by simp [World.environment, default] at known
  hooked := fun _ _ known => by simp [World.table, default] at known
  filled := fun _ => Table.filled_empty

end Sound

/-- Sound worlds stay sound, and environments keep their sources. -/
structure Stays (old new : World) : Prop where
  sound : Sound old → Sound new
  sources : ∀ id, (new.environment id).sources = (old.environment id).sources

instance : IsPreorder World Stays where
  refl _ := ⟨id, fun _ => rfl⟩
  trans _ _ _ first second :=
    ⟨second.sound ∘ first.sound, fun id => (second.sources id).trans (first.sources id)⟩

/-- Changes leave what stays. -/
theorem Change.stays {old new : World} (change : Change old new) : Stays old new :=
  ⟨fun sound => sound.change change, change.kept.sources⟩

/-- Deeds leave what stays, as a new environment starts with the standard sources. -/
theorem Deed.stays {old new : World} (deed : Deed old new) : Stays old new := by
  cases deed with
  | function function => exact ⟨fun sound => sound.pushFunction function, fun _ => rfl⟩
  | object object => exact ⟨fun sound => sound.pushObject object, fun _ => rfl⟩
  | environment heap sink compiler =>
    have table : Change old { old with tables := old.tables.push {} } := .table {} .empty
    refine ⟨fun sound => (sound.change table).pushEnvironment rfl rfl, fun id => ?_⟩
    show (World.environment { old with environments := old.environments.push _ } id).sources = _
    rw [environment_push]
    split
    · next last =>
      rw [environment_of_outside (Nat.le_of_eq last.symm)]
      rfl
    · rfl
  | drop id =>
    exact ⟨fun sound => sound.setEnvironment rfl rfl,
      old.environment_common Environment.sources rfl⟩
  | hook id hook fits => exact ⟨fun sound => sound.setHook id fits, fun _ => rfl⟩
  | output id =>
    exact ⟨fun sound => sound.setEnvironment rfl rfl,
      old.environment_common Environment.sources rfl⟩
  | register type =>
    exact ⟨fun sound => ⟨sound.core, sound.library, sound.hooked, sound.filled⟩, fun _ => rfl⟩
  | unregister fullName =>
    exact ⟨fun sound => ⟨sound.core, sound.library, sound.hooked, sound.filled⟩, fun _ => rfl⟩
  | hold value =>
    exact ⟨fun sound => ⟨sound.core, sound.library, sound.hooked, sound.filled⟩, fun _ => rfl⟩

/-- What stays stays onward. -/
theorem Onward.stays {old new : World} (onward : Onward old new) : Stays old new :=
  onward.keeps (fun _ _ => Change.stays) (fun _ _ => Deed.stays)

end World

/-- A move leaves a sound world sound. -/
theorem HostMove.sound {world : World} (sound : Sound world) {move : HostMove}
    (fits : move.Fits world) : Sound (left move.perform world) := by
  rcases adds_or_onward fits with ⟨id, label, kept, reply, rfl⟩ | ⟨onward, _⟩
  · exact sound.setEnvironment rfl rfl
  · exact onward.stays.sound sound

/-! ## What histories lead to -/

/-- A further move adds its source at the end. -/
theorem addedSources_append (id : EnvironmentId) (moves : List HostMove) (move : HostMove) :
    addedSources id (moves ++ [move]) = addedSources id moves ++ (move.source? id).toList := by
  unfold addedSources
  rw [List.filterMap_append]
  cases known : move.source? id <;> simp [known]

/-- A move puts the source that it adds to an environment behind those already there. -/
theorem HostMove.sources {world : World} {move : HostMove} (fits : move.Fits world)
    (id : EnvironmentId) :
    ((left move.perform world).environment id).sources =
      (world.environment id).sources ++ (move.source? id).toList := by
  rcases adds_or_onward fits with ⟨other, label, kept, reply, rfl⟩ | ⟨onward, silent⟩
  · rw [left_addSource, environment_setEnvironment]
    by_cases here : id = other
    · subst here
      rw [if_pos ⟨rfl, fits⟩]
      simp [source?]
    · rw [if_neg fun both => here both.1]
      simp [source?, Ne.symm here]
  · rw [onward.stays.sources, silent]
    simp

/-- Every world that a history leads to is sound, and each environment asks the standard sources
first and then those that the host has added to it, in order. -/
theorem Reached.spec {moves : List HostMove} {world : World} (reached : Reached moves world) :
    Sound world ∧
      ∀ id, (world.environment id).sources = standardSources ++ addedSources id moves := by
  induction reached with
  | start files => exact ⟨Sound.initial files, fun id => rfl⟩
  | step reached move fits ih =>
    obtain ⟨sound, sources⟩ := ih
    refine ⟨move.sound sound fits, fun id => ?_⟩
    rw [HostMove.sources fits, sources, addedSources_append, List.append_assoc]

/-- Every environment of a world that a history leads to has its place there, with its storage. -/
theorem Reached.houses {moves : List HostMove} {world : World} (reached : Reached moves world)
    {id : EnvironmentId} (there : id.index < world.environments.size) : world.Houses id := by
  induction reached generalizing id with
  | start files => exact absurd there (Nat.not_lt_zero _)
  | step reached move fits ih => exact (move.course fits).houses (fun _ => ih) id there

end ScriptHost
