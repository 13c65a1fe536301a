import ScriptHost.Proofs.Host.Moves
import ScriptHost.Proofs.Isolation.Evaluation

/-!
# Moves on one environment are confined

A move on an environment names that environment or none, and hands some things over. Where the
environment and all these things are safe, the move stays with what is safe.
-/

namespace ScriptHost

open ScriptHost.Action World

namespace HostMove

/-- A move on one environment: it names that environment or none. Launching another one and
registering a host type are moves on none. -/
def On (id : EnvironmentId) : HostMove → Prop
  | launch _ _ _ | register _ => False
  | drop other | addSource other _ _ _ | setGlobal other _ _ | addPackage other _ _
  | lookUp _ other _ | runText _ other _ _ _ | runFile _ other _ _ | runBytes _ other _ _ _
  | runChunk _ other _ _ | store _ other _ _ _ | collect other | takeOutput other => other = id
  | call context _ _ | callMethod context _ _ _ | read context _ _ =>
    ∀ other, context.environment = some other → other = id
  | installHook _ _ | rawSet _ _ _ | makeTable _ | makeFunction _ | makeObject _ | unregister _
  | remember _ _ | hold _ => True

/-- What a move hands over besides the environment it is on. -/
def Hands (target : Reference) : HostMove → Prop
  | addSource _ label kept reply => (Source.host label kept reply).Refers target
  | installHook table hook => .reference target ∈ [Value.table table, hook]
  | setGlobal _ _ value => value = .reference target
  | rawSet table key value => .reference target ∈ [Value.table table, key, value]
  | runText _ _ _ _ arguments | runFile _ _ _ arguments | runBytes _ _ _ _ arguments =>
    .reference target ∈ arguments.map (·.2)
  | runChunk _ _ chunk arguments =>
    .reference target ∈ arguments ∨ ∃ code, chunk.code = some code ∧ code.Refers target
  | call _ callee arguments => .reference target ∈ callee :: arguments
  | callMethod _ object _ arguments => .reference target ∈ object :: arguments
  | read _ object key => .reference target ∈ [object, key]
  | store _ _ object key value => .reference target ∈ [object, key, value]
  | remember key value => .reference target ∈ [key, value]
  | makeTable table => table.Refers target
  | makeFunction function => function.Refers target
  | makeObject object => ∃ library made entry, object = .library library made ∧ entry ∈ made ∧
      target = .function entry.2
  | _ => False

variable {safe : Reference → Prop}

/-- Installing a safe hook on a safe table is confined. -/
theorem installHook_confined {id : TableId} {hook : Value} (holds : safe (.table id))
    (within : hook.Within safe) : Confines safe (fun _ _ => True) (id.installHook hook) := by
  unfold TableId.installHook
  refine Confines.view_table holds fun table known => ?_
  refine confines_putTable holds fun target refers => ?_
  cases refers with
  | key entry => exact known target (.key entry)
  | value entry => exact known target (.value entry)
  | hook installed =>
    dsimp only at installed
    split at installed
    · contradiction
    · exact within target (Option.some.inj installed)

/-- A move on a safe environment that hands over safe things is confined. -/
theorem confined {id : EnvironmentId} {move : HostMove} (on : move.On id)
    (holds : safe (.environment id)) (hands : ∀ target, move.Hands target → safe target) :
    Confines safe (fun _ _ => True) move.perform := by
  have all {values : List Value} (given : ∀ target, .reference target ∈ values → safe target) :
      AllWithin safe values := by
    rintro value member target rfl
    exact given target member
  have inside {context : Context} (on : ∀ other, context.environment = some other → other = id) :
      context.Within safe :=
    fun other same => on other same ▸ holds
  cases move with
  | launch => exact False.elim on
  | register => exact False.elim on
  | drop => exact Environment.drop_confined (on ▸ holds)
  | addSource => exact Environment.addSource_confined (on ▸ holds) hands
  | installHook =>
    have given := allWithin_cons.mp (all hands)
    exact installHook_confined (within_reference.mp given.1) (allWithin_cons.mp given.2).1
  | setGlobal _ name =>
    exact Environment.setGlobal_confined (on ▸ holds) name hands
  | rawSet =>
    obtain ⟨table, rest⟩ := allWithin_cons.mp (all hands)
    obtain ⟨key, rest⟩ := allWithin_cons.mp rest
    exact (confines_rawSet (within_reference.mp table) key (allWithin_cons.mp rest).1).discard
  | addPackage => exact Environment.addPackage_confined (on ▸ holds) _ _
  | lookUp => exact (Environment.getGlobal_confined caller_confines (on ▸ holds) _ _).discard
  | runText =>
    exact (Environment.doString_confined caller_confines (on ▸ holds) (all hands) _ _ _).discard
  | runFile =>
    exact (Environment.doFile_confined caller_confines (on ▸ holds) (all hands) _ _).discard
  | runBytes =>
    exact (Environment.doBytes_confined caller_confines (on ▸ holds) (all hands) _ _ _).discard
  | runChunk =>
    have known : Environment.ChunkWithin safe _ := fun code compiled target refers =>
      hands target (.inr ⟨code, compiled, refers⟩)
    exact (Environment.runChunk_confined caller_confines (on ▸ holds) _ known
      (all fun target given => hands target (.inl given))).discard
  | call =>
    obtain ⟨callee, arguments⟩ := allWithin_cons.mp (all hands)
    exact (Value.apply_confined caller_confines (inside on) callee arguments).discard
  | callMethod =>
    obtain ⟨object, arguments⟩ := allWithin_cons.mp (all hands)
    exact (Value.applyMethod_confined caller_confines (inside on) object _ arguments).discard
  | read =>
    obtain ⟨object, rest⟩ := allWithin_cons.mp (all hands)
    exact (Value.index_confined caller_confines (inside on) object (allWithin_cons.mp rest).1).discard
  | store =>
    obtain ⟨object, rest⟩ := allWithin_cons.mp (all hands)
    obtain ⟨key, rest⟩ := allWithin_cons.mp rest
    exact Value.store_confined caller_confines _ (on ▸ holds) object key (allWithin_cons.mp rest).1
  | remember =>
    obtain ⟨key, rest⟩ := allWithin_cons.mp (all hands)
    exact (confines_remember key (allWithin_cons.mp rest).1).discard
  | collect => exact (Environment.collect_confined (on ▸ holds)).discard
  | takeOutput => exact (Environment.takeOutput_confined (on ▸ holds)).discard
  | makeTable => exact (confines_newTable hands).discard
  | makeFunction => exact (confines_newFunction hands).discard
  | makeObject =>
    refine (confines_newObject fun library made same entry member => ?_).discard
    exact hands _ ⟨library, made, entry, same, member, rfl⟩
  | unregister =>
    exact fun world guards =>
      ⟨safe, .of_same rfl { guards with } { Spares.refl safe world with }, fun _ _ => trivial⟩
  | hold =>
    exact fun world guards =>
      ⟨safe, .of_same rfl { guards with } { Spares.refl safe world with }, fun _ _ => trivial⟩

end HostMove

end ScriptHost
