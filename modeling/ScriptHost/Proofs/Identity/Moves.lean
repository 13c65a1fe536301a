import ScriptHost.Proofs.Host.Moves
import ScriptHost.Proofs.Identity.Calls

/-!
# Moves match

Moves of a host match if what they bring in does. From matching worlds they lead to matching
worlds, so functions and objects made before on one side only make no difference to whatever a
host and its scripts do from then on.
-/

namespace ScriptHost

open ScriptHost.Action World

variable {pairing small large : Pairing}

/-! ## Starting environments -/

namespace Environment

/-- Adding a package matches. -/
theorem addPackage_matches (id : EnvironmentId) (name : String) (type : Option HostTypeId) :
    Action.Matches Exactly pairing (addPackage id name type) (addPackage id name type) := by
  unfold addPackage
  split
  · exact matches_throw _
  · split
    · exact matches_throw _
    · next type =>
      have made : Action.Matches Pairing.objects pairing (newObject (.package type))
          (newObject (.package type)) :=
        matches_newObject rfl (fun _ => rfl) fun _ => rfl
      exact made.bind fun _ _ _ _ paired =>
        setGlobal_matches id name (.reference (.object paired))

/-- Adding packages matches. -/
theorem addPackages_matches (id : EnvironmentId) (packages : List (String × String)) :
    Action.Matches Exactly pairing (addPackages id packages) (addPackages id packages) := by
  induction packages with
  | nil => exact matches_pure rfl
  | cons package rest ih =>
    obtain ⟨name, fullName⟩ := package
    unfold addPackages
    refine matches_view_same (fun _ _ _ worlds => worlds.registry) fun registry => ?_
    split
    · exact matches_throw _
    · exact (addPackage_matches id name _).bind fun _ grows _ _ _ => ih.mono grows

/-- Matching compilers start matching environments. -/
theorem new_matches (heap : Heap) (sink : Sink) {compiler other : Compiler}
    (compilers : compiler.Matches pairing other) :
    Action.Matches Exactly pairing (new heap sink compiler) (new heap sink other) := by
  refine (matches_newTable .empty).bind fun _ grows storage _ same => ?_
  subst same
  intro large more left right worlds
  have compilers : compiler.Matches large other := Lasting.mono (le_trans grows more) compilers
  let environment (compiler : Compiler) : Environment := { storage, heap, sink, compiler }
  have environments : (environment compiler).Matches large (environment other) :=
    { storage := rfl
      heap := rfl
      sink := rfl
      hosted := rfl
      compiler := compilers
      sources := .cons .reserved (.cons .storage (.cons .coreFunctions (.cons .systemLibraries .nil))) }
  have id : (⟨left.environments.size⟩ : EnvironmentId) = ⟨right.environments.size⟩ :=
    congrArg EnvironmentId.mk worlds.environments
  exact .ok (le_refl _) (worlds.pushEnvironment environments rfl rfl rfl rfl) id

/-- Matching compilers start matching environments with the packages of settings. -/
theorem launch_matches (settings : Config.Settings) (sink : Sink) {compiler other : Compiler}
    (compilers : compiler.Matches pairing other) :
    Action.Matches Exactly pairing (launch settings sink compiler)
      (launch settings sink other) := by
  refine (new_matches (heapOf settings) sink compilers).bind fun _ _ id _ same => ?_
  subst same
  exact (addPackages_matches id settings.packages).bind fun _ _ _ _ _ => matches_pure rfl

/-- Adding matching sources matches. -/
theorem addSource_matches (id : EnvironmentId) {source other : Source}
    (sources : source.Matches pairing other) :
    Action.Matches Exactly pairing (addSource id source) (addSource id other) :=
  matches_modify fun _ grows _ _ worlds =>
    worlds.setEnvironment id
      { worlds.environment id with
        sources := List.rel_append (worlds.environment id).sources
          (.cons (Lasting.mono grows sources) .nil) } rfl rfl rfl rfl

/-- Taking the captured lines is the same in matching worlds. -/
theorem takeOutput_matches (id : EnvironmentId) :
    Action.Matches Exactly pairing (takeOutput id) (takeOutput id) := by
  have emptied : Action.Matches Exactly pairing
      (changeEnvironment id fun environment => { environment with sink := .capture "" })
      (changeEnvironment id fun environment => { environment with sink := .capture "" }) :=
    matches_changeEnvironment id (fun _ _ _ matched => { matched with sink := rfl })
      fun _ => ⟨rfl, rfl⟩
  unfold takeOutput
  refine (matches_view fun _ _ _ _ worlds => worlds.environment id).bind
    fun _ grows environment other environments => ?_
  rw [environments.sink]
  split
  · exact (emptied.mono grows).bind fun _ _ _ _ _ => matches_pure rfl
  · exact matches_pure rfl

end Environment

/-- Installing matching hooks matches. -/
theorem TableId.installHook_matches (id : TableId) {hook other : Value}
    (hooks : hook.Matches pairing other) :
    Action.Matches Exactly pairing (id.installHook hook) (id.installHook other) := by
  refine (matches_view fun _ _ _ _ worlds => worlds.table id).bind
    fun _ grows table further tables => matches_putTable id ⟨tables.entries, ?_⟩
  rw [hooks.isNil]
  split
  · exact .none
  · exact .some (hooks.mono grows)

/-- Registering matching host types matches. -/
theorem HostType.register_matches {type other : HostType} (types : type.Matches pairing other) :
    Action.Matches Exactly pairing type.register other.register := by
  have made : Action.Matches Exactly pairing (newHostType type) (newHostType other) := by
    intro large grows left right worlds
    have id : (⟨left.hostTypes.size⟩ : HostTypeId) = ⟨right.hostTypes.size⟩ :=
      congrArg HostTypeId.mk worlds.hostTypes
    exact .ok (le_refl _) (worlds.pushHostType (Lasting.mono grows types)) id
  refine made.bind fun _ _ id _ same => ?_
  subst same
  refine matches_modify fun _ _ left right worlds => ?_
  refine worlds.changeRest worlds.memory worlds.held worlds.tree ?_
  rw [worlds.registry, types.fullName]

/-- Removing a host type is the same in matching worlds. -/
theorem Registry.remove_matches (fullName : String) :
    Action.Matches Exactly pairing (Registry.remove fullName) (Registry.remove fullName) := by
  intro large grows left right worlds
  have removed := worlds.changeRest worlds.memory worlds.held worlds.tree
    (congrArg (Registry.unregister · fullName) worlds.registry)
  exact .ok (le_refl _) removed (congrArg (fun registry => (registry.find? fullName).isSome)
    worlds.registry)

/-! ## Moves -/

/-- Moves that do the same with what matches. Objects that a host brings in have handed out
nothing. -/
inductive HostMove.Matches (pairing : Pairing) : HostMove → HostMove → Prop where
  | launch (settings : Config.Settings) (sink : Sink) {compiler other : Compiler}
    (compilers : compiler.Matches pairing other) :
    Matches pairing (.launch settings sink compiler) (.launch settings sink other)
  | drop (id : EnvironmentId) : Matches pairing (.drop id) (.drop id)
  | addSource (id : EnvironmentId) (label : String) {kept others : List Value} {reply other : Reply}
    (sources : (Source.host label kept reply).Matches pairing (.host label others other)) :
    Matches pairing (.addSource id label kept reply) (.addSource id label others other)
  | installHook (table : TableId) {hook other : Value} (hooks : hook.Matches pairing other) :
    Matches pairing (.installHook table hook) (.installHook table other)
  | setGlobal (id : EnvironmentId) (name : String) {value other : Value}
    (values : value.Matches pairing other) :
    Matches pairing (.setGlobal id name value) (.setGlobal id name other)
  | rawSet (table : TableId) {key other value further : Value} (keys : key.Matches pairing other)
    (values : value.Matches pairing further) :
    Matches pairing (.rawSet table key value) (.rawSet table other further)
  | addPackage (id : EnvironmentId) (name : String) (type : Option HostTypeId) :
    Matches pairing (.addPackage id name type) (.addPackage id name type)
  | lookUp (held : List Reference) (id : EnvironmentId) (name : String) :
    Matches pairing (.lookUp held id name) (.lookUp held id name)
  | runText (held : List Reference) (id : EnvironmentId) (source name : String)
    {arguments others : List (String × Value)}
    (given : Environment.ArgumentsMatch pairing arguments others) :
    Matches pairing (.runText held id source name arguments) (.runText held id source name others)
  | runFile (held : List Reference) (id : EnvironmentId) (path : String)
    {arguments others : List (String × Value)}
    (given : Environment.ArgumentsMatch pairing arguments others) :
    Matches pairing (.runFile held id path arguments) (.runFile held id path others)
  | runBytes (held : List Reference) (id : EnvironmentId) (content : ByteArray) (name : String)
    {arguments others : List (String × Value)}
    (given : Environment.ArgumentsMatch pairing arguments others) :
    Matches pairing (.runBytes held id content name arguments)
      (.runBytes held id content name others)
  | runChunk (held : List Reference) (id : EnvironmentId) {chunk other : Chunk}
    (chunks : chunk.Matches pairing other) {arguments others : List Value}
    (given : AllMatch pairing arguments others) :
    Matches pairing (.runChunk held id chunk arguments) (.runChunk held id other others)
  | call (context : Context) {callee other : Value} (callees : callee.Matches pairing other)
    {arguments others : List Value} (given : AllMatch pairing arguments others) :
    Matches pairing (.call context callee arguments) (.call context other others)
  | callMethod (context : Context) {object other : Value} (objects : object.Matches pairing other)
    (name : String) {arguments others : List Value} (given : AllMatch pairing arguments others) :
    Matches pairing (.callMethod context object name arguments)
      (.callMethod context other name others)
  | read (context : Context) {object other key further : Value}
    (objects : object.Matches pairing other) (keys : key.Matches pairing further) :
    Matches pairing (.read context object key) (.read context other further)
  | store (held : List Reference) (id : EnvironmentId) {object other key further value last : Value}
    (objects : object.Matches pairing other) (keys : key.Matches pairing further)
    (values : value.Matches pairing last) :
    Matches pairing (.store held id object key value) (.store held id other further last)
  | remember {key other value further : Value} (keys : key.Matches pairing other)
    (values : value.Matches pairing further) :
    Matches pairing (.remember key value) (.remember other further)
  | collect (id : EnvironmentId) : Matches pairing (.collect id) (.collect id)
  | takeOutput (id : EnvironmentId) : Matches pairing (.takeOutput id) (.takeOutput id)
  | makeTable {table other : Table} (tables : table.Matches pairing other) :
    Matches pairing (.makeTable table) (.makeTable other)
  | makeFunction {function other : Callable} (functions : function.Matches pairing other) :
    Matches pairing (.makeFunction function) (.makeFunction other)
  | makeObject {object other : HostObject} (same : object.bare = other.bare)
    (fresh : ∀ function, object.handedOut function = none)
    (freshRight : ∀ function, other.handedOut function = none) :
    Matches pairing (.makeObject object) (.makeObject other)
  | register {type other : HostType} (types : type.Matches pairing other) :
    Matches pairing (.register type) (.register other)
  | unregister (fullName : String) : Matches pairing (.unregister fullName) (.unregister fullName)
  | hold {value other : Value} (values : value.Matches pairing other) :
    Matches pairing (.hold value) (.hold other)

/-- An action whose result is dropped matches if it does. -/
theorem matches_discard {First Second : Type} {related : Pairing → First → Second → Prop}
    {action : Action First} {other : Action Second}
    (matched : Action.Matches related pairing action other) :
    Action.Matches Exactly pairing (do let _ ← action) (do let _ ← other) :=
  matched.bind fun _ _ _ _ _ => matches_pure rfl

/-- Matching moves do alike. -/
theorem HostMove.Matches.perform {move other : HostMove} (moves : move.Matches pairing other) :
    Action.Matches Exactly pairing move.perform other.perform := by
  have blind := caller_blind
  cases moves with
  | launch settings sink compilers =>
    exact matches_discard (Environment.launch_matches settings sink compilers)
  | drop id =>
    have dropped : Action.Matches Exactly pairing
        (changeEnvironment id fun environment => { environment with hosted := false })
        (changeEnvironment id fun environment => { environment with hosted := false }) :=
      matches_changeEnvironment id (fun _ _ _ matched => { matched with hosted := rfl })
        fun _ => ⟨rfl, rfl⟩
    exact dropped
  | addSource id label sources => exact Environment.addSource_matches id sources
  | installHook table hooks => exact table.installHook_matches hooks
  | setGlobal id name values => exact Environment.setGlobal_matches id name values
  | rawSet table keys values => exact matches_discard (matches_rawSet table keys values)
  | addPackage id name type => exact Environment.addPackage_matches id name type
  | lookUp held id name => exact matches_discard (Environment.getGlobal_matches blind held id name)
  | runText held id source name given =>
    exact matches_discard (Environment.doString_matches blind given held id source name)
  | runFile held id path given =>
    exact matches_discard (Environment.doFile_matches blind given held id path)
  | runBytes held id content name given =>
    exact matches_discard (Environment.doBytes_matches blind given held id content name)
  | runChunk held id chunks given =>
    exact matches_discard (Environment.runChunk_matches blind held id chunks given)
  | call context callees given => exact matches_discard (Value.apply_matches blind context callees given)
  | callMethod context objects name given =>
    exact matches_discard (Value.applyMethod_matches blind context objects name given)
  | read context objects keys => exact matches_discard (Value.index_matches blind context objects keys)
  | store held id objects keys values => exact Value.store_matches blind held id objects keys values
  | remember keys values => exact matches_discard (matches_remember keys values)
  | collect id => exact matches_discard (Environment.collect_matches id)
  | takeOutput id => exact matches_discard (Environment.takeOutput_matches id)
  | makeTable tables => exact matches_discard (matches_newTable tables)
  | makeFunction functions => exact matches_discard (matches_newFunction functions)
  | makeObject same fresh freshRight => exact matches_discard (matches_newObject same fresh freshRight)
  | register types => exact HostType.register_matches types
  | unregister fullName => exact matches_discard (Registry.remove_matches fullName)
  | hold values =>
    intro large grows left right worlds
    have held := worlds.changeRest worlds.memory
      (List.rel_append worlds.held (AllMatch.singleton (values.mono grows))) worlds.tree
      worlds.registry
    exact .ok (le_refl _) held rfl

end ScriptHost
