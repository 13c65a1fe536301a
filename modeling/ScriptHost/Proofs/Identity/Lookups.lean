import ScriptHost.Environment.Charging
import ScriptHost.Environment.Lookup
import ScriptHost.Proofs.Identity.Actions

/-!
# Writes and look-ups that match

Writes charged to an environment, reads with hooks and look-ups of names match when what they
are given does. What is made at its first use need not have been made on both sides before: a
look-up makes it where it is missing and pairs it with what the other side has.
-/

namespace ScriptHost

open ScriptHost.Action World

variable {pairing : Pairing}

/-- A caller that does alike to matching callees with matching arguments. -/
def Caller.Blind (call : Caller) : Prop :=
  ∀ pairing context callee other arguments others, callee.Matches pairing other →
    AllMatch pairing arguments others →
      Action.Matches AllMatch pairing (call context callee arguments) (call context other others)

/-- A caller that does alike to matching callees does alike to paired functions. -/
theorem Caller.Blind.function {call : Caller} (blind : call.Blind) (context : Context)
    {function other : FunctionId} (paired : pairing.functions function other)
    {arguments others : List Value} (given : AllMatch pairing arguments others) :
    Action.Matches AllMatch pairing (call context function arguments) (call context other others) :=
  blind pairing context _ _ _ _ (.function paired) given

/-- Matching values are held alike. -/
theorem Context.keep_matches (context : Context) {values others : List Value}
    (matched : AllMatch pairing values others) : context.keep values = context.keep others := by
  unfold Context.keep
  rw [matched.holds]

namespace Environment

/-! ## Charged writes -/

/-- Charging is the same in matching worlds. -/
theorem charge_matches (id : EnvironmentId) (oldSize newSize : Nat) :
    Action.Matches Exactly pairing (charge id oldSize newSize) (charge id oldSize newSize) := by
  have changed (heap : Heap) : Action.Matches Exactly pairing
      (changeEnvironment id fun environment => { environment with heap })
      (changeEnvironment id fun environment => { environment with heap }) :=
    matches_changeEnvironment id (fun _ _ _ matched => { matched with heap := rfl })
      fun _ => ⟨rfl, rfl⟩
  refine (matches_view fun _ _ _ _ worlds => worlds.environment id).bind
    fun large grows environment other environments => ?_
  dsimp only
  rw [environments.heap]
  split
  · split
    · exact (changed _).mono grows
    · exact matches_throw _
  · exact (changed _).mono grows

variable {key other value further : Value}

/-- Writing matching values under a global name matches. -/
theorem setGlobal_matches (id : EnvironmentId) (name : String)
    (values : value.Matches pairing further) :
    Action.Matches Exactly pairing (setGlobal id name value) (setGlobal id name further) := by
  refine matches_get fun large grows left right worlds => ?_
  have values := values.mono grows
  have size {value further : Value} (values : value.Matches large further) :
      globalSize left name value = globalSize right name further := by
    unfold globalSize
    rw [values.isNil, worlds.valueSize values]
  have olds := (worlds.table (right.environment id).storage).read
    (.content nofun : Key.Matches large (.text name) (.text name))
  dsimp only
  rw [(worlds.environment id).storage, size olds, size values]
  exact (charge_matches id _ _).bind fun _ more _ _ _ =>
    (matches_rawSet _ (.text name) (values.mono more)).map fun _ _ _ _ _ => rfl

/-- Writing matching values to a table matches. -/
theorem storeInTable_matches (id : EnvironmentId) (table : TableId)
    (keys : key.Matches pairing other) (values : value.Matches pairing further) :
    Action.Matches Exactly pairing (storeInTable id table key value)
      (storeInTable id table other further) := by
  refine matches_get fun large grows left right worlds => ?_
  have keys := keys.mono grows
  have values := values.mono grows
  have olds := (worlds.table table).get keys
  dsimp only
  rw [worlds.entrySize keys olds, worlds.entrySize keys values, (worlds.environment id).heap]
  split
  · exact matches_throw _
  · exact (matches_rawSet table keys values).bind fun _ _ _ _ _ => charge_matches id _ _

/-- Collecting is the same in matching worlds. -/
theorem collect_matches (id : EnvironmentId) :
    Action.Matches Exactly pairing (collect id) (collect id) := by
  refine matches_get fun large grows left right worlds => ?_
  dsimp only
  rw [(worlds.environment id).storage, worlds.measure]
  let measured := right.measure (right.environment id).storage
  let change (environment : Environment) : Environment :=
    { environment with
      heap := environment.heap.reset (UInt64.ofNat measured) }
  have changed : Action.Matches Exactly large (changeEnvironment id change)
      (changeEnvironment id change) :=
    matches_changeEnvironment id
      (fun _ _ _ matched => { matched with heap := congrArg (Heap.reset · _) matched.heap })
      fun _ => ⟨rfl, rfl⟩
  exact changed.bind fun _ _ _ _ _ => matches_pure rfl

/-- Printing a line is the same in matching worlds. -/
theorem printLine_matches (id : EnvironmentId) (line : String) :
    Action.Matches Exactly pairing (printLine id line) (printLine id line) := by
  refine matches_changeEnvironment id (fun large first second matched => ?_)
    fun environment => ?_
  · rw [← matched.sink]
    split
    · exact { matched with sink := rfl }
    · exact matched
  · split <;> exact ⟨rfl, rfl⟩

end Environment

/-! ## Reads with hooks -/

/-- Reading a matching key with hooks matches. -/
theorem hookedFrom_matches {call : Caller} (blind : call.Blind) (context : Context)
    {key other : Value} (keys : key.Matches pairing other) (steps : Nat) (id : TableId) :
    Action.Matches Value.Matches pairing (hookedFrom call context key steps id)
      (hookedFrom call context other steps id) := by
  induction steps generalizing id with
  | zero => exact matches_throw _
  | succ steps ih =>
    refine (matches_view fun _ _ _ _ worlds => worlds.table id).bind
      fun large grows table rest tables => ?_
    have keys := keys.mono grows
    have values := tables.get keys
    dsimp only
    rw [values.isNil]
    split
    · exact matches_pure values
    · rcases rel_cases tables.hook with ⟨none, absent⟩ | ⟨hook, further, known, there, hooks⟩
      · rw [none, absent]
        exact matches_pure .nil
      · rw [known, there]
        cases hooks with
        | content scalar =>
          cases hook with
          | reference target => exact absurd rfl (scalar target)
          | _ => exact matches_pure .nil
        | reference matched =>
          cases matched with
          | table next => exact (ih next).mono grows
          | function paired =>
            exact (blind.function context paired (.cons (.table id) (.cons keys .nil))).map
              fun _ _ _ _ given => given.headD
          | _ => exact matches_pure .nil

/-- Reading a matching key with hooks matches, whatever is held meanwhile. -/
theorem hookedGet_matches {call : Caller} (blind : call.Blind) (context : Context) (table : TableId)
    {key other : Value} (keys : key.Matches pairing other) :
    Action.Matches Value.Matches pairing (hookedGet call context table key)
      (hookedGet call context table other) := by
  have held : AllMatch pairing [.table table, key] [.table table, other] :=
    .cons (.table table) (.cons keys .nil)
  unfold hookedGet
  rw [context.keep_matches held]
  exact hookedFrom_matches blind _ keys hookDepth table

/-! ## What is made at its first use -/

/-- A run gives what a slot holds then, and may have made it first. -/
def World.Demands (world : World) (slot : Slot) (action : Action Value) : Prop :=
  ∃ reference later, action world = .ok (.reference reference) later ∧ MadeMore world later ∧
    SameContents world later ∧ later.madeIn slot = some reference

/-- Runs that give what slots that match hold match. -/
theorem World.Matches.demands {left right : World} (worlds : World.Matches pairing left right)
    {slot place : Slot} (slots : slot.Matches pairing place) {action other : Action Value}
    (demands : left.Demands slot action) (demandsRight : right.Demands place other) :
    RunMatches Value.Matches pairing (action left) (other right) := by
  obtain ⟨reference, later, run, more, same, made⟩ := demands
  obtain ⟨further, last, runRight, moreRight, sameRight, there⟩ := demandsRight
  obtain ⟨large, grows, matched, identities⟩ :=
    (worlds.toIdentities.madeMore more moreRight).pairSlots slots made there
  have contents := (worlds.toContents.of_same same sameRight).mono grows
  rw [run, runRight]
  exact .ok grows ⟨contents, identities⟩ (.reference matched)

namespace Environment

/-- A look-up of a core function gives what the environment has made of it. -/
theorem coreValue_demands {world : World} {id : EnvironmentId}
    (inside : id.index < world.environments.size) (function : CoreFunction) :
    world.Demands (.core id function) (coreValue id id function) := by
  unfold coreValue
  cases known : (world.environment id).coreMade.lookup function with
  | some made =>
    exact ⟨.function made, world, by rw [run_view_bind, known]; rfl, .refl world, .refl world,
      by rw [madeIn, known]; rfl⟩
  | none =>
    exact ⟨.function ⟨world.functions.size⟩, world.addCore id function,
      by rw [run_view_bind, known]; rfl, .addCore world known, .addCore world id function,
      MadeMore.madeIn_addCore world known inside⟩

/-- A look-up of a library gives what the environment has made of it. -/
theorem libraryValue_demands {world : World} {id : EnvironmentId}
    (inside : id.index < world.environments.size) (library : Library) :
    world.Demands (.library id library) (libraryValue id library) := by
  unfold libraryValue
  cases known : (world.environment id).librariesMade.lookup library with
  | some made =>
    exact ⟨.object made, world, by rw [run_view_bind, known]; rfl, .refl world, .refl world,
      by rw [madeIn, known]; rfl⟩
  | none =>
    exact ⟨.object ⟨world.objects.size⟩, world.addLibrary id library,
      by rw [run_view_bind, known]; rfl, .addLibrary world known, .addLibrary world id library,
      MadeMore.madeIn_addLibrary world known inside⟩

/-- Changing an environment that is not there changes nothing. -/
theorem setEnvironment_of_outside (world : World) {id : EnvironmentId}
    (outside : world.environments.size ≤ id.index) (environment : Environment) :
    world.setEnvironment id environment = world := by
  unfold World.setEnvironment
  rw [Array.setIfInBounds, dif_neg (Nat.not_lt.mpr outside)]

/-- Looking a core function up matches. -/
theorem coreValue_matches (id : EnvironmentId) (function : CoreFunction) :
    Action.Matches Value.Matches pairing (coreValue id id function) (coreValue id id function) := by
  intro large grows left right worlds
  by_cases inside : id.index < left.environments.size
  · exact worlds.demands (.core id function) (coreValue_demands inside function)
      (coreValue_demands (worlds.environments ▸ inside) function)
  · -- An environment that is not there keeps nothing: each look-up makes another function.
    have run {world : World} (outside : world.environments.size ≤ id.index) :
        coreValue id id function world =
          (do return .function (← newFunction (function.bound id)) : Action Value) world := by
      unfold coreValue
      rw [run_view_bind, world.environment_of_outside outside]
      let grown : World := { world with functions := world.functions.push (function.bound id) }
      exact congrArg (EStateM.Result.ok _) (setEnvironment_of_outside grown outside _)
    rw [run (Nat.le_of_not_lt inside), run (worlds.environments ▸ Nat.le_of_not_lt inside)]
    have made : Action.Matches Pairing.functions large (newFunction (function.bound id))
        (newFunction (function.bound id)) :=
      matches_newFunction ⟨rfl, rfl, .builtin _⟩
    exact (made.map fun _ _ _ _ paired => .reference (.function paired)) large (le_refl _) left right
      worlds

/-- Looking a library up matches. -/
theorem libraryValue_matches (id : EnvironmentId) (library : Library) :
    Action.Matches Value.Matches pairing (libraryValue id library) (libraryValue id library) := by
  intro large grows left right worlds
  by_cases inside : id.index < left.environments.size
  · exact worlds.demands (.library id library) (libraryValue_demands inside library)
      (libraryValue_demands (worlds.environments ▸ inside) library)
  · have run {world : World} (outside : world.environments.size ≤ id.index) :
        libraryValue id library world =
          (do return .object (← newObject (.library library [])) : Action Value) world := by
      unfold libraryValue
      rw [run_view_bind, world.environment_of_outside outside]
      let grown : World := { world with objects := world.objects.push (.library library []) }
      exact congrArg (EStateM.Result.ok _) (setEnvironment_of_outside grown outside _)
    rw [run (Nat.le_of_not_lt inside), run (worlds.environments ▸ Nat.le_of_not_lt inside)]
    have made : Action.Matches Pairing.objects large (newObject (.library library []))
        (newObject (.library library [])) :=
      matches_newObject rfl (fun _ => rfl) fun _ => rfl
    exact (made.map fun _ _ _ _ paired => .reference (.object paired)) large (le_refl _) left right
      worlds

/-! ## Look-ups of names -/

/-- Code of the host that answers a name matches other code if it does so step by step. -/
theorem answerOfHost_matches {call : Caller} (blind : call.Blind) (held : List Reference)
    {code other : HostCode (Except Failure (Option Value))}
    (codes : HostCode.Matches AnswerMatches pairing code other) :
    Action.Matches (OptionMatches Value.Matches) pairing (answerOfHost call held code)
      (answerOfHost call held other) := by
  have routines : Routine.Matches pairing
      (fun _ => code.bind fun answer => .done (answer.map Option.toList))
      (fun _ => other.bind fun answer => .done (answer.map Option.toList)) := by
    intro large grows _ _ _
    have codes : HostCode.Matches AnswerMatches large code other := Lasting.mono grows codes
    refine codes.bind fun _ _ answer further answers => .done ?_
    cases answers with
    | error failure => exact .error failure
    | ok found =>
      cases found with
      | none => exact .ok .nil
      | some values => exact .ok (AllMatch.singleton values)
  exact (blind pairing { held } _ _ [] [] routines.callee .nil).map fun _ _ _ _ given => given.head?

/-- Sources that match answer alike. -/
theorem answer_matches {call : Caller} (blind : call.Blind) (held : List Reference)
    (id : EnvironmentId) (name : String) {source other : Source}
    (sources : source.Matches pairing other) :
    Action.Matches (OptionMatches Value.Matches) pairing (answer call held id id name source)
      (answer call held id id name other) := by
  cases sources with
  | reserved =>
    unfold answer
    dsimp only
    split
    · exact matches_pure (.some (.node _))
    · split
      · exact matches_pure (.some (.text _))
      · exact matches_pure .none
  | storage =>
    unfold answer
    refine (matches_view fun _ _ _ _ worlds => worlds.environment id).bind
      fun large grows environment other environments => ?_
    dsimp only
    rw [environments.storage]
    refine (hookedGet_matches blind _ _ (.text name)).map fun _ _ value further values => ?_
    rw [values.isNil]
    split
    · exact .none
    · exact .some values
  | coreFunctions =>
    unfold answer
    dsimp only
    split
    · exact (coreValue_matches id _).map fun _ _ _ _ values => .some values
    · exact matches_pure .none
  | systemLibraries =>
    unfold answer
    dsimp only
    split
    · exact (libraryValue_matches id _).map fun _ _ _ _ values => .some values
    · exact matches_pure .none
  | host label values replies => exact answerOfHost_matches blind held (replies id name)

/-- Sources that match resolve names alike. -/
theorem resolve_matches {call : Caller} (blind : call.Blind) (held : List Reference)
    (id : EnvironmentId) (name : String) {sources others : List Source}
    (matched : List.Forall₂ (Source.Matches pairing) sources others) :
    Action.Matches (OptionMatches Value.Matches) pairing (resolve call held id id name sources)
      (resolve call held id id name others) := by
  induction matched with
  | nil => exact matches_pure .none
  | cons first _ ih =>
    unfold resolve
    refine (answer_matches blind held id name first).bind fun large grows found other answers => ?_
    cases answers with
    | none => exact ih.mono grows
    | some values => exact matches_pure (.some values)

/-- Looking a name up matches. -/
theorem getGlobal_matches {call : Caller} (blind : call.Blind) (held : List Reference)
    (id : EnvironmentId) (name : String) :
    Action.Matches Value.Matches pairing (getGlobal call held id name)
      (getGlobal call held id name) := by
  refine (matches_view fun _ _ _ _ worlds => worlds.environment id).bind
    fun large grows environment other environments => ?_
  refine (resolve_matches blind held id name environments.sources).map
    fun _ _ found other answers => ?_
  cases answers with
  | none => exact .nil
  | some values => exact values

end Environment

end ScriptHost
