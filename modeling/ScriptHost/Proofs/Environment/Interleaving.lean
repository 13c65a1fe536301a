import ScriptHost.Proofs.Environment.Selection

/-!
# Look-ups between writes

A host that writes globals, installs hooks and adds sources leads an enriched world to an
enrichment of where it leads the world itself. So look-ups that come in between, however
many and of whichever names, have no part in what a later look-up selects. Runs of scripts
are part of the history before: the functions that a run makes take the next free identities,
which are other ones where look-ups before it have made functions. With runs in between, names
select the same up to which functions and objects there are (`lookUp_regardless`).
-/

namespace ScriptHost

open ScriptHost.Action World

namespace World.Enriches

variable {old new : World}

/-- Environments changed alike leave an enrichment. -/
theorem setEnvironment_both (enriches : Enriches old new) {id : EnvironmentId}
    {before after : Environment} (storage : after.storage = before.storage)
    (sources : after.sources = before.sources) (heap : after.heap = before.heap)
    (hosted : after.hosted = before.hosted) :
    Enriches (old.setEnvironment id before) (new.setEnvironment id after) := by
  have common {Part : Type} (part : Environment → Part) (changed : part after = part before)
      (same : ∀ id, part (new.environment id) = part (old.environment id)) (other : EnvironmentId) :
      part ((new.setEnvironment id after).environment other) =
        part ((old.setEnvironment id before).environment other) := by
    rw [environment_setEnvironment, environment_setEnvironment, enriches.environments]
    split
    · exact changed
    · exact same other
  exact
    { tables := enriches.tables
      functions := enriches.functions
      environments := by
        unfold World.setEnvironment
        rw [Array.size_setIfInBounds, Array.size_setIfInBounds, enriches.environments]
      storage := common Environment.storage storage enriches.storage
      sources := common Environment.sources sources enriches.sources
      heap := common Environment.heap heap enriches.heap
      hosted := common Environment.hosted hosted enriches.hosted
      hostTypes := enriches.hostTypes
      registry := enriches.registry
      tree := enriches.tree
      files := enriches.files
      memory := enriches.memory
      held := enriches.held }

/-- A table changed alike leaves an enrichment. -/
theorem setTable_both (enriches : Enriches old new) (id : TableId) (table : Table) :
    Enriches (old.setTable id table) (new.setTable id table) :=
  { enriches with
    tables := by
      unfold World.setTable
      rw [enriches.tables] }

end World.Enriches

/-- An action has the same outcome in a world and in an enrichment, and leaves the one an enrichment
of the other. -/
def Action.Respects {Result : Type} (action : Action Result) : Prop :=
  ∀ old new, Enriches old new →
    outcome action new = outcome action old ∧ Enriches (left action old) (left action new)

namespace Action

variable {First Second : Type}

/-- A plain action respects enrichment. -/
theorem Plain.respects {action : Action First} (plain : Plain action) : Respects action := by
  intro old new enriches
  rw [plain.still, plain.still]
  exact ⟨plain.blind new old, enriches⟩

/-- Two steps respect enrichment if each does. -/
theorem Respects.bind {first : Action First} {next : First → Action Second}
    (respects : Respects first) (rest : ∀ result, Respects (next result)) :
    Respects (first >>= next) := by
  intro old new enriches
  obtain ⟨same, further⟩ := respects old new enriches
  rw [outcome_bind, outcome_bind, left_bind, left_bind, same]
  cases outcome first old with
  | ok result => exact rest result _ _ further
  | error interrupt => exact ⟨rfl, further⟩

/-- Taking the world respects enrichment if what follows goes by what enrichments have in common. -/
theorem respects_get {rest : World → Action First}
    (common : ∀ old new, Enriches old new → rest new = rest old)
    (respects : ∀ world, Respects (rest world)) : Respects (get >>= rest) := by
  intro old new enriches
  rw [outcome_get_bind, outcome_get_bind, left_get_bind, left_get_bind, common old new enriches]
  exact respects old old new enriches

/-- Storing in a table respects enrichment. -/
theorem rawSet_respects (id : TableId) (key value : Value) : Respects (rawSet id key value) := by
  intro old new enriches
  rw [outcome_rawSet, outcome_rawSet, left_rawSet, left_rawSet, enriches.table]
  refine ⟨rfl, ?_⟩
  cases Key.ofValue? key with
  | some known => exact enriches.setTable_both id _
  | none => exact enriches

end Action

namespace Environment

/-- Charging respects enrichment. -/
theorem charge_respects (id : EnvironmentId) (oldSize newSize : Nat) :
    Respects (charge id oldSize newSize) := by
  intro old new enriches
  unfold charge
  rw [outcome_view_bind, outcome_view_bind, left_view_bind, left_view_bind]
  dsimp only
  rw [enriches.heap]
  split
  · cases (old.environment id).heap.charge? (Heap.word (newSize - oldSize)) with
    | some heap =>
      exact ⟨rfl, enriches.setEnvironment_both (enriches.storage id) (enriches.sources id) rfl
        (enriches.hosted id)⟩
    | none => exact ⟨rfl, enriches⟩
  · exact ⟨rfl, enriches.setEnvironment_both (enriches.storage id) (enriches.sources id) rfl
      (enriches.hosted id)⟩

/-- Writing a global respects enrichment. -/
theorem setGlobal_respects (id : EnvironmentId) (name : String) (value : Value) :
    Respects (setGlobal id name value) := by
  have size {old new : World} (enriches : Enriches old new) (value : Value) :
      globalSize new name value = globalSize old name value := by
    unfold globalSize World.valueSize
    split
    · rfl
    · split
      · rw [enriches.table]
      · rfl
  unfold setGlobal
  refine respects_get (fun old new enriches => ?_) fun world => ?_
  · simp only [enriches.storage, enriches.table, size enriches]
  · refine (charge_respects id _ _).bind fun _ => ?_
    exact (rawSet_respects _ _ _).bind fun _ => (plain_pure _).respects

end Environment

/-! ## Writes with look-ups in between -/

/-- The moves that change what names select without running code. -/
def HostMove.IsWrite : HostMove → Prop
  | .setGlobal _ _ _ | .rawSet _ _ _ | .installHook _ _ | .addSource _ _ _ _ => True
  | _ => False

/-- Writes lead an enriched world to an enrichment. -/
theorem HostMove.IsWrite.enriches {move : HostMove} (write : move.IsWrite) {old new : World}
    (enriches : Enriches old new) :
    Enriches (left move.perform old) (left move.perform new) := by
  cases move with
  | setGlobal id name value => exact (Environment.setGlobal_respects id name value old new enriches).2
  | rawSet table key value =>
    have respects := (rawSet_respects table key value).bind fun _ => (plain_pure ()).respects
    exact (respects old new enriches).2
  | installHook table hook =>
    have installed (world : World) : left (HostMove.installHook table hook).perform world =
        world.setTable table
          { world.table table with hook := if hook.isNil then none else some hook } := rfl
    rw [installed, installed, enriches.table]
    exact enriches.setTable_both table _
  | addSource id label kept reply =>
    rw [HostMove.left_addSource, HostMove.left_addSource]
    refine enriches.setEnvironment_both (enriches.storage id) ?_ (enriches.heap id)
      (enriches.hosted id)
    rw [enriches.sources]
  | _ => exact absurd write id

/-- What an enrichment adds does not stand in the way of a write. -/
theorem HostMove.Fits.enriched {move : HostMove} (write : move.IsWrite) {old new : World}
    (fits : move.Fits old) (enriches : Enriches old new) : move.Fits new := by
  cases move with
  | setGlobal id name value => exact fits
  | rawSet table key value => exact fits
  | installHook table hook =>
    intro function installed
    have there := Array.getElem?_eq_getElem (fits function installed)
    exact (Array.getElem?_eq_some_iff.mp (enriches.functions _ _ there)).1
  | addSource id label kept reply =>
    show id.index < new.environments.size
    rw [enriches.environments]
    exact fits
  | _ => exact absurd write id

/-- Hooks and sources of the host have no effects that a look-up in an environment could notice. -/
structure World.Calm (world : World) (id : EnvironmentId) : Prop where
  hooks : caller.SteadyHooks world
  replies : SteadyReplies world id ((world.environment id).sources.filterMap Source.reply?)

/-- Writes from a start on, made twice: on their own, and with look-ups in between that have no
effects. -/
inductive Interleaved (start : World) : List HostMove → World → World → Prop where
  | refl : Interleaved start [] start start
  | write {writes : List HostMove} {alone mixed : World}
    (before : Interleaved start writes alone mixed) (move : HostMove) (write : move.IsWrite)
    (fits : move.Fits alone) :
    Interleaved start (writes ++ [move]) (left move.perform alone) (left move.perform mixed)
  | lookUp {writes : List HostMove} {alone mixed : World}
    (before : Interleaved start writes alone mixed) (held : List Reference) (id : EnvironmentId)
    (name : String) (calm : alone.Calm id) :
    Interleaved start writes alone (left (Environment.getGlobal caller held id name) mixed)

/-- Writes alone lead on from where a history has led. -/
theorem Interleaved.reached {start alone mixed : World} {moves writes : List HostMove}
    (interleaved : Interleaved start writes alone mixed) (reached : Reached moves start) :
    Reached (moves ++ writes) alone := by
  induction interleaved with
  | refl =>
    rw [List.append_nil]
    exact reached
  | write before move write fits ih =>
    rw [← List.append_assoc]
    exact ih.step move fits
  | lookUp before held id name calm ih => exact ih

/-- With look-ups in between writes lead to an enrichment of where they lead alone. -/
theorem Interleaved.enriches {start alone mixed : World} {writes : List HostMove}
    (interleaved : Interleaved start writes alone mixed) (sound : Sound start) :
    Sound mixed ∧ Enriches alone mixed := by
  induction interleaved with
  | refl => exact ⟨sound, Enriches.refl start⟩
  | write before move write fits ih =>
    obtain ⟨mixedSound, enriches⟩ := ih
    exact ⟨move.sound mixedSound (fits.enriched write enriches), write.enriches enriches⟩
  | lookUp before held id name calm ih =>
    obtain ⟨mixedSound, enriches⟩ := ih
    have later := Environment.getGlobal_keeps caller_keeps held id name
    have more := Environment.getGlobal_enriching calm.hooks held id name calm.replies _ enriches
    exact ⟨mixedSound.later (later _), enriches.trans more⟩

/-- Whatever a host and its scripts have done, and whichever look-ups come in between the writes
after that, a look-up gives what the name selects where the writes alone have led: the root or the
version for their reserved names, else what is read from the storage with its hooks, else the core
function, else the system library, else the first answer of the sources that the host has added,
else `nil`. It fails with what that selection fails with, and only then. Hooks that are functions
and sources of the host are taken to have no effects. -/
theorem lookUp_selects {moves : List HostMove} {start : World} (reached : Reached moves start)
    {writes : List HostMove} {alone mixed : World}
    (interleaved : Interleaved start writes alone mixed) (held : List Reference)
    {id : EnvironmentId} (calm : alone.Calm id) (name : String) :
    Selects (Environment.getGlobal caller held id name) mixed id
      (selection name (outcome (Environment.readStorage caller held id name) alone)
        (answersIn alone held id name (addedReplies id (moves ++ writes)))) := by
  obtain ⟨sound, sources⟩ := (interleaved.reached reached).spec
  obtain ⟨mixedSound, enriches⟩ := interleaved.enriches reached.spec.1
  have behind : (mixed.environment id).sources =
      standardSources ++ addedSources id (moves ++ writes) := by
    rw [enriches.sources, sources]
  have replies := calm.replies
  rw [sources] at replies
  exact Environment.getGlobal_selects mixedSound enriches calm.hooks behind
    (fun source member => isSome_reply? member) replies held name

/-- An answer of the host that is there without an operation does nothing. -/
theorem Environment.answerOfHost_plain {reply : HostCode (Except Failure (Option Value))}
    (outright : ∃ answer, reply = .done answer) (held : List Reference) :
    Plain (answerOfHost caller held reply) := by
  obtain ⟨answer, rfl⟩ := outright
  have run : answerOfHost caller held (.done answer) =
      do return (← ofOutcome (answer.map Option.toList)).head? := rfl
  rw [run]
  exact (plain_ofOutcome _).bind fun _ => plain_pure _

/-- A world is calm where every hook is built in if it is a function, and the sources that the
host has added answer outright. -/
theorem World.calm_of_builtin {world : World} (sound : Sound world)
    (builtIn : ∀ function, world.IsHook function →
      ∃ builtin, (world.function function).body = .builtin builtin) {id : EnvironmentId}
    (outright : ∀ reply ∈ (world.environment id).sources.filterMap Source.reply?,
      ∀ name, ∃ answer, reply id name = .done answer) : world.Calm id where
  hooks := callWithin_steadyHooks sound builtIn callDepth
  replies := fun reply member held name =>
    (Environment.answerOfHost_plain (outright reply member name) held).steady

/-! ## A name taken and given back -/

/-- A host with one environment. -/
def launched : World := left (HostMove.launch {} .elsewhere .script).perform {}

/-- Take `print` for a value of the host. -/
def taking : HostMove := .setGlobal ⟨0⟩ "print" (.boolean true)

/-- Give `print` back. -/
def giving : HostMove := .setGlobal ⟨0⟩ "print" .nil

/-- No hook of a new host is a function, also after changes. -/
theorem not_isHook_of_launched {world : World} (later : Later launched world)
    (function : FunctionId) : ¬ world.IsHook function := by
  rintro ⟨⟨place⟩, hook⟩
  rw [later.kept.hook] at hook
  cases place <;> contradiction

/-- A new host has added no source, also after changes. -/
theorem replies_of_launched {world : World} (later : Later launched world) :
    (world.environment ⟨0⟩).sources.filterMap Source.reply? = [] := by
  rw [later.kept.sources]
  rfl

/-- A new host is calm, and stays so along changes. -/
theorem calm_of_launched {world : World} (later : Later launched world) : world.Calm ⟨0⟩ where
  hooks := fun _ function _ _ hook => absurd hook (not_isHook_of_launched later function)
  replies := by
    rw [replies_of_launched later]
    exact fun _ member => absurd member List.not_mem_nil

/-- Looked up while it was taken, and once given back, a name selects its core function again. -/
theorem lookUp_selects_given_back :
    let lookUp := Environment.getGlobal caller [] ⟨0⟩ "print"
    let taken := left taking.perform launched
    Selects lookUp taken ⟨0⟩ (.ok (.value (.boolean true))) ∧
      Selects lookUp (left lookUp (left giving.perform (left lookUp taken))) ⟨0⟩
        (.ok (.core .print)) := by
  have reached : Reached [.launch {} .elsewhere .script] launched :=
    (Reached.start {}).step (.launch {} .elsewhere .script) trivial
  have first := Environment.setGlobal_keeps ⟨0⟩ "print" (.boolean true) launched
  have second := Environment.setGlobal_keeps ⟨0⟩ "print" .nil (left taking.perform launched)
  have takenCalm := calm_of_launched first
  have givenCalm := calm_of_launched (first.trans second)
  have start : Interleaved launched [] launched launched := .refl
  have taken := start.write taking trivial trivial
  have given := (taken.lookUp [] ⟨0⟩ "print" takenCalm).write giving trivial trivial
  exact ⟨lookUp_selects reached taken [] takenCalm "print",
    lookUp_selects reached (given.lookUp [] ⟨0⟩ "print" givenCalm) [] givenCalm "print"⟩

end ScriptHost
