import ScriptHost.Proofs.Environment.History
import ScriptHost.Proofs.Environment.Hooks

/-!
# Which value a name selects

A look-up goes through the reserved names, the storage with its hooks, the core
functions, the system libraries and the answers of the host's sources, and the first
that has a value for the name decides. What it selects is a matter of the storage and of
the sources as they are at that moment, as long as hooks and sources have no effects that
a look-up could notice. Earlier look-ups have no part in it.
-/

namespace ScriptHost

open ScriptHost.Action World

/-- What a name stands for. -/
inductive Selected where
  | value (value : Value)
  | core (function : CoreFunction)
  | library (name : Library)

/-- Whether a value is what was selected: that very value, the function of an environment, or the
object of a library. -/
def Selected.Shown (world : World) (id : EnvironmentId) (value : Value) : Selected → Prop
  | .value content => value = content
  | .core function => ∃ made, value = .function made ∧
    world.functions[made.index]? = some (function.bound id)
  | .library name => ∃ made given, value = .object made ∧
    world.object made = .library name given

/-- What a source of the host has for a name: an answer, nothing, or why it has neither. -/
abbrev Answer : Type := Except Interrupt (Option Value)

/-- The first of several answers that is not nothing. -/
def firstAnswer : List Answer → Answer
  | [] => .ok none
  | .ok none :: rest => firstAnswer rest
  | decided :: _ => decided

/-- What a name selects that only the host knows: the first answer to it, else `nil`. -/
def hostSelection (answers : List Answer) : Except Interrupt Selected :=
  match firstAnswer answers with
  | .ok answer => .ok (.value (answer.getD .nil))
  | .error interrupt => .error interrupt

/-- What a name selects that the storage does not have: a core function, else a library, else what
the host knows. -/
def unstoredSelection (name : String) (answers : List Answer) : Except Interrupt Selected :=
  match CoreFunction.ofLabel? name, Library.ofLabel? name with
  | some function, _ => .ok (.core function)
  | none, some library => .ok (.library library)
  | none, none => hostSelection answers

/-- What a name selects, given what reading the storage gives and the answers of the host. -/
def selection (name : String) (stored : Except Interrupt Value) (answers : List Answer) :
    Except Interrupt Selected :=
  if name = TypeTree.rootName then .ok (.value (.node TypeTree.root))
  else if name = Environment.versionName then .ok (.value (.text Environment.versionText))
  else
    match stored with
    | .error interrupt => .error interrupt
    | .ok .nil => unstoredSelection name answers
    | .ok value => .ok (.value value)

/-- A look-up that gives what was selected, and fails with what the selection fails with. -/
def Selects (action : Action Value) (world : World) (id : EnvironmentId) :
    Except Interrupt Selected → Prop
  | .ok selected => ∃ value, outcome action world = .ok value ∧
    selected.Shown (left action world) id value
  | .error interrupt => outcome action world = .error interrupt

/-- The replies of the sources that moves add to an environment, in order. -/
def addedReplies (id : EnvironmentId) (moves : List HostMove) : List Reply :=
  (addedSources id moves).filterMap Source.reply?

/-- Moves add sources of the host. -/
theorem isSome_reply? {id : EnvironmentId} {moves : List HostMove} {source : Source}
    (added : source ∈ addedSources id moves) : source.reply?.isSome := by
  obtain ⟨move, _, given⟩ := List.mem_filterMap.mp added
  cases move with
  | addSource other label kept reply =>
    simp only [HostMove.source?, Option.ite_none_right_eq_some] at given
    obtain rfl := Option.some.inj given.2
    rfl
  | _ => contradiction

/-- What sources of the host have for a name of an environment, asked in a world. -/
def answersIn (world : World) (held : List Reference) (id : EnvironmentId) (name : String)
    (replies : List Reply) : List Answer :=
  replies.map fun reply => outcome (Environment.answerOfHost caller held (reply id name)) world

/-- The replies of sources of the host have no effects that a look-up could notice: they give the
same in all enrichments of a world and do no more than enrich it. -/
def SteadyReplies (world : World) (id : EnvironmentId) (replies : List Reply) : Prop :=
  ∀ reply ∈ replies, ∀ held name,
    Steady (Environment.answerOfHost caller held (reply id name)) world

namespace Environment

/-! ## Single sources -/

section Sources

variable {held : List Reference} {id : EnvironmentId} {name : String} {base world : World}

/-- An environment's value of a core function is that function, at home there. -/
theorem coreValue_spec (sound : Sound world) (id : EnvironmentId) (function : CoreFunction) :
    ∃ made, outcome (coreValue id id function) world = .ok (.function made) ∧
      (left (coreValue id id function) world).functions[made.index]? = some (function.bound id) := by
  unfold coreValue
  rw [outcome_view_bind, left_view_bind]
  cases known : (world.environment id).coreMade.lookup function with
  | some made => exact ⟨made, rfl, sound.core id function made known⟩
  | none => exact ⟨⟨world.functions.size⟩, rfl, Array.getElem?_push_size⟩

/-- An environment's object of a library is that library. -/
theorem libraryValue_spec (sound : Sound world) (id : EnvironmentId) (library : Library) :
    ∃ made given, outcome (libraryValue id library) world = .ok (.object made) ∧
      (left (libraryValue id library) world).object made = .library library given := by
  unfold libraryValue
  rw [outcome_view_bind, left_view_bind]
  cases known : (world.environment id).librariesMade.lookup library with
  | some made =>
    obtain ⟨given, there⟩ := sound.library id library made known
    exact ⟨made, given, rfl, there⟩
  | none =>
    refine ⟨⟨world.objects.size⟩, [], rfl, ?_⟩
    show World.object { world with objects := world.objects.push (.library library []) } _ = _
    rw [object_push, if_pos rfl]

/-- The value that sources in order give, `nil` where none answers. -/
def valueFrom (held : List Reference) (id : EnvironmentId) (name : String)
    (sources : List Source) : Action Value := do
  return (← resolve caller held id id name sources).getD .nil

variable {source : Source} {rest : List Source}

/-- A source that fails makes the look-up fail. -/
theorem selects_of_failing {interrupt : Interrupt}
    (answered : outcome (answer caller held id id name source) world = .error interrupt) :
    Selects (valueFrom held id name (source :: rest)) world id (.error interrupt) := by
  unfold valueFrom resolve
  exact (bind_of_error _ _ world (bind_of_error _ _ world answered).1).1

/-- The first source that answers decides. -/
theorem selects_of_answering {value : Value} {selected : Selected}
    (answered : outcome (answer caller held id id name source) world = .ok (some value))
    (shown : selected.Shown (left (answer caller held id id name source) world) id value) :
    Selects (valueFrom held id name (source :: rest)) world id (.ok selected) := by
  have resolved : outcome (resolve caller held id id name (source :: rest)) world = .ok (some value) ∧
      left (resolve caller held id id name (source :: rest)) world =
        left (answer caller held id id name source) world :=
    bind_of_ok _ _ world answered
  obtain ⟨given, leaves⟩ := bind_of_ok _ (fun found => pure (found.getD .nil)) world resolved.1
  refine ⟨value, given, ?_⟩
  have world : left (valueFrom held id name (source :: rest)) world =
      left (answer caller held id id name source) world := leaves.trans resolved.2
  rw [world]
  exact shown

/-- A source that does not answer leaves the look-up to those behind it. -/
theorem selects_of_silent {decided : Except Interrupt Selected}
    (answered : outcome (answer caller held id id name source) world = .ok none)
    (further : Selects (valueFrom held id name rest)
      (left (answer caller held id id name source) world) id decided) :
    Selects (valueFrom held id name (source :: rest)) world id decided := by
  have given := eq_outcome_left (answer caller held id id name source) world
  rw [answered] at given
  have same : valueFrom held id name (source :: rest) world =
      valueFrom held id name rest (left (answer caller held id id name source) world) := by
    unfold valueFrom
    rw [resolve]
    simp only [bind, EStateM.bind, given]
  have outcomes : outcome (valueFrom held id name (source :: rest)) world =
      outcome (valueFrom held id name rest) (left (answer caller held id id name source) world) := by
    rw [outcome, same]
    rfl
  have worlds : left (valueFrom held id name (source :: rest)) world =
      left (valueFrom held id name rest) (left (answer caller held id id name source) world) := by
    rw [left, same]
    rfl
  cases decided with
  | ok selected =>
    obtain ⟨value, result, shown⟩ := further
    exact ⟨value, outcomes.trans result, worlds ▸ shown⟩
  | error interrupt => exact outcomes.trans further

/-- A source that makes its answer decides by what it has made. -/
theorem selects_of_making {make : Action Value}
    (answered : answer caller held id id name source = do return some (← make))
    {value : Value} {selected : Selected} (given : outcome make world = .ok value)
    (shown : selected.Shown (left make world) id value) :
    Selects (valueFrom held id name (source :: rest)) world id (.ok selected) := by
  obtain ⟨result, leaves⟩ := bind_of_ok make (fun value => pure (some value)) world given
  rw [← answered] at result leaves
  apply selects_of_answering result
  rw [leaves]
  exact shown

/-- A source that has its answer at hand decides. -/
theorem selects_of_having {value : Value}
    (answered : answer caller held id id name source = pure (some value)) :
    Selects (valueFrom held id name (source :: rest)) world id (.ok (.value value)) := by
  have given : outcome (answer caller held id id name source) world = .ok (some value) := by
    rw [answered]
    rfl
  exact selects_of_answering given rfl

/-- A source that does not know the name leaves the look-up to those behind it. -/
theorem selects_of_lacking {decided : Except Interrupt Selected}
    (answered : answer caller held id id name source = pure none)
    (further : Selects (valueFrom held id name rest) world id decided) :
    Selects (valueFrom held id name (source :: rest)) world id decided := by
  apply selects_of_silent
  · rw [answered]
    rfl
  · rw [answered]
    exact further

/-- Sources of the host decide by the first of their answers, which are the same in every
enrichment. -/
theorem selects_of_hosts (enriches : Enriches base world)
    (hosts : ∀ source ∈ rest, source.reply?.isSome)
    (steady : SteadyReplies base id (rest.filterMap Source.reply?)) :
    Selects (valueFrom held id name rest) world id
      (hostSelection (answersIn base held id name (rest.filterMap Source.reply?))) := by
  induction rest generalizing world with
  | nil => exact ⟨_, rfl, rfl⟩
  | cons source rest ih =>
    obtain ⟨given, others⟩ := List.forall_mem_cons.mp hosts
    cases source with
    | host label kept reply =>
      obtain ⟨calm, calmOthers⟩ := List.forall_mem_cons.mp
        (show ∀ other ∈ reply :: rest.filterMap Source.reply?, _ from steady)
      have same := (calm held name).same world enriches
      have further := enriches.trans ((calm held name).enriches world enriches)
      show Selects _ world id (hostSelection (outcome (answerOfHost caller held (reply id name)) base ::
        answersIn base held id name (rest.filterMap Source.reply?)))
      rw [← same]
      unfold hostSelection firstAnswer
      cases answered : outcome (answerOfHost caller held (reply id name)) world with
      | error interrupt => exact selects_of_failing answered
      | ok found =>
        cases found with
        | some value => exact selects_of_answering answered rfl
        | none => exact selects_of_silent answered (ih further others calmOthers)
    | _ => contradiction

/-- Behind the storage core functions decide, then system libraries, then the host. -/
theorem selects_of_builtins (sound : Sound world) (enriches : Enriches base world)
    (hosts : ∀ source ∈ rest, source.reply?.isSome)
    (steady : SteadyReplies base id (rest.filterMap Source.reply?)) :
    Selects (valueFrom held id name (.coreFunctions :: .systemLibraries :: rest)) world id
      (unstoredSelection name (answersIn base held id name (rest.filterMap Source.reply?))) := by
  unfold unstoredSelection
  cases core : CoreFunction.ofLabel? name with
  | some function =>
    have answered : answer caller held id id name .coreFunctions = do
        return some (← coreValue id id function) := by
      unfold answer
      rw [core]
    obtain ⟨made, given, there⟩ := coreValue_spec sound id function
    exact selects_of_making answered given ⟨made, rfl, there⟩
  | none =>
    have unnamed : answer caller held id id name .coreFunctions = pure none := by
      unfold answer
      rw [core]
    apply selects_of_lacking unnamed
    cases known : Library.ofLabel? name with
    | some library =>
      have answered : answer caller held id id name .systemLibraries = do
          return some (← libraryValue id library) := by
        unfold answer
        rw [known]
      obtain ⟨made, members, given, there⟩ := libraryValue_spec sound id library
      exact selects_of_making answered given ⟨made, members, rfl, there⟩
    | none =>
      have unknown : answer caller held id id name .systemLibraries = pure none := by
        unfold answer
        rw [known]
      exact selects_of_lacking unknown (selects_of_hosts enriches hosts steady)

/-- The storage decides by what is read from it, and leaves `nil` to what is behind it. -/
theorem selects_of_storage (sound : Sound world) (enriches : Enriches base world)
    (hooks : caller.SteadyHooks base) (hosts : ∀ source ∈ rest, source.reply?.isSome)
    (steady : SteadyReplies base id (rest.filterMap Source.reply?)) :
    Selects
      (valueFrom held id name (.storage :: .coreFunctions :: .systemLibraries :: rest)) world id
      (match outcome (readStorage caller held id name) base with
      | .error interrupt => .error interrupt
      | .ok .nil =>
        unstoredSelection name (answersIn base held id name (rest.filterMap Source.reply?))
      | .ok value => .ok (.value value)) := by
  have read := readStorage_steady hooks held id name
  rw [← read.same world enriches]
  cases stored : outcome (readStorage caller held id name) world with
  | error interrupt =>
    apply selects_of_failing
    rw [answer_storage]
    exact (bind_of_error _ _ world stored).1
  | ok value =>
    obtain ⟨given, leaves⟩ := bind_of_ok _
      (fun value => pure (if value.isNil then none else some value)) world stored
    rw [← answer_storage _ _ id] at given leaves
    cases value with
    | nil =>
      apply selects_of_silent given
      have later : Later world (left (answer caller held id id name .storage) world) :=
        answer_keeps caller_keeps held id name .storage world
      refine selects_of_builtins (sound.later later) ?_ hosts steady
      rw [leaves]
      exact enriches.trans (read.enriches world enriches)
    | _ => exact selects_of_answering given rfl

end Sources

/-! ## All sources -/

/-- With the standard sources in front and sources of the host behind them, a look-up gives what
the name selects, given what reading the storage and asking the host give in a world that the
present one is an enrichment of. -/
theorem getGlobal_selects {base world : World} (sound : Sound world)
    (enriches : Enriches base world) (hooks : caller.SteadyHooks base) {id : EnvironmentId}
    {added : List Source} (sources : (world.environment id).sources = standardSources ++ added)
    (hosts : ∀ source ∈ added, source.reply?.isSome)
    (steady : SteadyReplies base id (added.filterMap Source.reply?)) (held : List Reference)
    (name : String) :
    Selects (getGlobal caller held id name) world id
      (selection name (outcome (readStorage caller held id name) base)
        (answersIn base held id name (added.filterMap Source.reply?))) := by
  show Selects (valueFrom held id name (world.environment id).sources) world id _
  rw [sources]
  unfold standardSources selection
  simp only [List.cons_append, List.nil_append]
  by_cases isRoot : name = TypeTree.rootName
  · rw [if_pos isRoot]
    apply selects_of_having
    unfold answer
    dsimp only
    rw [if_pos isRoot]
  rw [if_neg isRoot]
  by_cases isVersion : name = versionName
  · rw [if_pos isVersion]
    apply selects_of_having
    unfold answer
    dsimp only
    rw [if_neg isRoot, if_pos isVersion]
  rw [if_neg isVersion]
  have unreserved : answer caller held id id name .reserved = pure none := by
    unfold answer
    dsimp only
    rw [if_neg isRoot, if_neg isVersion]
  exact selects_of_lacking unreserved (selects_of_storage sound enriches hooks hosts steady)

/-! ## What look-ups leave -/

/-- Making a core function's value enriches the world. -/
theorem coreValue_enriches (id : EnvironmentId) (function : CoreFunction) :
    Keeps Enriches (coreValue id id function) := by
  intro world
  unfold coreValue
  rw [left_view_bind]
  cases (world.environment id).coreMade.lookup function with
  | some made => exact Enriches.refl world
  | none =>
    exact (Enriches.pushFunction world _).trans (Enriches.setEnvironment _ rfl rfl rfl rfl)

/-- Making a library's object enriches the world. -/
theorem libraryValue_enriches (id : EnvironmentId) (library : Library) :
    Keeps Enriches (libraryValue id library) := by
  intro world
  unfold libraryValue
  rw [left_view_bind]
  cases (world.environment id).librariesMade.lookup library with
  | some made => exact Enriches.refl world
  | none => exact (Enriches.pushObject world _).trans (Enriches.setEnvironment _ rfl rfl rfl rfl)

/-- A look-up enriches the enrichments of a world at most. -/
theorem getGlobal_enriching {world : World} (hooks : caller.SteadyHooks world)
    (held : List Reference) (id : EnvironmentId) (name : String)
    (steady : SteadyReplies world id ((world.environment id).sources.filterMap Source.reply?)) :
    Keeps (Since Enriches world) (getGlobal caller held id name) :=
  getGlobal_keeps_since (coreValue_enriches id) (libraryValue_enriches id)
    (fun _ table => (hookedFrom_steady hooks _ name hookDepth table).enriches)
    (fun _ enriched => enriched.sources id) held
    fun reply listed => (steady reply listed held name).enriches

end Environment

end ScriptHost
