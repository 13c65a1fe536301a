import ScriptHost.Environment.Launch
import ScriptHost.Environment.Lookup
import ScriptHost.Proofs.Isolation.Confinement

/-!
# The operations of environments are confined

Writes, collections, printed lines and look-ups of a safe environment stay with what is safe.
-/

namespace ScriptHost

open ScriptHost.Action World

variable {safe : Reference → Prop}

/-- Changing a safe environment in other things than what it refers to is confined. -/
theorem confines_change_of_same {id : EnvironmentId} {change : Environment → Environment}
    (holds : safe (.environment id))
    (storage : ∀ environment, (change environment).storage = environment.storage)
    (sources : ∀ environment, (change environment).sources = environment.sources)
    (coreMade : ∀ environment, (change environment).coreMade = environment.coreMade)
    (librariesMade : ∀ environment,
      (change environment).librariesMade = environment.librariesMade)
    (compiler : ∀ environment, (change environment).compiler = environment.compiler) :
    Confines safe (fun _ _ => True) (changeEnvironment id change) := by
  refine confines_changeEnvironment holds fun environment within target refers => ?_
  cases refers with
  | storage =>
    rw [storage]
    exact within _ .storage
  | source member refers => exact within _ (.source (sources environment ▸ member) refers)
  | compiler refers => exact within _ (.compiler (compiler environment ▸ refers))
  | core member => exact within _ (.core (coreMade environment ▸ member))
  | library member => exact within _ (.library (librariesMade environment ▸ member))

namespace Environment

section Writes

variable {id : EnvironmentId} (holds : safe (.environment id))
include holds

/-- Charging is confined. -/
theorem charge_confined (oldSize newSize : Nat) :
    Confines safe (fun _ _ => True) (charge id oldSize newSize) := by
  have changed (heap : Heap) : Confines safe (fun _ _ => True)
      (changeEnvironment id fun environment => { environment with heap }) :=
    confines_change_of_same holds (fun _ => rfl) (fun _ => rfl) (fun _ => rfl) (fun _ => rfl)
      fun _ => rfl
  unfold charge
  refine Confines.of_view fun environment => ?_
  dsimp only
  split
  · split
    · exact changed _
    · exact confines_throw _
  · exact changed _

/-- Writing a safe value to a global is confined. -/
theorem setGlobal_confined (name : String) {value : Value} (within : value.Within safe) :
    Confines safe (fun _ _ => True) (setGlobal id name value) := by
  unfold setGlobal
  refine Confines.of_get fun world guards => ?_
  have storage := guards.environments id holds _ .storage
  refine (charge_confined holds _ _).bind fun _ grows _ _ => ?_
  exact (confines_rawSet (grows _ storage) (within_text name) (within.mono grows)).discard

/-- Writing a safe value under a safe key to a safe table is confined. -/
theorem storeInTable_confined {table : TableId} (tableSafe : safe (.table table))
    {key value : Value} (keySafe : key.Within safe) (within : value.Within safe) :
    Confines safe (fun _ _ => True) (storeInTable id table key value) := by
  unfold storeInTable
  refine Confines.of_get fun world _ => ?_
  dsimp only
  split
  · exact confines_throw _
  · exact (confines_rawSet tableSafe keySafe within).bind fun _ grows _ _ =>
      charge_confined (grows _ holds) _ _

/-- Collecting is confined. -/
theorem collect_confined : Confines safe (fun _ _ => True) (collect id) := by
  unfold collect
  refine Confines.of_get fun world _ => ?_
  refine Confines.bind (confines_change_of_same holds ?_ ?_ ?_ ?_ ?_) fun _ _ _ _ => confines_any _
  all_goals exact fun _ => rfl

/-- Printing is confined. -/
theorem printLine_confined (line : String) :
    Confines safe (fun _ _ => True) (printLine id line) := by
  refine confines_change_of_same holds ?_ ?_ ?_ ?_ ?_
  all_goals
    intro environment
    split <;> rfl

/-- Taking the captured lines is confined. -/
theorem takeOutput_confined : Confines safe (fun _ _ => True) (takeOutput id) := by
  unfold takeOutput
  refine Confines.of_view fun environment => ?_
  split
  · refine Confines.bind (confines_change_of_same holds ?_ ?_ ?_ ?_ ?_) fun _ _ _ _ => confines_any _
    all_goals exact fun _ => rfl
  · exact confines_any _

/-- Letting go of an environment is confined. -/
theorem drop_confined : Confines safe (fun _ _ => True) (drop id) :=
  confines_change_of_same holds (fun _ => rfl) (fun _ => rfl) (fun _ => rfl) (fun _ => rfl)
    fun _ => rfl

/-- Adding a source that refers to safe things is confined. -/
theorem addSource_confined {source : Source}
    (within : source.Refers ≤ safe) :
    Confines safe (fun _ _ => True) (addSource id source) := by
  refine confines_changeEnvironment holds fun environment known target refers => ?_
  cases refers with
  | storage => exact known _ .storage
  | source member refers =>
    rcases List.mem_append.mp member with before | added
    · exact known _ (.source before refers)
    · obtain rfl := List.mem_singleton.mp added
      exact within _ refers
  | compiler refers => exact known _ (.compiler refers)
  | core member => exact known _ (.core member)
  | library member => exact known _ (.library member)

/-- Adding a package is confined. -/
theorem addPackage_confined (name : String) (type : Option HostTypeId) :
    Confines safe (fun _ _ => True) (addPackage id name type) := by
  unfold addPackage
  split
  · exact confines_throw _
  · split
    · exact confines_throw _
    · refine (confines_newObject fun _ _ other => HostObject.noConfusion other).bind
        fun _ grows object made => ?_
      exact setGlobal_confined (grows _ holds) name (within_reference.mpr made)

/-! ## Look-ups -/

/-- The value of a core function is confined. -/
theorem coreValue_confined (function : CoreFunction) :
    Confines safe Value.Within (coreValue id id function) := by
  unfold coreValue
  refine Confines.view_environment holds fun environment known => ?_
  split
  · next made found =>
    exact confines_pure (within_reference.mpr (known _ (.core (mem_of_lookup found))))
  · have home : (function.bound id).Refers ≤ safe := by
      rintro target (⟨⟨⟩⟩ | refers)
      · exact holds
      · exact False.elim refers
    refine (confines_newFunction home).bind fun _ grows made madeSafe => ?_
    refine (confines_changeEnvironment (grows _ holds) fun environment within target refers => ?_).bind
      fun _ more _ _ => confines_pure (within_reference.mpr (more _ madeSafe))
    cases refers with
    | storage => exact within _ .storage
    | source member refers => exact within _ (.source member refers)
    | compiler refers => exact within _ (.compiler refers)
    | core member =>
      rcases List.mem_append.mp member with before | added
      · exact within _ (.core before)
      · obtain ⟨rfl, rfl⟩ := Prod.mk.inj (List.mem_singleton.mp added)
        exact madeSafe
    | library member => exact within _ (.library member)

/-- The object of a library is confined. -/
theorem libraryValue_confined (library : Library) :
    Confines safe Value.Within (libraryValue id library) := by
  unfold libraryValue
  refine Confines.view_environment holds fun environment known => ?_
  split
  · next made found =>
    exact confines_pure (within_reference.mpr (known _ (.library (mem_of_lookup found))))
  · have bare (name : Library) (made : List (LibraryFunction × FunctionId))
        (same : HostObject.library library [] = .library name made) :
        ∀ entry ∈ made, safe (.function entry.2) := by
      obtain ⟨-, rfl⟩ := HostObject.library.inj same
      exact fun entry member => absurd member List.not_mem_nil
    refine (confines_newObject bare).bind fun _ grows made madeSafe => ?_
    refine (confines_changeEnvironment (grows _ holds) fun environment within target refers => ?_).bind
      fun _ more _ _ => confines_pure (within_reference.mpr (more _ madeSafe))
    cases refers with
    | storage => exact within _ .storage
    | source member refers => exact within _ (.source member refers)
    | compiler refers => exact within _ (.compiler refers)
    | core member => exact within _ (.core member)
    | library member =>
      rcases List.mem_append.mp member with before | added
      · exact within _ (.library before)
      · obtain ⟨rfl, rfl⟩ := Prod.mk.inj (List.mem_singleton.mp added)
        exact madeSafe

end Writes

end Environment

/-- What is called refers to safe things. -/
def Callee.Within (safe : Reference → Prop) : Callee → Prop
  | .function id => safe (.function id)
  | .body code => code.Refers ≤ safe

/-- A routine that refers to safe things can be called. -/
theorem Routine.callee_within {routine : Routine}
    (known : routine.Refers ≤ safe) : routine.callee.Within safe :=
  fun target ⟨_, _, refers⟩ => known target refers

/-- A call of something safe with safe arguments in a safe environment is confined, whatever is
safe. -/
def Caller.Confines (call : Caller) : Prop :=
  ∀ safe context callee arguments, context.Within safe → callee.Within safe →
    AllWithin safe arguments → Action.Confines safe AllWithin (call context callee arguments)

section Calls

variable {call : Caller} (confined : call.Confines)
include confined

/-- A hooked read of a safe table by a safe key is confined. -/
theorem hookedFrom_confined {context : Context} (within : context.Within safe) {key : Value}
    (keySafe : key.Within safe) (steps : Nat) {id : TableId} (holds : safe (.table id)) :
    Confines safe Value.Within (hookedFrom call context key steps id) := by
  induction steps generalizing id with
  | zero => exact confines_throw _
  | succ steps ih =>
    unfold hookedFrom
    refine Confines.view_table holds fun table known => ?_
    dsimp only
    split
    · exact confines_pure (known.get key)
    · split
      · next next hook => exact ih (known _ (.hook hook))
      · next function hook =>
        refine (confined _ context function _ within (known _ (.hook hook)) ?_).bind
          fun _ _ results resultsSafe => confines_pure resultsSafe.headD
        simp [holds, keySafe]
      · exact confines_pure within_nil

/-- A hooked read of a safe table by a safe key is confined. -/
theorem hookedGet_confined {context : Context} (within : context.Within safe) {table : TableId}
    (holds : safe (.table table)) {key : Value} (keySafe : key.Within safe) :
    Confines safe Value.Within (hookedGet call context table key) := by
  have kept : (context.keep [.table table, key]).Within safe := within
  unfold hookedGet
  exact hookedFrom_confined confined kept keySafe _ holds

namespace Environment

variable {id : EnvironmentId} (holds : safe (.environment id))
include holds

omit holds in
/-- The answer of code of the host that refers to safe things is confined. -/
theorem answerOfHost_confined (held : List Reference)
    {code : HostCode (Except Failure (Option Value))}
    (known : code.answering.Refers ≤ safe) :
    Confines safe AnswerWithin (answerOfHost call held code) := by
  refine (confined _ { held } _ [] nofun (Routine.callee_within known) allWithin_nil).bind
    fun _ _ values within => confines_pure fun value found => within value ?_
  exact List.mem_of_head? found

/-- The answer of a source of a safe environment is confined. -/
theorem answer_confined (held : List Reference) (name : String) {source : Source}
    (known : source.Refers ≤ safe) :
    Confines safe AnswerWithin (answer call held id id name source) := by
  have missing : Confines safe AnswerWithin (pure none : Action (Option Value)) :=
    confines_pure answerWithin_none
  have given {wide : Reference → Prop} {value : Value} (within : value.Within wide) :
      Confines wide AnswerWithin (pure (some value) : Action (Option Value)) :=
    confines_pure (answerWithin_some within)
  cases source with
  | reserved =>
    unfold answer
    dsimp only
    split
    · exact confines_pure_of_guards fun world guards =>
        answerWithin_some (within_reference.mpr (guards.nodes _))
    · split
      · exact given (within_text _)
      · exact missing
  | storage =>
    unfold answer
    dsimp only
    refine Confines.view_environment holds fun environment known => ?_
    have inside : Context.Within safe { environment := some id, held } := fun other same =>
      Option.some.inj same ▸ holds
    refine (hookedGet_confined confined inside (known _ .storage) (within_text name)).bind
      fun _ _ value within => ?_
    split
    · exact confines_pure answerWithin_none
    · exact given within
  | coreFunctions =>
    unfold answer
    dsimp only
    split
    · exact (coreValue_confined holds _).bind fun _ _ value within => given within
    · exact missing
  | systemLibraries =>
    unfold answer
    dsimp only
    split
    · exact (libraryValue_confined holds _).bind fun _ _ value within => given within
    · exact missing
  | host label kept reply =>
    refine answerOfHost_confined confined held fun target refers => ?_
    by_cases here : target = .environment id
    · exact here ▸ holds
    · exact known target (.answer here refers)

/-- The answers of the sources of a safe environment are confined. -/
theorem resolve_confined (held : List Reference) (name : String) {sources : List Source}
    (known : ∀ source ∈ sources, source.Refers ≤ safe) :
    Confines safe AnswerWithin (resolve call held id id name sources) := by
  induction sources generalizing safe with
  | nil => exact confines_pure answerWithin_none
  | cons source rest ih =>
    obtain ⟨first, others⟩ := List.forall_mem_cons.mp known
    unfold resolve
    refine (answer_confined confined holds held name first).bind
      fun _ grows answered within => ?_
    split
    · next value => exact confines_pure within
    · exact ih (grows _ holds) fun source member => le_trans (others source member) grows

/-- Looking a name up in a safe environment is confined. -/
theorem getGlobal_confined (held : List Reference) (name : String) :
    Confines safe Value.Within (getGlobal call held id name) := by
  unfold getGlobal
  refine Confines.view_environment holds fun environment known => ?_
  refine (resolve_confined confined holds held name fun source member target refers =>
    known _ (.source member refers)).bind fun _ _ answered within => ?_
  cases answered with
  | none => exact confines_pure within_nil
  | some value => exact confines_pure (within value rfl)

end Environment

end Calls

end ScriptHost
