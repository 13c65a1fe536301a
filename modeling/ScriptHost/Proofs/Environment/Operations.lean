import ScriptHost.Environment.Charging
import ScriptHost.Environment.Lookup
import ScriptHost.Host.Members
import ScriptHost.Proofs.World.Change

/-!
# What the operations of environments change

Writes to globals and tables, collecting, printing and looking names up make changes of
the kinds that scripts can make, whether they succeed or fail, given that of what is
called on the way.
-/

namespace ScriptHost

open ScriptHost.Action World

/-! ## Writes -/

/-- Storing in a table gives the value replaced, and fails where the key is none. -/
theorem Action.outcome_rawSet (id : TableId) (key value : Value) (world : World) :
    outcome (rawSet id key value) world =
      match Key.ofValue? key with
      | some known => .ok ((world.table id).read known)
      | none => .error (.failed (.type (if key.isNil then .nilKey else .nanKey))) := by
  unfold rawSet
  rw [outcome_view_bind]
  unfold Table.set
  cases Key.ofValue? key <;> rfl

/-- Storing in a table writes the entry, and leaves the world alone where the key is none. -/
theorem Action.left_rawSet (id : TableId) (key value : Value) (world : World) :
    left (rawSet id key value) world =
      match Key.ofValue? key with
      | some known => world.setTable id ((world.table id).write known value)
      | none => world := by
  unfold rawSet
  rw [left_view_bind]
  unfold Table.set
  cases Key.ofValue? key <;> rfl

/-- Storing in a table changes an entry at most. -/
theorem Action.rawSet_keeps (id : TableId) (key value : Value) :
    Keeps Later (rawSet id key value) := by
  intro world
  rw [left_rawSet]
  cases Key.ofValue? key with
  | some known => exact .single (.entry id known value)
  | none => exact .refl

/-- A new table is an addition. -/
theorem Action.newTable_grows {table : Table} (written : table.Written) :
    Keeps Grown (newTable table) :=
  fun _ => .single (.table table written)

/-- A new table is a change. -/
theorem Action.newTable_keeps {table : Table} (written : table.Written) :
    Keeps Later (newTable table) :=
  (newTable_grows written).mono fun _ _ => Grown.later

/-- Having the host remember something changes what it remembers at most. -/
theorem Action.remember_keeps (key value : Value) : Keeps Later (remember key value) := by
  intro world
  unfold remember
  rw [left_view_bind]
  unfold Table.set
  cases Key.ofValue? key with
  | some known => exact .single (.memory known value)
  | none => exact .refl

/-- The reply of a source of the host. -/
def Source.reply? : Source → Option Reply
  | .host _ _ reply => some reply
  | _ => none

/-- Every reply of a source of the host keeps a relation. -/
def Source.RepliesKeep (relates : World → World → Prop) (call : Caller) :
    Source → Prop
  | .host _ _ reply =>
    ∀ held id name, Action.Keeps relates (Environment.answerOfHost call held (reply id name))
  | _ => True

/-- Reading keeps a relation: additions do, reads of tables with their hooks, members of host types
with their getters, and globals with the sources that the host has added. -/
structure Caller.Reads (relates : World → World → Prop) (call : Caller) : Prop where
  grown : ∀ old new, Grown old new → relates old new
  hooked : ∀ context table key, Action.Keeps relates (hookedGet call context table key)
  bound : ∀ context (id : HostTypeId) name ignoreCase,
    Action.Keeps relates (do
      let type ← view (·.hostType id)
      type.bind? call context name ignoreCase)
  named : ∀ held id name, Action.Keeps relates (Environment.getGlobal call held id name)

namespace Environment

/-- Charging is a charge or a refund. -/
theorem charge_keeps (id : EnvironmentId) (oldSize newSize : Nat) :
    Keeps Later (charge id oldSize newSize) := by
  intro world
  unfold charge
  rw [left_view_bind]
  split
  · dsimp only
    cases granted : (world.environment id).heap.charge? (Heap.word (newSize - oldSize)) with
    | some heap => exact .single (.charge id _ heap granted)
    | none => exact .refl
  · exact .single (.refund id _)

/-- Writing a global is a charge and an entry. -/
theorem setGlobal_keeps (id : EnvironmentId) (name : String) (value : Value) :
    Keeps Later (setGlobal id name value) := by
  unfold setGlobal
  refine Keeps.bind keeps_get fun world => ?_
  refine Keeps.bind (charge_keeps id _ _) fun _ => ?_
  exact Keeps.bind (rawSet_keeps _ _ value) fun _ => keeps_pure _

/-- Writing to a table is an entry and a charge. -/
theorem storeInTable_keeps (id : EnvironmentId) (table : TableId) (key value : Value) :
    Keeps Later (storeInTable id table key value) := by
  unfold storeInTable
  refine Keeps.bind keeps_get fun world => ?_
  dsimp only
  split
  · exact keeps_throw _
  · exact Keeps.bind (rawSet_keeps table key value) fun _ => charge_keeps id _ _

/-- Collecting is a change of the heap. -/
theorem collect_keeps (id : EnvironmentId) : Keeps Later (collect id) :=
  fun _ => .single (.collect id)

/-- Printing adds a line to what is captured. -/
theorem left_printLine (id : EnvironmentId) (line : String) (world : World) :
    left (printLine id line) world = world.setEnvironment id
      { world.environment id with sink := (world.environment id).sink.printed line } := by
  show world.setEnvironment id _ = world.setEnvironment id _
  congr 1
  cases known : world.environment id with
  | mk storage heap sink compiler sources coreMade librariesMade hosted =>
    cases sink with
    | capture text => rfl
    | elsewhere => rfl

/-- Printing is a line at most. -/
theorem printLine_keeps (id : EnvironmentId) (line : String) : Keeps Later (printLine id line) := by
  intro world
  rw [left_printLine]
  exact .single (.line id line)

/-! ## Names -/

/-- The value of a core function is made at most. -/
theorem coreValue_grows (id : EnvironmentId) (function : CoreFunction) :
    Keeps Grown (coreValue id id function) := by
  intro world
  unfold coreValue
  rw [left_view_bind]
  cases missing : (world.environment id).coreMade.lookup function with
  | some made => exact .refl
  | none => exact .single (.core id function missing)

/-- The value of a core function is found with changes. -/
theorem coreValue_keeps (id : EnvironmentId) (function : CoreFunction) :
    Keeps Later (coreValue id id function) :=
  (coreValue_grows id function).mono fun _ _ => Grown.later

/-- The object of a library is made at most. -/
theorem libraryValue_grows (id : EnvironmentId) (library : Library) :
    Keeps Grown (libraryValue id library) := by
  intro world
  unfold libraryValue
  rw [left_view_bind]
  cases missing : (world.environment id).librariesMade.lookup library with
  | some made => exact .refl
  | none => exact .single (.library id library missing)

/-- The object of a library is found with changes. -/
theorem libraryValue_keeps (id : EnvironmentId) (library : Library) :
    Keeps Later (libraryValue id library) :=
  (libraryValue_grows id library).mono fun _ _ => Grown.later

/-! ### What lookups keep -/

section Lookups

variable {relates : World → World → Prop} [IsPreorder World relates] {call : Caller}
  {id : EnvironmentId} {name : String}

variable (core : ∀ function, Keeps relates (coreValue id id function))
  (library : ∀ library, Keeps relates (libraryValue id library))
  (hooked : ∀ context table, Keeps relates (hookedGet call context table (.text name)))
include core library hooked

/-- The answer of a source keeps what making core functions and libraries, reading the storage and
the reply of the source keep. -/
theorem answer_keeps_of (held : List Reference) {source : Source}
    (replies : ∀ reply ∈ source.reply?, Keeps relates (answerOfHost call held (reply id name))) :
    Keeps relates (answer call held id id name source) := by
  cases source with
  | reserved =>
    unfold answer
    dsimp only
    split
    · exact keeps_pure _
    · split
      · exact keeps_pure _
      · exact keeps_pure _
  | storage =>
    unfold answer
    dsimp only
    refine Keeps.bind (keeps_view _) fun storage => ?_
    exact Keeps.bind (hooked _ _) fun _ => keeps_pure _
  | coreFunctions =>
    unfold answer
    dsimp only
    split
    · exact Keeps.bind (core _) fun _ => keeps_pure _
    · exact keeps_pure _
  | systemLibraries =>
    unfold answer
    dsimp only
    split
    · exact Keeps.bind (library _) fun _ => keeps_pure _
    · exact keeps_pure _
  | host label kept reply => exact replies reply rfl

/-- Asking sources keeps what making core functions and libraries, reading the storage and the
replies of the sources keep. -/
theorem resolve_keeps_of (held : List Reference) {sources : List Source}
    (replies : ∀ reply ∈ sources.filterMap Source.reply?,
      Keeps relates (answerOfHost call held (reply id name))) :
    Keeps relates (resolve call held id id name sources) := by
  induction sources with
  | nil => exact keeps_pure _
  | cons source rest ih =>
    unfold resolve
    have first : ∀ reply ∈ source.reply?, Keeps relates (answerOfHost call held (reply id name)) :=
      fun reply given => replies reply (List.mem_filterMap.mpr ⟨source, List.mem_cons_self, given⟩)
    refine Keeps.bind (answer_keeps_of core library hooked held first) fun answered => ?_
    split
    · exact keeps_pure _
    · refine ih fun reply listed => ?_
      obtain ⟨other, among, given⟩ := List.mem_filterMap.mp listed
      exact replies reply (List.mem_filterMap.mpr ⟨other, List.mem_cons_of_mem _ among, given⟩)

omit [IsPreorder World relates] core library hooked in
/-- What the replies of each source keep the replies among the sources do. -/
theorem replies_keep_of {sources : List Source}
    (replies : ∀ source ∈ sources, source.RepliesKeep relates call) (held : List Reference) :
    ∀ reply ∈ sources.filterMap Source.reply?,
      Keeps relates (answerOfHost call held (reply id name)) := by
  intro reply listed
  obtain ⟨source, among, given⟩ := List.mem_filterMap.mp listed
  cases source with
  | host label kept other =>
    obtain rfl := Option.some.inj given
    exact replies _ among held id name
  | _ => contradiction

omit core library hooked in
/-- Since a world whose sources stay the same a look-up keeps what making core functions and
libraries, reading the storage and the replies of these sources keep. -/
theorem getGlobal_keeps_since {base : World} (core : ∀ function, Keeps relates (coreValue id id function))
    (library : ∀ library, Keeps relates (libraryValue id library))
    (hooked : ∀ context table,
      Keeps (Since relates base) (hookedGet call context table (.text name)))
    (sources : ∀ world, relates base world →
      (world.environment id).sources = (base.environment id).sources)
    (held : List Reference)
    (replies : ∀ reply ∈ (base.environment id).sources.filterMap Source.reply?,
      Keeps (Since relates base) (answerOfHost call held (reply id name))) :
    Keeps (Since relates base) (getGlobal call held id name) := by
  intro world related
  unfold getGlobal
  rw [left_view_bind, sources world related]
  exact Keeps.bind (resolve_keeps_of (fun function => (core function).since base)
    (fun known => (library known).since base) hooked held replies) (fun _ => keeps_pure _) world
    related

end Lookups

end Environment

section Calls

/-- What calls make of the world is changes. -/
def Caller.Keeps (call : Caller) : Prop :=
  ∀ context callee arguments, Action.Keeps Later (call context callee arguments)

variable {call : Caller} (keeps : call.Keeps)
include keeps

/-- A hooked read makes changes in its calls only. -/
theorem hookedFrom_keeps (context : Context) (key : Value) (steps : Nat) (id : TableId) :
    Keeps Later (hookedFrom call context key steps id) := by
  induction steps generalizing id with
  | zero => exact keeps_throw _
  | succ steps ih =>
    unfold hookedFrom
    refine Keeps.bind (keeps_view _) fun table => ?_
    dsimp only
    split
    · exact keeps_pure _
    · split
      · exact ih _
      · exact Keeps.bind (keeps context _ _) fun _ => keeps_pure _
      · exact keeps_pure _

/-- A hooked read makes changes in its calls only. -/
theorem hookedGet_keeps (context : Context) (table : TableId) (key : Value) :
    Keeps Later (hookedGet call context table key) :=
  hookedFrom_keeps keeps _ key hookDepth table

/-- Replies of the host make changes only. -/
theorem Source.repliesKeep_later (source : Source) : source.RepliesKeep Later call := by
  cases source with
  | host label kept reply => exact fun _ _ _ => Keeps.bind (keeps _ _ _) fun _ => keeps_pure _
  | _ => trivial

/-- Binding a member of a host type makes changes only. -/
theorem HostType.bind?_keeps (context : Context) (type : HostType) (name : String)
    (ignoreCase : Bool) : Keeps Later (type.bind? call context name ignoreCase) := by
  unfold bind?
  split
  · refine Keeps.bind ?_ fun _ => keeps_pure _
    exact Keeps.bind (keeps _ _ _) fun _ => keeps_pure _
  · exact keeps_pure _
  · exact keeps_pure _

namespace Environment

/-- The answer of a source is found with changes. -/
theorem answer_keeps (held : List Reference) (id : EnvironmentId) (name : String)
    (source : Source) : Keeps Later (answer call held id id name source) := by
  refine answer_keeps_of (coreValue_keeps id) (libraryValue_keeps id)
    (fun _ _ => hookedGet_keeps keeps _ _ _) held fun reply given => ?_
  have listed : reply ∈ [source].filterMap Source.reply? :=
    List.mem_filterMap.mpr ⟨source, List.mem_singleton_self source, given⟩
  exact replies_keep_of (fun source _ => source.repliesKeep_later keeps) held reply listed

/-- A name is looked up with changes. -/
theorem getGlobal_keeps (held : List Reference) (id : EnvironmentId) (name : String) :
    Keeps Later (getGlobal call held id name) := by
  unfold getGlobal
  refine Keeps.bind (keeps_view _) fun environment => Keeps.bind ?_ fun _ => keeps_pure _
  exact resolve_keeps_of (coreValue_keeps id) (libraryValue_keeps id)
    (fun _ _ => hookedGet_keeps keeps _ _ _) held
    (replies_keep_of (fun source _ => source.repliesKeep_later keeps) held)

end Environment

/-- Reading makes changes only. -/
theorem Caller.Keeps.reads : call.Reads Later where
  grown := fun _ _ => Grown.later
  hooked := hookedGet_keeps keeps
  bound := fun context _ name ignoreCase =>
    Keeps.bind (keeps_view _) fun type => type.bind?_keeps keeps context name ignoreCase
  named := Environment.getGlobal_keeps keeps

end Calls

end ScriptHost
