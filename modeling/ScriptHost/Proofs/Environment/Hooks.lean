import ScriptHost.Proofs.Environment.Enrichment
import ScriptHost.Proofs.Evaluation.Effects

/-!
# Hooks that lookups call

A lookup calls a hook with a table that lacks the name and with the name. As long as such
calls are steady reading storage is. Whichever built-in function a hook is, its call is:
at most it prints, and what it gives depends on nothing that lookups change.
-/

namespace ScriptHost

open ScriptHost.Action World

/-! ## Writes that change nothing -/

/-- A refund of nothing changes nothing. -/
theorem Heap.refund_zero (heap : Heap) : heap.refund 0 = heap := by
  have covered : (0 : UInt64) ≤ heap.allocated := UInt64.zero_le
  unfold Heap.refund
  rw [if_pos covered, UInt64.sub_zero]

/-- A place set to what is read there changes nothing. -/
theorem setIfInBounds_same {Part : Type} [Inhabited Part] (parts : Array Part) (place : Nat) :
    parts.setIfInBounds place (parts[place]?.getD default) = parts := by
  unfold Array.setIfInBounds
  split
  · next inside =>
    rw [Array.getElem?_eq_getElem inside]
    exact Array.set_getElem_self inside
  · rfl

namespace World

variable (world : World)

/-- A table set to what it is changes nothing. -/
theorem setTable_same (id : TableId) : world.setTable id (world.table id) = world := by
  unfold setTable World.table
  rw [setIfInBounds_same]

/-- An environment set to what it is changes nothing. -/
theorem setEnvironment_same (id : EnvironmentId) :
    world.setEnvironment id (world.environment id) = world := by
  unfold setEnvironment World.environment
  rw [setIfInBounds_same]

end World

/-- Storing `nil` where there is nothing leaves the world alone. -/
theorem Action.rawSet_missing {world : World} {id : TableId} {name : String}
    (filled : (world.table id).Filled) (missing : (world.table id).get (.text name) = .nil) :
    left (rawSet id (.text name) .nil) world = world := by
  rw [left_rawSet]
  show world.setTable id ((world.table id).write (.text name) .nil) = world
  rw [Table.write_nil filled missing, setTable_same]

/-- Charging an entry that stays as large as it was leaves the world alone. -/
theorem Environment.charge_nothing (id : EnvironmentId) (world : World) :
    left (Environment.charge id 0 0) world = world := by
  have refunded : left (Environment.charge id 0 0) world = world.setEnvironment id
      { world.environment id with heap := (world.environment id).heap.refund 0 } := rfl
  rw [refunded, Heap.refund_zero]
  exact world.setEnvironment_same id

/-! ## Built-in functions as hooks -/

section Hook

variable {world : World} {id : TableId} {name : String}

/-- What a hook is called with: the table and the name that it lacks. -/
def hookArguments (id : TableId) (name : String) : List Value := [.table id, .text name]

/-- The text of a table is no option of the heap. -/
theorem display_table_ne (world : World) (id : TableId) :
    world.display (.table id) ≠ "collect" := by
  intro same
  have characters := congrArg String.toList same
  have text : world.display (.table id) = "table: " ++ id.address := rfl
  rw [text, String.toList_append] at characters
  have first := congrArg List.head? characters
  have head : ("table: ".toList ++ id.address.toList).head? = some 't' := rfl
  rw [head] at first
  revert first
  decide

/-- Heap queries by a table are steady. -/
theorem collectGarbage_steady (context : Context) :
    Steady (Core.collectGarbage context (hookArguments id name)) world := by
  have count : Steady (Core.memoryCount context) world := by
    unfold Core.memoryCount
    refine Steady.bind (context.required_plain _).steady fun environment _ => ?_
    refine steady_view (fun new enriched => ?_) (plain_pure _).steady
    dsimp only
    rw [enriched.heap]
  show Steady (view (·.display (.table id)) >>= _) world
  refine steady_view (fun _ _ => rfl) ?_
  split
  · next same => exact absurd same (display_table_ne world id)
  · exact count
  · exact (plain_pure _).steady
  · exact (plain_pure _).steady

/-- Printing is steady: it adds a line to what is captured. -/
theorem print_steady (context : Context) :
    Steady (Core.print context (hookArguments id name)) world := by
  have printed (environment : EnvironmentId) (line : String) :
      Steady (Environment.printLine environment line) world := by
    refine ⟨fun _ _ => rfl, fun new _ => ?_⟩
    rw [Environment.left_printLine]
    exact Enriches.setEnvironment new rfl rfl rfl rfl
  have done : Steady (pure [] : Action (List Value)) world := (plain_pure _).steady
  unfold Core.print
  cases context.environment with
  | none => exact done
  | some environment =>
    show Steady (view (Core.printedLine · (hookArguments id name)) >>= _) world
    exact steady_view (fun _ _ => rfl) ((printed environment _).bind fun _ _ => done)

/-- Storing `nil` where there is nothing is steady. -/
theorem rawSet_missing_steady (filled : (world.table id).Filled)
    (missing : (world.table id).get (.text name) = .nil) :
    Steady (rawSet id (.text name) .nil) world where
  same new enriched := by
    rw [outcome_rawSet, outcome_rawSet, enriched.table]
  enriches new enriched := by
    -- In every enrichment the table is as it is in the world, so the entry is missing there too.
    rw [← enriched.table] at filled missing
    rw [rawSet_missing filled missing]
    exact Enriches.refl new

/-- Charging an entry that stays as large as it was is steady. -/
theorem charge_nothing_steady (environment : EnvironmentId) :
    Steady (Environment.charge environment 0 0) world where
  same _ _ := rfl
  enriches new _ := by
    rw [Environment.charge_nothing]
    exact Enriches.refl new

/-- Storing `nil` where there is nothing on the account of an environment is steady. -/
theorem storeInTable_missing_steady (filled : (world.table id).Filled)
    (missing : (world.table id).get (.text name) = .nil) (environment : EnvironmentId) :
    Steady (Environment.storeInTable environment id (.text name) .nil) world := by
  have size (new : World) (enriched : Enriches world new) :
      new.entrySize (.text name) ((new.table id).get (.text name)) = 0 := by
    rw [enriched.table, missing]
    rfl
  have body : Steady (do
      let _ ← rawSet id (.text name) .nil
      Environment.charge environment 0 0) world :=
    (rawSet_missing_steady filled missing).bind fun _ _ => charge_nothing_steady environment
  unfold Environment.storeInTable
  refine steady_get (fun new enriched => ?_) ?_
  · simp only [size new enriched, size world (Enriches.refl world), enriched.heap]
    rfl
  · simp only [size world (Enriches.refl world)]
    exact body

/-- Setting a missing name to nothing is steady. -/
theorem rawSet_steady (filled : (world.table id).Filled)
    (missing : (world.table id).get (.text name) = .nil) (context : Context) :
    Steady (Core.rawSet context (hookArguments id name)) world := by
  have done : Steady (pure [.table id] : Action (List Value)) world := (plain_pure _).steady
  unfold Core.rawSet
  cases context.environment with
  | none => exact (rawSet_missing_steady filled missing).bind fun _ _ => done
  | some environment =>
    exact (storeInTable_missing_steady filled missing environment).bind fun _ _ => done

/-- A core function that is called as a hook is steady. -/
theorem CoreFunction.run_steady (filled : (world.table id).Filled)
    (missing : (world.table id).get (.text name) = .nil) (call : Caller) (context : Context)
    (function : CoreFunction) :
    Steady (function.run call context (hookArguments id name)) world := by
  have done (results : List Value) : Steady (pure results : Action (List Value)) world :=
    (plain_pure results).steady
  cases function with
  | assert => exact done _
  | collectgarbage => exact collectGarbage_steady context
  | dofile => exact (plain_throw _).steady
  | error => exact steady_view (fun _ _ => rfl) (plain_throw _).steady
  | print => exact print_steady context
  | rawequal => exact done _
  | rawget =>
    refine (Core.tableArgument_plain (hookArguments id name) "rawget").steady.bind fun found given => ?_
    obtain rfl := Except.ok.inj given
    refine steady_view (fun new enriched => ?_) (done _)
    rw [enriched.table]
  | rawlen =>
    show Steady (view (fun world => (world.table id).length) >>= _) world
    refine steady_view (fun new enriched => ?_) (done _)
    rw [enriched.table]
  | rawset => exact rawSet_steady filled missing context
  | select => exact (Core.select_plain (hookArguments id name)).steady
  | tonumber => exact (Core.toNumber_plain (hookArguments id name)).steady
  | tostring => exact steady_view (fun _ _ => rfl) (done _)
  | type => exact done _

/-- A library function that is called as a hook is steady. -/
theorem LibraryFunction.run_steady (context : Context) (function : LibraryFunction) :
    Steady (function.run context (hookArguments id name)) world := by
  by_cases other : function = .rep
  · -- A table is no text, so there is nothing to repeat.
    rw [other]
    exact (Arguments.text_plain _ _ _).steady.bind fun text given => by contradiction
  · exact (run_plain context _ function other).steady

/-- A built-in function that is called as a hook is steady. -/
theorem Builtin.run_steady (filled : (world.table id).Filled)
    (missing : (world.table id).get (.text name) = .nil) (call : Caller) (context : Context)
    (builtin : Builtin) : Steady (builtin.run call context (hookArguments id name)) world := by
  cases builtin with
  | core function => exact function.run_steady filled missing call context
  | library function => exact function.run_steady context

end Hook

/-! ## Hooked reads -/

/-- Read a name of an environment's storage with its hooks. -/
def Environment.readStorage (call : Caller) (held : List Reference) (id : EnvironmentId)
    (name : String) : Action Value := do
  let storage := (← view (·.environment id)).storage
  hookedGet call { environment := some id, held } storage (.text name)

/-- The storage answers with what is read from it, unless that is `nil`. -/
theorem Environment.answer_storage (call : Caller) (held : List Reference)
    (owner id : EnvironmentId) (name : String) :
    answer call held owner id name .storage = do
      let value ← readStorage call held id name
      return if value.isNil then none else some value :=
  rfl

/-- A function is a hook of some table. -/
def World.IsHook (world : World) (function : FunctionId) : Prop :=
  ∃ id, (world.table id).hook = some (.reference (.function function))

/-- Calls of hooks, with a table and a name that it lacks, are steady: they give the same in all
enrichments of the world and do no more than enrich them. -/
def Caller.SteadyHooks (call : Caller) (world : World) : Prop :=
  ∀ context function id name, world.IsHook function →
    (world.table id).get (.text name) = .nil →
      Steady (call context function (hookArguments id name)) world

section Read

variable {call : Caller} {world : World} (hooks : call.SteadyHooks world)
include hooks

/-- Reading a name with hooks is steady. -/
theorem hookedFrom_steady (context : Context) (name : String) (steps : Nat) (id : TableId) :
    Steady (hookedFrom call context (.text name) steps id) world := by
  induction steps generalizing id with
  | zero => exact (plain_throw _).steady
  | succ steps ih =>
    unfold hookedFrom
    refine steady_view (fun new enriched => by rw [enriched.table]) ?_
    dsimp only
    split
    · exact (plain_pure _).steady
    · next missing =>
      have nil : (world.table id).get (.text name) = .nil := by
        cases read : (world.table id).get (.text name) with
        | nil => rfl
        | _ =>
          rw [read] at missing
          exact absurd rfl missing
      split
      · exact ih _
      · next function installed =>
        exact (hooks context function id name ⟨id, installed⟩ nil).bind
          fun _ _ => (plain_pure _).steady
      · exact (plain_pure _).steady

/-- Reading a name of an environment's storage is steady. -/
theorem readStorage_steady (held : List Reference) (id : EnvironmentId) (name : String) :
    Steady (Environment.readStorage call held id name) world := by
  unfold Environment.readStorage
  refine steady_view (fun new enriched => ?_) ?_
  · dsimp only
    rw [enriched.storage]
  · exact hookedFrom_steady hooks _ name hookDepth _

end Read

/-! ## Hooks that are built in -/

/-- Entering a function is steady. -/
theorem Callable.context_steady (callable : Callable) (caller : Context) (world : World) :
    Steady (callable.context caller) world := by
  unfold Callable.context
  cases callable.home with
  | none => exact (plain_pure _).steady
  | some environment =>
    refine steady_view (fun new enriched => by rw [enriched.holdsAlike.isLive]) ?_
    split
    · exact (plain_pure _).steady
    · exact (plain_throw _).steady

/-- Where all hooks that are functions are built in, calls of hooks are steady. -/
theorem callWithin_steadyHooks {world : World} (sound : Sound world)
    (builtIn : ∀ function, world.IsHook function →
      ∃ builtin, (world.function function).body = .builtin builtin) (depth : Nat) :
    (callWithin depth).SteadyHooks world := by
  intro context function id name hook missing
  cases depth with
  | zero => exact (plain_throw _).steady
  | succ depth =>
    obtain ⟨builtin, body⟩ := builtIn function hook
    obtain ⟨table, installed⟩ := hook
    have inside := sound.hooked table function installed
    unfold callWithin
    refine steady_view (fun new enriched => ?_) ?_
    · unfold World.callable
      dsimp only
      rw [enriched.function inside]
    · unfold World.callable Callable.run
      dsimp only
      rw [body]
      refine ((world.function function).context_steady _ world).bind fun entered _ => ?_
      exact builtin.run_steady (sound.filled id) missing _ entered

end ScriptHost
