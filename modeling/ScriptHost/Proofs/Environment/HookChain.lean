import Mathlib.Tactic.ByContra
import ScriptHost.Environment.Lookup
import ScriptHost.Proofs.Table.Entries
import ScriptHost.Proofs.World.Outcome

/-!
# Chains of hooks

The table hooks of a world lead from each table along a chain, which can come back to where it
has been. A read with hooks follows the chain over a hundred tables at most. It ends at the
first of them that has the key or whose hook is no table, and if there is none it fails, so
that a circle of tables without the key is never taken for an absent value.
-/

namespace ScriptHost

open ScriptHost.Action

/-! ## Chains -/

namespace World

variable (world : World)

/-- The table that a table's hook is. -/
def next? (id : TableId) : Option TableId :=
  match (world.table id).hook with
  | some (.reference (.table next)) => some next
  | _ => none

/-- The table that table hooks lead to from a start, after so many of them. -/
def along (start : TableId) : Nat → Option TableId
  | 0 => some start
  | hops + 1 => (along start hops).bind world.next?

/-- A read of a key comes to a table: so many table hooks lead there, from tables that all lack the
key. -/
structure ComesTo (key : Value) (start : TableId) (hops : Nat) (id : TableId) : Prop where
  along : world.along start hops = some id
  missing : ∀ before < hops, ∀ other, world.along start before = some other →
    (world.table other).get key = .nil

/-- Every one of so many tables lacks the key and has a table as its hook. -/
def Exhausts (key : Value) (start : TableId) (tables : Nat) : Prop :=
  ∀ hops < tables, ∃ id next, world.along start hops = some id ∧
    (world.table id).get key = .nil ∧ (world.table id).hook = some (.table next)

variable {world}

/-- A table has a next one exactly if its hook is that table. -/
theorem next?_eq_some {id next : TableId} :
    world.next? id = some next ↔ (world.table id).hook = some (.table next) := by
  unfold next?
  constructor
  · intro found
    split at found
    · next other hook =>
      obtain rfl := Option.some.inj found
      exact hook
    · contradiction
  · intro hook
    rw [hook]

/-- The first hook can be followed first. -/
theorem along_succ (start : TableId) (hops : Nat) :
    world.along start (hops + 1) = (world.next? start).bind fun next => world.along next hops := by
  induction hops with
  | zero =>
    show (some start).bind world.next? = _
    cases found : world.next? start <;> simp [found, along]
  | succ hops ih =>
    rw [along, ih]
    cases world.next? start <;> rfl

variable {key : Value} {start : TableId}

/-- A read that comes further has left a table that lacks the key through its hook. -/
theorem ComesTo.first {hops : Nat} {id : TableId} (comes : world.ComesTo key start (hops + 1) id) :
    (world.table start).get key = .nil ∧
      ∃ next, (world.table start).hook = some (.table next) ∧ world.ComesTo key next hops id := by
  have leads := comes.along
  rw [along_succ] at leads
  obtain ⟨next, hook, rest⟩ := Option.bind_eq_some_iff.mp leads
  refine ⟨comes.missing 0 (Nat.succ_pos hops) start rfl, next, next?_eq_some.mp hook, rest, ?_⟩
  intro before less other found
  have later : world.along start (before + 1) = some other := by
    rw [along_succ, hook]
    exact found
  exact comes.missing (before + 1) (Nat.succ_lt_succ less) other later

/-- A read that comes to a table without the key comes to the one that is its hook. -/
theorem ComesTo.next {hops : Nat} {id next : TableId} (comes : world.ComesTo key start hops id)
    (missing : (world.table id).get key = .nil)
    (hook : (world.table id).hook = some (.table next)) :
    world.ComesTo key start (hops + 1) next := by
  constructor
  · show (world.along start hops).bind world.next? = some next
    rw [comes.along]
    exact next?_eq_some.mpr hook
  · intro before less other found
    by_cases last : before = hops
    · subst last
      obtain rfl := Option.some.inj (comes.along.symm.trans found)
      exact missing
    · exact comes.missing before (by omega) other found

/-- A read goes on over any number of tables, or it comes to one that has the key or whose hook is
no table. -/
theorem exhausts_or_comesTo (key : Value) (start : TableId) (tables : Nat) :
    (world.Exhausts key start tables ∧ ∃ id, world.ComesTo key start tables id) ∨
      ∃ hops < tables, ∃ id, world.ComesTo key start hops id ∧
        ((world.table id).get key ≠ .nil ∨
          ∀ next, (world.table id).hook ≠ some (.table next)) := by
  induction tables with
  | zero =>
    exact .inl ⟨fun hops less => absurd less (Nat.not_lt_zero hops), start, rfl,
      fun before less => absurd less (Nat.not_lt_zero before)⟩
  | succ tables ih =>
    rcases ih with ⟨exhausts, id, comes⟩ | ⟨hops, less, id, ends⟩
    · by_cases stays : (world.table id).get key = .nil ∧
          ∃ next, (world.table id).hook = some (.table next)
      · obtain ⟨missing, next, hook⟩ := stays
        refine .inl ⟨fun hops less => ?_, next, comes.next missing hook⟩
        by_cases last : hops = tables
        · subst last
          exact ⟨id, next, comes.along, missing, hook⟩
        · exact exhausts hops (by omega)
      · have ends : (world.table id).get key ≠ .nil ∨
            ∀ next, (world.table id).hook ≠ some (.table next) := by
          by_contra both
          push Not at both
          exact stays both
        exact .inr ⟨tables, Nat.lt_succ_self tables, id, comes, ends⟩
    · exact .inr ⟨hops, by omega, id, ends⟩

/-- A read that exhausts its tables comes to no other end among them. -/
theorem Exhausts.comesTo {tables : Nat} (exhausts : world.Exhausts key start tables) {hops : Nat}
    (less : hops < tables) {id : TableId} (comes : world.ComesTo key start hops id) :
    (world.table id).get key = .nil ∧ ∃ next, (world.table id).hook = some (.table next) := by
  obtain ⟨other, next, along, missing, hook⟩ := exhausts hops less
  obtain rfl := Option.some.inj (comes.along.symm.trans along)
  exact ⟨missing, next, hook⟩

end World

/-! ## Reads -/

section Read

variable {call : Caller} {context : Context} {key : Value} {world : World} {start id : TableId}

/-- A read that comes to a table goes on there with the steps that are left. -/
theorem hookedFrom_of_comesTo {hops : Nat} (comes : world.ComesTo key start hops id)
    (steps : Nat) :
    hookedFrom call context key (hops + steps) start world =
      hookedFrom call context key steps id world := by
  induction hops generalizing start with
  | zero =>
    obtain rfl := Option.some.inj comes.along
    rw [Nat.zero_add]
  | succ hops ih =>
    obtain ⟨missing, next, hook, further⟩ := comes.first
    rw [← ih further, Nat.succ_add, hookedFrom, run_view_bind]
    simp [missing, hook, Value.isNil]

/-- A read over a hundred tables that comes to one of them goes on there. -/
theorem hookedGet_of_comesTo {hops : Nat} (less : hops < 100)
    (comes : world.ComesTo key start hops id) :
    hookedGet call context start key world =
      hookedFrom call (context.keep [.table start, key]) key (99 - hops + 1) id world := by
  have steps : hookDepth = hops + (99 - hops + 1) := by
    unfold hookDepth
    omega
  unfold hookedGet
  rw [steps]
  exact hookedFrom_of_comesTo comes _

/-- A read gives what the table that it comes to has under the key. -/
theorem hookedGet_of_present {hops : Nat} (less : hops < 100)
    (comes : world.ComesTo key start hops id) (present : (world.table id).get key ≠ .nil) :
    hookedGet call context start key world = .ok ((world.table id).get key) world := by
  have found := Value.isNil_eq_false present
  rw [hookedGet_of_comesTo less comes, hookedFrom, run_view_bind]
  simp only [found, Bool.not_false, if_true]
  rfl

section Missing

variable {hops : Nat} (less : hops < 100) (comes : world.ComesTo key start hops id)
  (missing : (world.table id).get key = .nil)
include less comes missing

/-- A read calls the function that is the hook of the table it comes to. -/
theorem hookedGet_of_function {function : FunctionId}
    (hook : (world.table id).hook = some (.function function)) :
    hookedGet call context start key world =
      (do return (← call (context.keep [.table start, key]) function [.table id, key]).headD .nil :
        Action Value) world := by
  rw [hookedGet_of_comesTo less comes, hookedFrom, run_view_bind]
  simp [missing, hook, Value.isNil]

/-- A read gives `nil` if the table that it comes to has no hook that can be asked. -/
theorem hookedGet_of_unhooked (noTable : ∀ next, (world.table id).hook ≠ some (.table next))
    (noFunction : ∀ function, (world.table id).hook ≠ some (.function function)) :
    hookedGet call context start key world = .ok .nil world := by
  rw [hookedGet_of_comesTo less comes, hookedFrom, run_view_bind]
  -- The two facts about the hook leave the last case of the match.
  simp only [missing, Value.isNil, Bool.not_true, Bool.false_eq_true, if_false]
  rfl

end Missing

/-- A read that exhausts a hundred tables fails. -/
theorem hookedGet_of_exhausts (exhausts : world.Exhausts key start 100) :
    hookedGet call context start key world = .error (.failed (.type .hookChain)) world := by
  rcases world.exhausts_or_comesTo key start 100 with ⟨-, id, comes⟩ | ⟨hops, less, id, comes, ends⟩
  · have steps : hookDepth = 100 + 0 := rfl
    unfold hookedGet
    rw [steps, hookedFrom_of_comesTo comes]
    rfl
  · obtain ⟨missing, next, hook⟩ := exhausts.comesTo less comes
    rcases ends with present | noTable
    · exact absurd missing present
    · exact absurd hook (noTable next)

/-- A read fails because a hundred tables lack the key, or it comes to a table that decides it. It
gives what that table has, which may be `nil`, or it calls the function that is its hook. -/
theorem hookedGet_cases (call : Caller) (context : Context) (key : Value) (world : World)
    (start : TableId) :
    let run := hookedGet call context start key world
    (world.Exhausts key start 100 ∧ run = .error (.failed (.type .hookChain)) world) ∨
      ∃ hops < 100, ∃ id, world.ComesTo key start hops id ∧
        (run = .ok ((world.table id).get key) world ∨
          ∃ function, (world.table id).get key = .nil ∧
            (world.table id).hook = some (.function function) ∧
            run = (do return (← call (context.keep [.table start, key]) function
              [.table id, key]).headD .nil : Action Value) world) := by
  intro run
  rcases world.exhausts_or_comesTo key start 100 with ⟨exhausts, -⟩ | ⟨hops, less, id, comes, ends⟩
  · exact .inl ⟨exhausts, hookedGet_of_exhausts exhausts⟩
  · refine .inr ⟨hops, less, id, comes, ?_⟩
    by_cases missing : (world.table id).get key = .nil
    · have noTable := ends.resolve_left fun present => present missing
      by_cases called : ∃ function, (world.table id).hook = some (.function function)
      · obtain ⟨function, hook⟩ := called
        exact .inr ⟨function, missing, hook, hookedGet_of_function less comes missing hook⟩
      · rw [missing]
        exact .inl (hookedGet_of_unhooked less comes missing noTable
          fun function hook => called ⟨function, hook⟩)
    · exact .inl (hookedGet_of_present less comes missing)

/-- A read on whose chain no hook is a function leaves the world alone. -/
theorem left_hookedGet (unhooked : ∀ hops < 100, ∀ id function, world.along start hops = some id →
      (world.table id).hook ≠ some (.function function)) :
    left (hookedGet call context start key) world = world := by
  rcases hookedGet_cases call context key world start with
    ⟨-, run⟩ | ⟨hops, less, id, comes, run | ⟨function, -, hook, -⟩⟩
  · rw [left, run]
  · rw [left, run]
  · exact absurd hook (unhooked hops less id function comes.along)

/-- Calling a function for its first result fails where the call does. -/
theorem outcome_first_eq_error {results : Action (List Value)} {interrupt : Interrupt} :
    outcome (do return (← results).headD .nil : Action Value) world = .error interrupt ↔
      outcome results world = .error interrupt := by
  rw [outcome_bind]
  cases outcome results world with
  | ok results => exact ⟨fun same => by contradiction, fun same => by contradiction⟩
  | error cause => simp only [Except.error.injEq]

end Read

/-- A read with hooks follows the chain of table hooks, in every world, from every table, for every
key and whatever functions do. It considers the first hundred tables of the chain. It gives what
the first of them that has the key has under it. If it comes before that to one whose hook is a
function, it calls the function with that table and the key and gives the first result, or `nil`
if there is none; if to one that has no hook or one that is neither a table nor a function, it
gives `nil`. It fails by itself exactly if all hundred lack the key and have tables as their hooks,
and otherwise only where a function that it calls fails. As long as no hook on the chain is a
function, it changes nothing. -/
theorem hookedGet_follows_chain (call : Caller) (context : Context) (start : TableId) (key : Value)
    (world : World) :
    let read := hookedGet call context start key
    let inside := context.keep [.table start, key]
    (∀ hops < 100, ∀ id, world.ComesTo key start hops id → (world.table id).get key ≠ .nil →
      read world = .ok ((world.table id).get key) world) ∧
    (∀ hops < 100, ∀ id function, world.ComesTo key start hops id →
      (world.table id).get key = .nil → (world.table id).hook = some (.function function) →
        read world = (do return (← call inside function [.table id, key]).headD .nil :
          Action Value) world) ∧
    (∀ hops < 100, ∀ id, world.ComesTo key start hops id → (world.table id).get key = .nil →
      (∀ next, (world.table id).hook ≠ some (.table next)) →
      (∀ function, (world.table id).hook ≠ some (.function function)) →
        read world = .ok .nil world) ∧
    (∀ interrupt, outcome read world = .error interrupt ↔
      (world.Exhausts key start 100 ∧ interrupt = .failed (.type .hookChain)) ∨
        ∃ hops < 100, ∃ id function, world.ComesTo key start hops id ∧
          (world.table id).get key = .nil ∧ (world.table id).hook = some (.function function) ∧
          outcome (call inside function [.table id, key]) world = .error interrupt) ∧
    ((∀ hops < 100, ∀ id function, world.along start hops = some id →
      (world.table id).hook ≠ some (.function function)) → left read world = world) := by
  intro read inside
  refine ⟨fun hops less id => hookedGet_of_present less,
    fun hops less id function comes missing => hookedGet_of_function less comes missing,
    fun hops less id comes missing => hookedGet_of_unhooked less comes missing,
    fun interrupt => ⟨?_, ?_⟩, left_hookedGet⟩
  · intro (fails : outcome (hookedGet call context start key) world = .error interrupt)
    rcases hookedGet_cases call context key world start with
      ⟨exhausts, run⟩ | ⟨hops, less, id, comes, run | ⟨function, missing, hook, run⟩⟩
    · rw [outcome, run] at fails
      exact .inl ⟨exhausts, (Except.error.inj fails).symm⟩
    · rw [outcome, run] at fails
      contradiction
    · rw [outcome, run] at fails
      exact .inr ⟨hops, less, id, function, comes, missing, hook,
        outcome_first_eq_error.mp fails⟩
  · rintro (⟨exhausts, rfl⟩ | ⟨hops, less, id, function, comes, missing, hook, fails⟩)
    · have run : read world = _ := hookedGet_of_exhausts exhausts
      rw [outcome, run]
    · have run : read world = _ := hookedGet_of_function less comes missing hook
      rw [outcome, run]
      exact outcome_first_eq_error.mpr fails

/-- A table whose hook is another table, which is its own hook. -/
def hookLoop : World where
  tables := #[{ entries := [(.text "one", .text "first")], hook := some (.table ⟨1⟩) },
    { entries := [(.text "two", .text "second")], hook := some (.table ⟨1⟩) }]

/-- The hooks lead to the second table and stay there. -/
theorem hookLoop_along (hops : Nat) : hookLoop.along ⟨0⟩ (hops + 1) = some ⟨1⟩ := by
  induction hops with
  | zero => rfl
  | succ hops ih =>
    rw [World.along, ih]
    rfl

/-- A read that ends in the loop gives what the second table has, and fails for a name that neither
has. -/
theorem hookedGet_follows_chain_loop :
    let read (name : String) := hookedGet (fun _ _ _ => pure []) {} ⟨0⟩ (.text name)
    read "two" hookLoop = .ok (.text "second") hookLoop ∧
      outcome (read "three") hookLoop = .error (.failed (.type .hookChain)) := by
  intro read
  constructor
  · have comes : hookLoop.ComesTo (.text "two") ⟨0⟩ 1 ⟨1⟩ := by
      refine ⟨hookLoop_along 0, fun before less other found => ?_⟩
      obtain rfl : before = 0 := by omega
      obtain rfl := Option.some.inj found
      decide +kernel
    have value : (hookLoop.table ⟨1⟩).get (.text "two") = .text "second" := by decide +kernel
    have reads := (hookedGet_follows_chain (fun _ _ _ => pure []) {} ⟨0⟩ (.text "two")
      hookLoop).1 1 (by decide) ⟨1⟩ comes (by simp [value])
    rw [value] at reads
    exact reads
  · have exhausts : hookLoop.Exhausts (.text "three") ⟨0⟩ 100 := by
      intro hops less
      cases hops with
      | zero => exact ⟨⟨0⟩, ⟨1⟩, rfl, by decide +kernel⟩
      | succ hops => exact ⟨⟨1⟩, ⟨1⟩, hookLoop_along hops, by decide +kernel⟩
    have reads := (hookedGet_follows_chain (fun _ _ _ => pure []) {} ⟨0⟩ (.text "three")
      hookLoop).2.2.2.1 (.failed (.type .hookChain))
    exact reads.mpr (.inl ⟨exhausts, rfl⟩)

end ScriptHost
