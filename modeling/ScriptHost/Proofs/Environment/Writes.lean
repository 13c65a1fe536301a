import ScriptHost.Evaluation.Members
import ScriptHost.Library.Core
import ScriptHost.Proofs.Environment.Operations
import ScriptHost.Proofs.World.Kept

/-!
# Charged writes

A write to a global or to a table is done as a whole or not at all. It is done where the
heap has room for the growth of the entry and the key can be one; then the entry reads as
written, the count of the heap has changed by the difference of the sizes, and the rest of the
world is as before. Where it is not done, the whole world is as before. So the charge that
follows the writing of an entry never fails: the check before it has seen to that.
-/

namespace ScriptHost

open ScriptHost.Action World

namespace Heap

/-- A heap has room for an entry: if the entry grows, the count stays within the limit. -/
def HasRoom (heap : Heap) (oldSize newSize : Nat) : Prop :=
  oldSize < newSize → ∀ limit, heap.limit = some limit →
    heap.allocated.toNat + (newSize - oldSize) ≤ limit.toNat

/-- A heap after the charge or the refund for an entry. -/
def resized (heap : Heap) (oldSize newSize : Nat) : Heap :=
  if oldSize < newSize then
    { heap with allocated := heap.allocated + word (newSize - oldSize) }
  else heap.refund (word (oldSize - newSize))

variable {heap : Heap} {oldSize newSize : Nat}

/-- The growth of an entry is a word if the count and the growth are one together. -/
theorem toNat_growth (fits : heap.allocated.toNat + (newSize - oldSize) < UInt64.size) :
    (word (newSize - oldSize)).toNat = newSize - oldSize := by
  have top : largest.toNat = UInt64.size - 1 := rfl
  have cut := toNat_word (newSize - oldSize)
  omega

/-- The check of a growing entry is whether there is room for it. -/
theorem hasRoomFor_growth (fits : heap.allocated.toNat + newSize < UInt64.size)
    (grows : oldSize < newSize) :
    heap.hasRoomFor (word (newSize - oldSize)) = true ↔ heap.HasRoom oldSize newSize := by
  have top : largest.toNat = UInt64.size - 1 := rfl
  have growth := heap.toNat_growth (show _ + (newSize - oldSize) < _ by omega)
  have sum : heap.allocated.toNat + (word (newSize - oldSize)).toNat ≤ largest.toNat := by omega
  rw [hasRoomFor_iff sum, growth]
  constructor
  · exact fun room _ => room
  · exact fun room => room grows

/-- A write is refused where the entry grows and its growth fails the check. -/
theorem refused_iff (oldSize : Nat) (fits : heap.allocated.toNat + newSize < UInt64.size) :
    (decide (oldSize < newSize) && !heap.hasRoomFor (word (newSize - oldSize))) = true ↔
      ¬heap.HasRoom oldSize newSize := by
  by_cases grows : oldSize < newSize
  · rw [← hasRoomFor_growth fits grows]
    simp [grows]
  · have room : heap.HasRoom oldSize newSize := fun growth => absurd growth grows
    simp [grows, room]

/-- The count changes by the new size less the old one, down to zero at most. -/
theorem toNat_allocated_resized
    (fits : heap.allocated.toNat + (newSize - oldSize) < UInt64.size) :
    (heap.resized oldSize newSize).allocated.toNat =
      heap.allocated.toNat + newSize - oldSize := by
  have growth := toNat_growth fits
  unfold resized
  split
  · next grows =>
    rw [UInt64.toNat_add, growth, Nat.mod_eq_of_lt fits]
    omega
  · next shrinks =>
    have cut := toNat_word (oldSize - newSize)
    have top : largest.toNat = UInt64.size - 1 := rfl
    have word := heap.allocated.toNat_lt
    rw [toNat_allocated_refund, cut]
    omega

end Heap

/-! ## Charges -/

namespace Environment

section Charge

variable {world : World} {id : EnvironmentId} {oldSize newSize : Nat}
  (fits : (world.environment id).heap.allocated.toNat + newSize < UInt64.size)
include fits

/-- A charge that the heap has room for is made. -/
theorem charge_of_room (room : (world.environment id).heap.HasRoom oldSize newSize) :
    outcome (charge id oldSize newSize) world = .ok () ∧
      left (charge id oldSize newSize) world = world.setEnvironment id
        { world.environment id with
          heap := (world.environment id).heap.resized oldSize newSize } := by
  unfold charge Heap.resized
  rw [outcome_view_bind, left_view_bind]
  by_cases grows : oldSize < newSize
  · have checked := (Heap.hasRoomFor_growth fits grows).mpr room
    simp only [if_pos grows, Heap.charge?, if_pos checked]
    exact ⟨rfl, rfl⟩
  · simp only [if_neg grows]
    exact ⟨rfl, rfl⟩

/-- A charge that the heap has no room for is refused. -/
theorem charge_of_full (full : ¬(world.environment id).heap.HasRoom oldSize newSize) :
    outcome (charge id oldSize newSize) world = .error (.failed .outOfMemory) ∧
      left (charge id oldSize newSize) world = world := by
  have grows : oldSize < newSize := by
    by_contra shrinks
    exact full fun growth => absurd growth shrinks
  have refused := mt (Heap.hasRoomFor_growth fits grows).mp full
  unfold charge
  rw [outcome_view_bind, left_view_bind]
  simp only [if_pos grows, Heap.charge?, if_neg refused]
  exact ⟨rfl, rfl⟩

end Charge

end Environment

/-! ## Writes -/

namespace Action

variable {Result : Type} {key : Value}

/-- A step after storing under a key starts with the entry written. -/
theorem rawSet_of_key {known : Key} (normal : Key.ofValue? key = some known) (table : TableId)
    (value : Value) (next : Value → Action Result) (world : World) :
    outcome (rawSet table key value >>= next) world =
        outcome (next ((world.table table).read known))
          (world.setTable table ((world.table table).write known value)) ∧
      left (rawSet table key value >>= next) world =
        left (next ((world.table table).read known))
          (world.setTable table ((world.table table).write known value)) := by
  have given := outcome_rawSet table key value world
  have changed := left_rawSet table key value world
  rw [normal] at given changed
  rw [outcome_bind, left_bind, given, changed]
  exact ⟨rfl, rfl⟩

/-- Storing under what is no key fails and leaves the world as it is. -/
theorem rawSet_of_no_key (noKey : Key.ofValue? key = none) (table : TableId)
    (value : Value) (next : Value → Action Result) (world : World) :
    outcome (rawSet table key value >>= next) world =
        .error (.failed (.type (if key.isNil then .nilKey else .nanKey))) ∧
      left (rawSet table key value >>= next) world = world := by
  have given := outcome_rawSet table key value world
  have changed := left_rawSet table key value world
  rw [noKey] at given changed
  rw [outcome_bind, left_bind, given, changed]
  exact ⟨rfl, rfl⟩

end Action

namespace World

/-- The world with a value stored under a key of a table, and an environment's heap changed for
that. -/
def stored (world : World) (id : EnvironmentId) (table : TableId) (key : Key) (value : Value)
    (heap : Heap) : World :=
  (world.setTable table ((world.table table).write key value)).setEnvironment id
    { world.environment id with heap }

/-- A value is stored in its table only. -/
theorem table_stored (world : World) (id : EnvironmentId) (table : TableId) (key : Key)
    (value : Value) (heap : Heap) (other : TableId) :
    (world.stored id table key value heap).table other =
      if other = table ∧ table.index < world.tables.size then (world.table table).write key value
      else world.table other :=
  world.table_setTable table other _

/-- The environment that a value is stored for has the changed heap. -/
theorem environment_stored {world : World} {id : EnvironmentId}
    (there : id.index < world.environments.size) (table : TableId) (key : Key) (value : Value)
    (heap : Heap) :
    (world.stored id table key value heap).environment id = { world.environment id with heap } := by
  unfold stored
  rw [environment_setEnvironment, if_pos ⟨rfl, there⟩]

/-- A world in which a write has been done: the key has the value, every other key of every table
has what it had, the count has changed by the new size less the old one, down to zero at most and
within the limit if the entry has grown, and nothing else is different. -/
structure Stored (old new : World) (id : EnvironmentId) (table : TableId) (key : Key)
    (value : Value) (oldSize newSize : Nat) : Prop where
  written : (new.table table).read key = value
  others : ∀ other wanted, ¬(other = table ∧ wanted = key) →
    (new.table other).read wanted = (old.table other).read wanted
  count : (new.environment id).heap.allocated.toNat =
    (old.environment id).heap.allocated.toNat + newSize - oldSize
  bounded : oldSize < newSize → ∀ limit, (old.environment id).heap.limit = some limit →
    (new.environment id).heap.allocated.toNat ≤ limit.toNat
  rest : ∃ heap, new = old.stored id table key value heap

/-- A write whose growth the heap has room for is done. -/
theorem stored_of_room {world : World} {id : EnvironmentId} {table : TableId}
    {oldSize newSize : Nat}
    (there : id.index < world.environments.size) (known : table.index < world.tables.size)
    (fits : (world.environment id).heap.allocated.toNat + newSize < UInt64.size)
    (room : (world.environment id).heap.HasRoom oldSize newSize) (key : Key) (value : Value) :
    Stored world (world.stored id table key value
      ((world.environment id).heap.resized oldSize newSize)) id table key value oldSize
      newSize := by
  have growth :
      (world.environment id).heap.allocated.toNat + (newSize - oldSize) < UInt64.size := by
    omega
  refine ⟨?_, ?_, ?_, ?_, ⟨_, rfl⟩⟩
  · rw [table_stored, if_pos ⟨rfl, known⟩, Table.read_write, if_pos rfl]
  · intro other wanted apart
    rw [table_stored]
    split
    · next here =>
      have different : key ≠ wanted := fun same => apart ⟨here.1, same.symm⟩
      rw [Table.read_write, if_neg different, here.1]
    · rfl
  · rw [environment_stored there]
    exact Heap.toNat_allocated_resized growth
  · intro grows limit limited
    have within := room grows limit limited
    rw [environment_stored there, Heap.toNat_allocated_resized growth]
    omega

end World

/-- A write is done as a whole, or the whole world is as before: for want of room, or because the
key is none. -/
def AllOrNothing {Result : Type} (action : Action Result) (world : World) (id : EnvironmentId)
    (table : TableId) (key value : Value) (oldSize newSize : Nat) (result : Result) : Prop :=
  ((world.environment id).heap.HasRoom oldSize newSize ∧
    outcome action world = .ok result ∧
    ∃ known, Key.ofValue? key = some known ∧
      Stored world (left action world) id table known value oldSize newSize) ∨
  (¬(world.environment id).heap.HasRoom oldSize newSize ∧
    outcome action world = .error (.failed .outOfMemory) ∧ left action world = world) ∨
  (Key.ofValue? key = none ∧
    outcome action world =
      .error (.failed (.type (if key.isNil then .nilKey else .nanKey))) ∧
    left action world = world)

/-- Whether an action is all or nothing shows in the one world that it runs in. -/
theorem AllOrNothing.congr {Result : Type} {action other : Action Result} {world : World}
    {id : EnvironmentId} {table : TableId} {key value : Value} {oldSize newSize : Nat}
    {result : Result} (same : other world = action world)
    (whole : AllOrNothing action world id table key value oldSize newSize result) :
    AllOrNothing other world id table key value oldSize newSize result := by
  unfold AllOrNothing outcome left at whole ⊢
  rw [same]
  exact whole

namespace Environment

section Writes

variable {world : World} {id : EnvironmentId} {table : TableId} {oldSize newSize : Nat}
  (there : id.index < world.environments.size) (known : table.index < world.tables.size)
  (fits : (world.environment id).heap.allocated.toNat + newSize < UInt64.size)
include there known fits

/-- A charge before the entry is written is all or nothing, as the key is one. -/
theorem charge_then_store {key : Value} {normal : Key} (isKey : Key.ofValue? key = some normal)
    (value : Value) :
    AllOrNothing (do charge id oldSize newSize; let _ ← rawSet table key value) world id table key
      value oldSize newSize () := by
  have next := rawSet_of_key isKey table value (fun _ => pure ())
  by_cases room : (world.environment id).heap.HasRoom oldSize newSize
  · left
    obtain ⟨charged, kept⟩ := charge_of_room fits room
    obtain ⟨given, changed⟩ := bind_of_ok (charge id oldSize newSize)
      (fun _ => do let _ ← rawSet table key value) world charged
    rw [kept] at given changed
    refine ⟨room, given.trans (next _).1, normal, isKey, ?_⟩
    rw [changed.trans (next _).2]
    exact stored_of_room there known fits room normal value
  · right
    left
    obtain ⟨refused, kept⟩ := charge_of_full fits room
    obtain ⟨given, changed⟩ := bind_of_error (charge id oldSize newSize)
      (fun _ => do let _ ← rawSet table key value) world refused
    exact ⟨room, given, changed.trans kept⟩

omit there known in
/-- A write that the heap has room for leaves room for its charge. -/
theorem charge_after_store (room : (world.environment id).heap.HasRoom oldSize newSize)
    (key value : Value) :
    outcome (charge id oldSize newSize) (left (rawSet table key value) world) = .ok () := by
  have same : (left (rawSet table key value) world).environment id = world.environment id := by
    rw [left_rawSet]
    cases Key.ofValue? key <;> rfl
  rw [← same] at room fits
  exact (charge_of_room fits room).1

/-- A charge after the entry has been written is all or nothing, as the check before has seen to
the room. -/
theorem store_then_charge (key value : Value) :
    AllOrNothing
      (if oldSize < newSize &&
          !(world.environment id).heap.hasRoomFor (Heap.word (newSize - oldSize)) then
        fail .outOfMemory
      else do
        let _ ← rawSet table key value
        charge id oldSize newSize)
      world id table key value oldSize newSize () := by
  have checked := Heap.refused_iff oldSize fits
  by_cases room : (world.environment id).heap.HasRoom oldSize newSize
  · rw [if_neg (mt checked.mp (not_not_intro room))]
    cases isKey : Key.ofValue? key with
    | some normal =>
      left
      have written := rawSet_of_key isKey table value (fun _ => charge id oldSize newSize) world
      -- Writing the entry leaves the environment and its heap alone.
      obtain ⟨charged, kept⟩ :
          outcome (charge id oldSize newSize)
              (world.setTable table ((world.table table).write normal value)) = .ok () ∧
            left (charge id oldSize newSize)
              (world.setTable table ((world.table table).write normal value)) =
                world.stored id table normal value
                  ((world.environment id).heap.resized oldSize newSize) :=
        charge_of_room fits room
      refine ⟨room, written.1.trans charged, normal, isKey, ?_⟩
      rw [written.2.trans kept]
      exact stored_of_room there known fits room normal value
    | none =>
      right
      right
      have failed := rawSet_of_no_key isKey table value (fun _ => charge id oldSize newSize) world
      exact ⟨isKey, failed.1, failed.2⟩
  · rw [if_pos (checked.mpr room)]
    right
    left
    exact ⟨room, rfl, rfl⟩

end Writes

end Environment

/-- What is all or nothing stays so with a result of its own. -/
theorem AllOrNothing.returning {Result : Type} {action : Action Unit} {world : World}
    {id : EnvironmentId} {table : TableId} {key value : Value} {oldSize newSize : Nat}
    (whole : AllOrNothing action world id table key value oldSize newSize ()) (result : Result) :
    AllOrNothing (do action; return result) world id table key value oldSize newSize result := by
  unfold AllOrNothing at whole ⊢
  rw [outcome_bind, left_bind]
  rcases whole with ⟨room, given, stored⟩ | ⟨full, given, kept⟩ | ⟨noKey, given, kept⟩
  · rw [given]
    exact .inl ⟨room, rfl, stored⟩
  · rw [given]
    exact .inr (.inl ⟨full, rfl, kept⟩)
  · rw [given]
    exact .inr (.inr ⟨noKey, rfl, kept⟩)

/-- Charged writes are all or nothing, for globals, for tables, for assignments to a table, and for
the raw write of scripts, which refuses an absent key by itself. In every environment, with or
without a limit, and for every table, key and value, as long as the count and the new size are a
word together: either the write is done, the key reads as written, every other key of every
table is as before, and the count has changed by the new size less the old one, down to zero at
most and within the limit if it has grown; or it fails and the whole world is as before. In
particular the charge that follows a write to a table never fails. -/
theorem charged_writes_all_or_nothing {world : World} {id : EnvironmentId}
    (housed : world.Houses id) :
    (∀ (name : String) (value : Value),
      (world.environment id).heap.allocated.toNat + Environment.globalSize world name value <
        UInt64.size →
      AllOrNothing (Environment.setGlobal id name value) world id (world.environment id).storage
        (.text name) value
        (Environment.globalSize world name
          ((world.table (world.environment id).storage).read (.text name)))
        (Environment.globalSize world name value) ()) ∧
    ∀ (table : TableId) (key value : Value), table.index < world.tables.size →
      (world.environment id).heap.allocated.toNat + world.entrySize key value < UInt64.size →
      AllOrNothing (Environment.storeInTable id table key value) world id table key value
        (world.entrySize key ((world.table table).get key)) (world.entrySize key value) () ∧
      (∀ (call : Caller) (held : List Reference),
        AllOrNothing (Value.store call held id (.table table) key value) world id table key value
          (world.entrySize key ((world.table table).get key)) (world.entrySize key value) ()) ∧
      (∀ (context : Context) (arguments : List Value), context.environment = some id →
        Arguments.value arguments 0 = .table table → Arguments.value arguments 1 = key →
        Arguments.value arguments 2 = value →
        if key.isNil then
          outcome (Core.rawSet context arguments) world =
              .error (.failed (.argument (.position 2 "rawset" .nilIndex))) ∧
            left (Core.rawSet context arguments) world = world
        else
          AllOrNothing (Core.rawSet context arguments) world id table key value
            (world.entrySize key ((world.table table).get key)) (world.entrySize key value)
            [.table table]) ∧
      ((world.environment id).heap.HasRoom (world.entrySize key ((world.table table).get key))
          (world.entrySize key value) →
        outcome
          (Environment.charge id (world.entrySize key ((world.table table).get key))
            (world.entrySize key value))
          (left (Action.rawSet table key value) world) = .ok ()) := by
  refine ⟨?_, ?_⟩
  · intro name value fits
    have normal : Key.ofValue? (.text name) = some (.text name) := rfl
    apply AllOrNothing.congr rfl
    exact Environment.charge_then_store housed.there housed.storage fits normal value
  · intro table key value known fits
    have whole : AllOrNothing (Environment.storeInTable id table key value) world id table key value
        (world.entrySize key ((world.table table).get key)) (world.entrySize key value) () :=
      AllOrNothing.congr rfl
        (Environment.store_then_charge housed.there known fits key value)
    refine ⟨whole, fun _ _ => whole, ?_, fun room => Environment.charge_after_store fits room key value⟩
    intro context arguments here first second third
    have taken : Core.tableArgument arguments "rawset" = pure table := by
      unfold Core.tableArgument
      rw [first]
    subst second third
    unfold Core.rawSet
    rw [taken, pure_bind]
    dsimp only
    split
    · exact ⟨rfl, rfl⟩
    · rw [here]
      exact whole.returning _

/-- An environment with an empty storage and a limit of a hundred bytes. -/
def narrowWorld : World where
  tables := #[{}]
  environments :=
    #[{ storage := ⟨0⟩, heap := { limit := some 100 }, sink := .elsewhere, compiler := .script }]

/-- A text of eighty bytes. -/
def longText : String :=
  "aaaaaaaaaaaaaaaaaaaaaaaaaaaaaaaaaaaaaaaa" ++
    "aaaaaaaaaaaaaaaaaaaaaaaaaaaaaaaaaaaaaaaa"

/-- In a narrow environment a short entry is written, and a global of 105 bytes is refused with
nothing changed. -/
theorem charged_writes_all_or_nothing_narrow :
    Stored narrowWorld
        (left (Environment.storeInTable ⟨0⟩ ⟨0⟩ (.text "x") (.boolean true)) narrowWorld)
        ⟨0⟩ ⟨0⟩ (.text "x") (.boolean true) 0 49 ∧
      left (Environment.setGlobal ⟨0⟩ "x" (.text longText)) narrowWorld = narrowWorld := by
  have housed : narrowWorld.Houses ⟨0⟩ := ⟨by decide, by decide⟩
  obtain ⟨globals, tables⟩ := charged_writes_all_or_nothing housed
  have limited : (narrowWorld.environment ⟨0⟩).heap = ⟨some 100, 0⟩ := rfl
  constructor
  · obtain ⟨whole, _⟩ :=
      tables ⟨0⟩ (.text "x") (.boolean true) (by decide) (by decide +kernel)
    have sizes : narrowWorld.entrySize (.text "x") ((narrowWorld.table ⟨0⟩).get (.text "x")) = 0 ∧
        narrowWorld.entrySize (.text "x") (.boolean true) = 49 := by
      decide +kernel
    rw [sizes.1, sizes.2] at whole
    rcases whole with ⟨_, _, known, isKey, stored⟩ | ⟨full, _⟩ | ⟨noKey, _⟩
    · obtain rfl : Key.text "x" = known := Option.some.inj isKey
      exact stored
    · refine absurd ?_ full
      intro _ limit known
      rw [limited] at known ⊢
      obtain rfl := Option.some.inj known
      decide
    · contradiction
  · have whole := globals "x" (.text longText) (by decide +kernel)
    have size : Environment.globalSize narrowWorld "x" (.text longText) = 105 := by decide +kernel
    have bare : Environment.globalSize narrowWorld "x"
        ((narrowWorld.table (narrowWorld.environment ⟨0⟩).storage).read (.text "x")) = 0 := by
      decide +kernel
    rw [size, bare] at whole
    rcases whole with ⟨room, _⟩ | ⟨_, _, kept⟩ | ⟨noKey, _⟩
    · have within := room (by decide) 100 (by rw [limited])
      rw [limited] at within
      contradiction
    · exact kept
    · contradiction

end ScriptHost
