import ScriptHost.Proofs.Environment.Accounts

/-!
# What globals are charged and measured

A write to a global is charged with the bytes of the name and of the value, while a measure
counts every key as a value besides. So the count of an environment lags behind what its
storage measures by a fixed amount for each global that has come since the last collection,
and is ahead by as much for each one that has gone.
-/

namespace ScriptHost

open ScriptHost.Action World

/-! ## Charges and measures -/

/-- The bytes that an entry of the storage is charged with: those of its name and its value. -/
def chargedBytes (key : Key) (value : Value) : Nat := key.size - valueBytes + value.ownSize

/-- The bytes of an entry as they are measured are those that it is charged with and those of a
key. -/
theorem entryBytes_eq (key : Key) (value : Value) :
    entryBytes key value = chargedBytes key value + valueBytes := by
  have key : valueBytes ≤ key.size := by
    cases key with
    | text content => exact Nat.le_add_right _ _
    | _ => exact Nat.le_refl _
  unfold entryBytes chargedBytes
  omega

/-- Entries that each weigh more by a fixed amount together weigh more by so many. -/
theorem weigh_add {worth more : Key → Value → Nat} {extra : Nat}
    (adds : ∀ key value, more key value = worth key value + extra)
    (entries : List (Key × Value)) :
    weigh more entries = weigh worth entries + extra * entries.length := by
  induction entries with
  | nil => rfl
  | cons entry rest ih =>
    obtain ⟨key, value⟩ := entry
    rw [weigh_cons, weigh_cons, ih, adds, List.length_cons, Nat.mul_succ]
    omega

/-- A shallow table measures what its entries would be charged with, and a key for each. -/
theorem World.measure_eq_charged {world : World} {id : TableId}
    (shallow : (world.table id).Shallow) :
    world.measure id =
      (world.table id).weight chargedBytes + valueBytes * (world.table id).count :=
  (measure_of_shallow shallow).trans (weigh_add entryBytes_eq (world.table id).entries)

/-- A global that is no table is charged with the bytes of its name and its value. -/
theorem Environment.globalSize_eq (world : World) (name : String) {value : Value}
    (bare : value.kind ≠ .table) :
    globalSize world name value = entryWeight chargedBytes (.text name) value := by
  have size : (Key.text name).size - valueBytes = name.utf8ByteSize := Nat.add_sub_cancel_left _ _
  unfold globalSize entryWeight chargedBytes
  rw [world.valueSize_of_bare bare, size, Nat.add_comm]

/-! ## Writes and collections -/

/-- Without a limit a write to a global stores the value and changes the count for that. -/
theorem Environment.left_setGlobal {world : World} {id : EnvironmentId}
    (unlimited : (world.environment id).heap.limit = none) (name : String) (value : Value) :
    let storage := (world.environment id).storage
    left (setGlobal id name value) world = world.stored id storage (.text name) value
      ((world.environment id).heap.resized
        (globalSize world name ((world.table storage).read (.text name)))
        (globalSize world name value)) := by
  intro storage
  let oldSize := globalSize world name ((world.table storage).read (.text name))
  let newSize := globalSize world name value
  have checked : oldSize < newSize →
      (world.environment id).heap.hasRoomFor (Heap.word (newSize - oldSize)) = true := by
    intro _
    unfold Heap.hasRoomFor
    rw [unlimited]
  have charged := run_charge checked
  obtain ⟨_, changed⟩ := bind_of_ok (charge id oldSize newSize)
    (fun _ => do let _ ← rawSet storage (.text name) value) world (by rw [outcome, charged])
  refine changed.trans ?_
  rw [left, left, charged]
  rfl

/-- What the count of an environment without a limit is made of: the bytes that the globals are
charged with, and a key for each global that the last collection has measured. -/
structure Booked (world : World) (id : EnvironmentId) (collected : Nat) : Prop where
  housed : world.Houses id
  unlimited : (world.environment id).heap.limit = none
  shallow : (world.table (world.environment id).storage).Shallow
  count : (world.environment id).heap.allocated.toNat =
    (world.table (world.environment id).storage).weight chargedBytes + valueBytes * collected
  word : world.measure (world.environment id).storage < UInt64.size

namespace Booked

variable {world : World} {id : EnvironmentId} {collected : Nat}
  (booked : Booked world id collected)
include booked

/-- A value stored in the storage is booked with its charge. -/
theorem stored (key : Key) {value : Value} (bare : value.kind ≠ .table) :
    let storage := (world.environment id).storage
    let heap := (world.environment id).heap.resized
      (entryWeight chargedBytes key ((world.table storage).read key))
      (entryWeight chargedBytes key value)
    let later := world.stored id storage key value heap
    later.measure storage + valueBytes * collected < UInt64.size → Booked later id collected := by
  intro storage heap later word
  have shallow : (world.table storage).Shallow := booked.shallow
  have count : (world.environment id).heap.allocated.toNat =
    (world.table storage).weight chargedBytes + valueBytes * collected := booked.count
  have environment : later.environment id = { world.environment id with heap } :=
    environment_stored booked.housed.there storage key value heap
  have table : later.table storage = (world.table storage).write key value :=
    (world.table_stored id storage key value heap storage).trans
      (if_pos ⟨rfl, booked.housed.storage⟩)
  have written : (later.table storage).Shallow := table ▸ shallow.write key bare
  -- The old entry weighs no more than the storage, so that no refund is cut.
  have small := (world.environment id).heap.allocated.toNat_lt_size
  have covered := Table.entryWeight_le chargedBytes shallow.distinct shallow.filled key
  have weighed := Table.weight_write chargedBytes shallow.distinct shallow.filled key value
  have measured := measure_eq_charged written
  rw [table] at measured
  have storage' : (later.environment id).storage = storage := by rw [environment]
  refine ⟨⟨?_, ?_⟩, ?_, ?_, ?_, ?_⟩
  · exact Nat.lt_of_lt_of_eq booked.housed.there Array.size_setIfInBounds.symm
  · rw [storage']
    exact Nat.lt_of_lt_of_eq booked.housed.storage Array.size_setIfInBounds.symm
  · rw [environment]
    unfold heap Heap.resized
    split <;> exact booked.unlimited
  · rw [storage']
    exact written
  · rw [storage', table, environment, Heap.toNat_allocated_resized]
    · omega
    · omega
  · rw [storage']
    omega

/-- A write to a global is booked. -/
theorem setGlobal (name : String) {value : Value} (bare : value.kind ≠ .table)
    (word : (left (Environment.setGlobal id name value) world).measure
      (world.environment id).storage + valueBytes * collected < UInt64.size) :
    Booked (left (Environment.setGlobal id name value) world) id collected := by
  have changed := Environment.left_setGlobal booked.unlimited name value
  dsimp only at changed
  rw [Environment.globalSize_eq world name bare,
    Environment.globalSize_eq world name (booked.shallow.read (.text name))] at changed
  rw [changed] at word ⊢
  exact booked.stored (.text name) bare word

/-- A collection is booked, with the globals that it measures. -/
theorem collect : Booked (left (Environment.collect id) world) id
    (world.table (world.environment id).storage).count := by
  let storage := (world.environment id).storage
  let heap := (world.environment id).heap.reset (UInt64.ofNat (world.measure storage))
  have changed : left (Environment.collect id) world =
      world.setEnvironment id { world.environment id with heap } := rfl
  have environment : (left (Environment.collect id) world).environment id =
      { world.environment id with heap } := by
    rw [changed, environment_setEnvironment, if_pos ⟨rfl, booked.housed.there⟩]
  refine ⟨⟨?_, ?_⟩, ?_, ?_, ?_, ?_⟩
  · exact Nat.lt_of_lt_of_eq booked.housed.there Array.size_setIfInBounds.symm
  · rw [environment]
    exact booked.housed.storage
  · rw [environment]
    exact booked.unlimited
  · rw [environment]
    exact booked.shallow
  · rw [environment]
    show (UInt64.ofNat (world.measure storage)).toNat = _
    rw [UInt64.toNat_ofNat', Nat.mod_eq_of_lt booked.word]
    exact measure_eq_charged booked.shallow
  · have later : ((left (Environment.collect id) world).table storage).Shallow := booked.shallow
    have measured : (left (Environment.collect id) world).measure storage = world.measure storage :=
      (measure_of_shallow later).trans (measure_of_shallow booked.shallow).symm
    rw [environment]
    exact measured ▸ booked.word

end Booked

/-- The worlds that writes to globals and collections lead to, in any order, with the number of
globals that the last collection has measured. Values are contents, and what is measured is a
word together with a key for each of those globals. -/
inductive GlobalHistory (id : EnvironmentId) (start : World) : Nat → World → Prop where
  | start : GlobalHistory id start 0 start
  | write {collected : Nat} {world : World} (before : GlobalHistory id start collected world)
    (name : String) (value : Value) (content : value.kind.isByContent = true)
    (word : (left (Environment.setGlobal id name value) world).measure
      (world.environment id).storage + valueBytes * collected < UInt64.size) :
    GlobalHistory id start collected (left (Environment.setGlobal id name value) world)
  | collect {collected : Nat} {world : World} (before : GlobalHistory id start collected world) :
    GlobalHistory id start (world.table (world.environment id).storage).count
      (left (Environment.collect id) world)

/-- A history of an environment that starts without globals is booked. -/
theorem GlobalHistory.booked {id : EnvironmentId} {start world : World} {collected : Nat}
    (history : GlobalHistory id start collected world) (fresh : Booked start id 0) :
    Booked world id collected := by
  induction history with
  | start => exact fresh
  | write before name value content word ih =>
    have bare : value.kind ≠ .table := by
      intro table
      rw [table] at content
      contradiction
    exact ih.setGlobal name bare word
  | collect before ih => exact ih.collect

/-- Globals are counted without their keys. In an environment that starts without a limit, without
globals and with nothing counted, whatever contents are written to globals, replaced and taken
back, and whenever there are collections: the count lags behind what the storage measures by the
bytes of a value for each global, and is ahead by as much for each global that the last
collection has measured. So the two are the same exactly where there are as many globals as at
the last collection, or none if there was no collection. No refund of a global is cut. -/
theorem globals_counted {id : EnvironmentId} {start : World} (housed : start.Houses id)
    (unlimited : (start.environment id).heap = { limit := none })
    (empty : (start.table (start.environment id).storage).entries = []) {collected : Nat}
    {world : World} (history : GlobalHistory id start collected world) :
    let storage := (world.environment id).storage
    let count := (world.environment id).heap.allocated.toNat
    count + valueBytes * (world.table storage).count =
        world.measure storage + valueBytes * collected ∧
      (count = world.measure storage ↔ (world.table storage).count = collected) ∧
      ∀ name,
        Environment.globalSize world name ((world.table storage).read (.text name)) ≤ count := by
  intro storage count
  have shallow := Table.shallow_of_empty empty
  have nothing : (start.table (start.environment id).storage).weight chargedBytes = 0 := by
    unfold Table.weight
    rw [empty]
    rfl
  have measured := measure_eq_charged shallow
  have fresh : Booked start id 0 := by
    refine ⟨housed, ?_, shallow, ?_, ?_⟩
    · rw [unlimited]
    · rw [unlimited, nothing]
      rfl
    · rw [measured, nothing, Table.count, empty]
      decide
  have booked := history.booked fresh
  have flat : (world.table storage).Shallow := booked.shallow
  have counted : count = (world.table storage).weight chargedBytes + valueBytes * collected :=
    booked.count
  have equal := measure_eq_charged flat
  have key : valueBytes = 24 := rfl
  rw [key] at counted equal ⊢
  refine ⟨by omega, by omega, fun name => ?_⟩
  rw [Environment.globalSize_eq world name (flat.read (.text name))]
  have covered := Table.entryWeight_le chargedBytes flat.distinct flat.filled (.text name)
  omega

/-- An environment without a limit and without globals. -/
def bareEnvironment : World where
  tables := #[{}]
  environments :=
    #[{ storage := ⟨0⟩, heap := { limit := none }, sink := .elsewhere, compiler := .script }]

/-- The environment with a global. -/
def oneGlobal : World := left (Environment.setGlobal ⟨0⟩ "x" (.boolean true)) bareEnvironment

/-- The environment after a collection. -/
def oneCollected : World := left (Environment.collect ⟨0⟩) oneGlobal

/-- The environment with its global taken back after the collection. -/
def noneLeft : World := left (Environment.setGlobal ⟨0⟩ "x" .nil) oneCollected

/-- A global that is written is counted without its key. Once it has been measured and is taken
back, its key stays counted. -/
theorem globals_counted_left_over :
    (oneGlobal.environment ⟨0⟩).heap.allocated.toNat + valueBytes = oneGlobal.measure ⟨0⟩ ∧
      (noneLeft.environment ⟨0⟩).heap.allocated.toNat = noneLeft.measure ⟨0⟩ + valueBytes := by
  have housed : bareEnvironment.Houses ⟨0⟩ := ⟨by decide, by decide⟩
  have one : (oneGlobal.table (oneGlobal.environment ⟨0⟩).storage).count = 1 := by decide +kernel
  have none : (noneLeft.table (noneLeft.environment ⟨0⟩).storage).count = 0 := by decide +kernel
  have written : GlobalHistory ⟨0⟩ bareEnvironment 0 oneGlobal :=
    .write .start "x" (.boolean true) rfl (by decide +kernel)
  have collected : GlobalHistory ⟨0⟩ bareEnvironment 1 oneCollected := one ▸ .collect written
  have cleared : GlobalHistory ⟨0⟩ bareEnvironment 1 noneLeft :=
    collected.write "x" .nil rfl (by decide +kernel)
  have behind := (globals_counted housed rfl rfl written).1
  have ahead := (globals_counted housed rfl rfl cleared).1
  rw [one] at behind
  rw [none] at ahead
  exact ⟨behind, ahead⟩

end ScriptHost
