import Mathlib.Algebra.Order.BigOperators.Group.Finset
import ScriptHost.Proofs.Environment.Writes
import ScriptHost.Proofs.Table.Sizes

/-!
# The accounts of a heap

Writes to tables through one environment keep its count exact: what it has grown by is what the
tables measure, whichever writes have been refused, replaced or taken back on the way. So no
refund is ever cut.
-/

namespace ScriptHost

open ScriptHost.Action World

/-! ## What writes leave -/

namespace Environment

/-- A charge that passes the check of the heap is made. -/
theorem run_charge {world : World} {id : EnvironmentId} {oldSize newSize : Nat}
    (checked : oldSize < newSize →
      (world.environment id).heap.hasRoomFor (Heap.word (newSize - oldSize)) = true) :
    charge id oldSize newSize world = .ok () (world.setEnvironment id
      { world.environment id with
        heap := (world.environment id).heap.resized oldSize newSize }) := by
  unfold charge Heap.resized
  rw [run_view_bind]
  dsimp only
  split
  · next grows =>
    unfold Heap.charge?
    rw [if_pos (checked grows)]
    rfl
  · rfl

/-- A write to a table leaves the world as it was, or it stores the value and changes the count
for that. -/
theorem left_storeInTable (id : EnvironmentId) (table : TableId) (key value : Value)
    (world : World) :
    left (storeInTable id table key value) world = world ∨
      ∃ known, Key.ofValue? key = some known ∧
        left (storeInTable id table key value) world =
          world.stored id table known value
            ((world.environment id).heap.resized
              (world.entrySize key ((world.table table).get key)) (world.entrySize key value)) := by
  unfold storeInTable
  rw [left_get_bind]
  dsimp only
  split
  · exact .inl rfl
  · next passed =>
    let oldSize := world.entrySize key ((world.table table).get key)
    let newSize := world.entrySize key value
    cases isKey : Key.ofValue? key with
    | none =>
      left
      exact (rawSet_of_no_key isKey table value (fun _ => charge id oldSize newSize) world).2
    | some known =>
      right
      refine ⟨known, rfl, ?_⟩
      rw [(rawSet_of_key isKey table value (fun _ => charge id oldSize newSize) world).2]
      have checked : oldSize < newSize →
          (world.environment id).heap.hasRoomFor (Heap.word (newSize - oldSize)) = true := by
        intro grows
        simpa [oldSize, newSize, grows] using passed
      -- Writing the entry leaves the environment and its heap alone.
      have charged : charge id oldSize newSize
          (world.setTable table ((world.table table).write known value)) = .ok () _ :=
        run_charge checked
      rw [left, charged]
      rfl

end Environment

/-! ## Families of tables -/

/-- What tables measure together. -/
def World.measureAll (world : World) (tables : Finset TableId) : Nat :=
  ∑ table ∈ tables, world.measure table

/-- Tables are there and shallow. -/
structure World.Family (world : World) (tables : Finset TableId) : Prop where
  there : ∀ table ∈ tables, table.index < world.tables.size
  shallow : ∀ table ∈ tables, (world.table table).Shallow

namespace World.Family

variable {world : World} {tables : Finset TableId} (family : world.Family tables)
include family

/-- A family measures the bytes of the entries of its tables. -/
theorem measureAll_eq :
    world.measureAll tables = ∑ table ∈ tables, (world.table table).weight entryBytes :=
  Finset.sum_congr rfl fun table member => measure_of_shallow (family.shallow table member)

variable {table : TableId} (member : table ∈ tables)
include member

/-- What an entry is estimated at is no more than what the family measures. -/
theorem entrySize_le (key : Value) :
    world.entrySize key ((world.table table).get key) ≤ world.measureAll tables := by
  have shallow := family.shallow table member
  unfold Table.get
  cases isKey : Key.ofValue? key with
  | none => exact Nat.zero_le _
  | some known =>
    dsimp only
    rw [world.entrySize_eq isKey (shallow.read known), family.measureAll_eq]
    calc
      entryWeight entryBytes known ((world.table table).read known)
        ≤ (world.table table).weight entryBytes :=
          Table.entryWeight_le entryBytes shallow.distinct shallow.filled known
      _ ≤ ∑ table ∈ tables, (world.table table).weight entryBytes :=
          Finset.single_le_sum (f := fun table => (world.table table).weight entryBytes)
            (fun _ _ => Nat.zero_le _) member

variable (id : EnvironmentId) (key : Key) {value : Value} (bare : value.kind ≠ .table)
  (heap : Heap)
include bare

/-- A family stays there and shallow when a value that is no table is stored. -/
theorem stored : (world.stored id table key value heap).Family tables := by
  constructor
  · intro other known
    have size : (world.stored id table key value heap).tables.size = world.tables.size :=
      Array.size_setIfInBounds
    rw [size]
    exact family.there other known
  · intro other known
    rw [table_stored]
    split
    · exact (family.shallow table member).write key bare
    · exact family.shallow other known

/-- Storing a value adds the bytes of the new entry to what the family measures, and takes off
those of the old one. -/
theorem measureAll_stored :
    (world.stored id table key value heap).measureAll tables +
        entryWeight entryBytes key ((world.table table).read key) =
      world.measureAll tables + entryWeight entryBytes key value := by
  have shallow := family.shallow table member
  have written := Table.weight_write entryBytes shallow.distinct shallow.filled key value
  rw [(family.stored member id key bare heap).measureAll_eq, family.measureAll_eq,
    ← Finset.add_sum_erase tables _ member, ← Finset.add_sum_erase tables _ member]
  have others : ∀ other ∈ tables.erase table,
      ((world.stored id table key value heap).table other).weight entryBytes =
        (world.table other).weight entryBytes := by
    intro other apart
    rw [table_stored, if_neg fun both => Finset.ne_of_mem_erase apart both.1]
  rw [Finset.sum_congr rfl others, table_stored, if_pos ⟨rfl, family.there table member⟩]
  omega

end World.Family

/-! ## Writes to a family -/

/-- A write to a table. -/
structure TableWrite where
  table : TableId
  key : Value
  value : Value

namespace TableWrite

/-- A write to one of some tables, of a value that is no table. -/
structure Fits (write : TableWrite) (tables : Finset TableId) : Prop where
  member : write.table ∈ tables
  bare : write.value.kind ≠ .table

/-- The write through an environment. -/
def run (write : TableWrite) (id : EnvironmentId) : Action Unit :=
  Environment.storeInTable id write.table write.key write.value

variable {world : World} {tables : Finset TableId} {write : TableWrite}
  (family : world.Family tables) (fits : write.Fits tables)
include family fits

/-- A write leaves a family there and shallow. -/
theorem family_left_run (id : EnvironmentId) : (left (write.run id) world).Family tables := by
  unfold run
  rcases Environment.left_storeInTable id write.table write.key write.value world with
    same | ⟨known, _, stored⟩
  · rw [same]
    exact family
  · rw [stored]
    exact family.stored fits.member id known fits.bare _

/-- A write keeps the count exact, as long as that is a word. -/
theorem count_left_run {id : EnvironmentId} (there : id.index < world.environments.size)
    {start : Nat}
    (count : (world.environment id).heap.allocated.toNat = start + world.measureAll tables)
    (word : start + (left (write.run id) world).measureAll tables < UInt64.size) :
    ((left (write.run id) world).environment id).heap.allocated.toNat =
      start + (left (write.run id) world).measureAll tables := by
  unfold run at word ⊢
  have covered := family.entrySize_le fits.member write.key
  rcases Environment.left_storeInTable id write.table write.key write.value world with
    same | ⟨known, isKey, stored⟩
  · rw [same]
    exact count
  · -- The old entry is estimated at no more than the family measures, so its refund is not cut.
    have old : world.entrySize write.key ((world.table write.table).get write.key) =
        entryWeight entryBytes known ((world.table write.table).read known) := by
      unfold Table.get
      rw [isKey]
      exact world.entrySize_eq isKey ((family.shallow write.table fits.member).read known)
    have new : world.entrySize write.key write.value =
        entryWeight entryBytes known write.value :=
      world.entrySize_eq isKey fits.bare
    rw [old, new] at stored
    rw [old] at covered
    have measured := family.measureAll_stored fits.member id known fits.bare
      ((world.environment id).heap.resized
        (entryWeight entryBytes known ((world.table write.table).read known))
        (entryWeight entryBytes known write.value))
    rw [stored] at word ⊢
    rw [environment_stored there, Heap.toNat_allocated_resized]
    · omega
    · have small := (world.environment id).heap.allocated.toNat_lt_size
      omega

end TableWrite

/-- The world after writes through an environment, each with or without success. -/
def World.afterStores (world : World) (id : EnvironmentId) (writes : List TableWrite) : World :=
  writes.foldl (fun world write => left (write.run id) world) world

namespace World

variable {world : World} {id : EnvironmentId}

/-- One more write is run where the others have led. -/
theorem afterStores_append (world : World) (id : EnvironmentId) (writes : List TableWrite)
    (write : TableWrite) :
    world.afterStores id (writes ++ [write]) =
      left (write.run id) (world.afterStores id writes) := by
  unfold afterStores
  rw [List.foldl_append]
  rfl

/-- Writes to tables leave the places of environments. -/
theorem size_afterStores (world : World) (id : EnvironmentId) (writes : List TableWrite) :
    (world.afterStores id writes).environments.size = world.environments.size := by
  induction writes using List.reverseRecOn with
  | nil => rfl
  | append_singleton writes write ih =>
    rw [afterStores_append, ← ih]
    exact (Environment.storeInTable_keeps id write.table write.key write.value _).kept.environments

/-- Writes leave a family there and shallow. -/
theorem family_afterStores {tables : Finset TableId} (family : world.Family tables)
    (id : EnvironmentId) {writes : List TableWrite} (fits : ∀ write ∈ writes, write.Fits tables) :
    (world.afterStores id writes).Family tables := by
  induction writes using List.reverseRecOn with
  | nil => exact family
  | append_singleton writes write ih =>
    rw [afterStores_append]
    have before := ih fun write member => fits write (List.mem_append_left _ member)
    exact TableWrite.family_left_run before (fits write (by simp)) id

end World

/-- Writes to tables keep the count of the heap exact. Different tables start empty and are written
to through one environment, with values that are no tables, under any keys and in any order,
refused writes among them. As long as the sums are words, the count is what it was at the start
and what the tables measure, and no entry of theirs is estimated at more than the count, so that
no refund is cut. -/
theorem table_writes_counted {world : World} {id : EnvironmentId}
    (there : id.index < world.environments.size) {tables : Finset TableId}
    (known : ∀ table ∈ tables, table.index < world.tables.size)
    (empty : ∀ table ∈ tables, (world.table table).entries = [])
    {writes : List TableWrite} (fits : ∀ write ∈ writes, write.Fits tables)
    (words : ∀ prior, prior <+: writes →
      (world.environment id).heap.allocated.toNat +
        (world.afterStores id prior).measureAll tables < UInt64.size) :
    let later := world.afterStores id writes
    (later.environment id).heap.allocated.toNat =
        (world.environment id).heap.allocated.toNat + later.measureAll tables ∧
      ∀ table ∈ tables, ∀ key,
        later.entrySize key ((later.table table).get key) ≤
          (later.environment id).heap.allocated.toNat := by
  have family : world.Family tables :=
    ⟨known, fun table member => Table.shallow_of_empty (empty table member)⟩
  have count : ((world.afterStores id writes).environment id).heap.allocated.toNat =
      (world.environment id).heap.allocated.toNat +
        (world.afterStores id writes).measureAll tables := by
    induction writes using List.reverseRecOn with
    | nil =>
      have nothing : world.measureAll tables = 0 := by
        rw [family.measureAll_eq]
        refine Finset.sum_eq_zero fun table member => ?_
        unfold Table.weight
        rw [empty table member]
        rfl
      exact (Nat.add_zero _).symm.trans (congrArg _ nothing.symm)
    | append_singleton writes write ih =>
      have earlier : ∀ write ∈ writes, write.Fits tables :=
        fun write member => fits write (List.mem_append_left _ member)
      have before := ih earlier fun prior initial =>
        words prior (initial.trans (List.prefix_append _ _))
      have word := words _ List.prefix_rfl
      rw [afterStores_append] at word ⊢
      refine TableWrite.count_left_run (family_afterStores family id earlier) (fits write (by simp))
        ?_ before word
      rw [size_afterStores]
      exact there
  refine ⟨count, fun table member key => ?_⟩
  have covered := (family_afterStores family id fits).entrySize_le member key
  omega

/-- An environment with a limit of a hundred bytes and two tables besides its storage. -/
def twoTables : World where
  tables := #[{}, {}, {}]
  environments :=
    #[{ storage := ⟨2⟩, heap := { limit := some 100 }, sink := .elsewhere, compiler := .script }]

/-- Writes to the two tables: an entry each, the second one replaced under a double for the same
position, one without a key, one for which there is no room, and the first one taken back. -/
def sixWrites : List TableWrite :=
  [⟨⟨0⟩, .text "a", .boolean true⟩, ⟨⟨1⟩, .ofNat 1, .boolean true⟩,
    ⟨⟨1⟩, .number (Binary.Datum.ofInt 1), .text "b"⟩, ⟨⟨0⟩, .nil, .boolean true⟩,
    ⟨⟨0⟩, .text "c", .text longText⟩, ⟨⟨0⟩, .text "a", .nil⟩]

/-- The six writes are counted. -/
theorem table_writes_counted_six :
    let later := twoTables.afterStores ⟨0⟩ sixWrites
    (later.environment ⟨0⟩).heap.allocated.toNat = later.measureAll {⟨0⟩, ⟨1⟩} ∧
      later.measureAll {⟨0⟩, ⟨1⟩} = 49 := by
  intro later
  have all : ∀ write ∈ sixWrites, write.table ∈ ({⟨0⟩, ⟨1⟩} : Finset TableId) ∧
      write.value.kind ≠ .table := by
    decide +kernel
  have words : ∀ prior ∈ sixWrites.inits,
      (twoTables.environment ⟨0⟩).heap.allocated.toNat +
        (twoTables.afterStores ⟨0⟩ prior).measureAll {⟨0⟩, ⟨1⟩} < UInt64.size := by
    decide +kernel
  obtain ⟨count, _⟩ := table_writes_counted (show 0 < twoTables.environments.size by decide)
    (show ∀ table ∈ ({⟨0⟩, ⟨1⟩} : Finset TableId), _ by decide)
    (show ∀ table ∈ ({⟨0⟩, ⟨1⟩} : Finset TableId), _ by decide)
    (fun write member => ⟨(all write member).1, (all write member).2⟩)
    fun prior initial => words prior ((List.mem_inits prior sixWrites).mpr initial)
  have start : (twoTables.environment ⟨0⟩).heap.allocated.toNat = 0 := rfl
  rw [start, Nat.zero_add] at count
  exact ⟨count, by decide +kernel⟩

end ScriptHost
