import ScriptHost.Proofs.Table.Entries
import ScriptHost.World.Measure

/-!
# Sizes of tables

What the entries of a table weigh together changes with a write by the weight of the new entry
less that of the old one. A table without tables among its values measures what its entries
weigh, keys as they are normalized, and that is how the entries are estimated before.
-/

namespace ScriptHost

/-! ## Weights of entries -/

section Weights

variable (worth : Key → Value → Nat)

/-- What entries weigh together. -/
def weigh (entries : List (Key × Value)) : Nat :=
  total (entries.map fun entry => worth entry.1 entry.2)

/-- What is found under a key weighs. -/
def foundWeight (key : Key) (entries : List (Key × Value)) : Nat :=
  (findEntry key entries).elim 0 (worth key)

/-- Entries weigh the first one and the others. -/
theorem weigh_cons (key : Key) (value : Value) (rest : List (Key × Value)) :
    weigh worth ((key, value) :: rest) = worth key value + weigh worth rest := rfl

/-- Under the key of the first entry its value is found. -/
theorem foundWeight_head (key : Key) (value : Value) (rest : List (Key × Value)) :
    foundWeight worth key ((key, value) :: rest) = worth key value := by
  simp [foundWeight, findEntry]

/-- Under another key than that of the first entry the others are searched. -/
theorem foundWeight_tail {key other : Key} (apart : other ≠ key) (value : Value)
    (rest : List (Key × Value)) :
    foundWeight worth key ((other, value) :: rest) = foundWeight worth key rest := by
  simp [foundWeight, findEntry, apart]

/-- Putting an entry adds its weight and takes off that of the entry replaced. -/
theorem weigh_putEntry (key : Key) (value : Value) (entries : List (Key × Value)) :
    weigh worth (putEntry key value entries) + foundWeight worth key entries =
      weigh worth entries + worth key value := by
  induction entries with
  | nil => exact Nat.add_comm _ _
  | cons entry rest ih =>
    obtain ⟨other, old⟩ := entry
    by_cases same : other = key
    · subst same
      rw [putEntry, if_pos rfl, foundWeight_head, weigh_cons, weigh_cons]
      omega
    · rw [putEntry, if_neg same, foundWeight_tail worth same, weigh_cons, weigh_cons]
      omega

/-- Dropping an entry takes off its weight. -/
theorem weigh_dropEntry (key : Key) {entries : List (Key × Value)}
    (distinct : (entries.map (·.1)).Nodup) :
    weigh worth (dropEntry key entries) + foundWeight worth key entries =
      weigh worth entries := by
  induction entries with
  | nil => rfl
  | cons entry rest ih =>
    obtain ⟨other, old⟩ := entry
    obtain ⟨fresh, apart⟩ := List.nodup_cons.mp distinct
    by_cases same : other = key
    · subst same
      have gone : dropEntry other ((other, old) :: rest) = rest := by
        unfold dropEntry
        rw [List.filter_cons_of_neg (by simp)]
        exact dropEntry_of_missing (findEntry_eq_none_iff.mpr fresh)
      rw [gone, foundWeight_head, weigh_cons]
      omega
    · have kept : dropEntry key ((other, old) :: rest) = (other, old) :: dropEntry key rest := by
        unfold dropEntry
        rw [List.filter_cons_of_pos (by simpa using same)]
      have further := ih apart
      rw [kept, foundWeight_tail worth same, weigh_cons, weigh_cons]
      omega

/-- The weight of an entry. One whose value is `nil` is none. -/
def entryWeight (key : Key) (value : Value) : Nat := if value.isNil then 0 else worth key value

namespace Table

/-- What the entries of a table weigh together. -/
def weight (table : Table) : Nat := weigh worth table.entries

variable {table : Table} (distinct : table.Distinct) (filled : table.Filled) (key : Key)
include filled

/-- What is found under a key weighs what the entry does that reading gives. -/
theorem foundWeight_eq :
    foundWeight worth key table.entries = entryWeight worth key (table.read key) := by
  have absent := filled.read_eq_nil key
  unfold foundWeight entryWeight read at *
  cases found : findEntry key table.entries with
  | none => rfl
  | some value =>
    have present : value ≠ .nil := filled _ (mem_of_findEntry found)
    cases value <;> first | rfl | contradiction

include distinct

/-- A write adds the weight of the new entry and takes off that of the old one. -/
theorem weight_write (value : Value) :
    (table.write key value).weight worth + entryWeight worth key (table.read key) =
      table.weight worth + entryWeight worth key value := by
  rw [← foundWeight_eq worth filled key]
  unfold write weight
  cases value with
  | nil => exact weigh_dropEntry worth key distinct
  | _ => exact weigh_putEntry worth key _ table.entries

/-- An entry weighs no more than its table. -/
theorem entryWeight_le : entryWeight worth key (table.read key) ≤ table.weight worth := by
  have cleared := weight_write worth distinct filled key .nil
  have nothing : entryWeight worth key .nil = 0 := rfl
  omega

end Table

end Weights

/-! ## Measures and estimates -/

/-- A table that writes of other values than tables have made of an empty one: different keys, no
`nil`, and no tables. -/
structure Table.Shallow (table : Table) : Prop where
  distinct : table.Distinct
  filled : table.Filled
  bare : ∀ entry ∈ table.entries, entry.2.kind ≠ .table

namespace Table

/-- A table without entries is shallow. -/
theorem shallow_of_empty {table : Table} (empty : table.entries = []) : table.Shallow := by
  refine ⟨?_, ?_, ?_⟩
  · unfold Distinct
    rw [empty]
    exact List.nodup_nil
  · intro entry member
    rw [empty] at member
    contradiction
  · intro entry member
    rw [empty] at member
    contradiction

namespace Shallow

variable {table : Table} (shallow : table.Shallow)
include shallow

/-- Writing what is no table leaves a table shallow. -/
theorem write (key : Key) {value : Value} (bare : value.kind ≠ .table) :
    (table.write key value).Shallow := by
  refine ⟨shallow.distinct.write key value, shallow.filled.write key value, ?_⟩
  unfold Table.write
  split
  · intro entry member
    exact shallow.bare entry (List.mem_filter.mp member).1
  · intro entry member
    rcases mem_putEntry member with rfl | old
    · exact bare
    · exact shallow.bare entry old

/-- A shallow table reads as what is no table. -/
theorem read (key : Key) : (table.read key).kind ≠ .table := by
  unfold Table.read
  cases found : findEntry key table.entries with
  | none => simp [Value.kind]
  | some value => exact shallow.bare _ (mem_of_findEntry found)

/-- There are no tables in a shallow table. -/
theorem inner : table.inner = [] := by
  unfold Table.inner
  rw [List.filterMap_eq_nil_iff]
  intro entry member
  have bare := shallow.bare entry member
  split
  · next id same =>
    rw [same] at bare
    exact absurd rfl bare
  · rfl

end Shallow

end Table

namespace World

variable {world : World}

/-- From a shallow table no other table is reached. -/
theorem reachable_of_shallow {id : TableId} (shallow : (world.table id).Shallow) :
    world.reachable id = [id] := by
  unfold reachable reachSteps
  rw [reach, if_neg List.not_mem_nil, shallow.inner]
  cases total (world.tables.toList.map (·.inner.length)) <;> rfl

/-- A shallow table measures the bytes of its entries. -/
theorem measure_of_shallow {id : TableId} (shallow : (world.table id).Shallow) :
    world.measure id = (world.table id).ownSize := by
  unfold measure
  rw [reachable_of_shallow shallow]
  rfl

/-- A value that is no table has its own size. -/
theorem valueSize_of_bare (world : World) {value : Value} (bare : value.kind ≠ .table) :
    world.valueSize value = value.ownSize := by
  cases value with
  | reference target =>
    cases target with
    | table id => exact absurd rfl bare
    | _ => rfl
  | _ => rfl

end World

/-- A value has the size of the key that it is normalized to. -/
theorem Key.size_of_ofValue? {value : Value} {key : Key} (known : Key.ofValue? value = some key) :
    key.size = value.ownSize := by
  cases value with
  | nil => contradiction
  | boolean content | text content | reference target =>
    obtain rfl := Option.some.inj known
    rfl
  | int kind content | single content | number content =>
    -- A number becomes an integer key or a float key, and both have the size of a number.
    unfold ofValue? at known
    dsimp only at known
    repeat' split at known
    all_goals first | contradiction | (obtain rfl := Option.some.inj known; rfl)

/-- The bytes of an entry as they are measured. -/
def entryBytes (key : Key) (value : Value) : Nat := key.size + value.ownSize

/-- An entry is estimated the way it is measured. -/
theorem World.entrySize_eq (world : World) {value : Value} {key : Key} {content : Value}
    (known : Key.ofValue? value = some key) (bare : content.kind ≠ .table) :
    world.entrySize value content = entryWeight entryBytes key content := by
  unfold entrySize entryWeight entryBytes
  rw [Key.size_of_ofValue? known, world.valueSize_of_bare bare]

end ScriptHost
