import Mathlib.Data.Finset.Card
import ScriptHost.Proofs.Environment.Operations
import ScriptHost.Proofs.Table.Entries
import ScriptHost.Proofs.Value.Key
import ScriptHost.Proofs.World.Kept

/-!
# Tables are finite maps

Any number of writes, failing ones among them, make of a new table the finite map that the
last successful write under each key describes. The table has an entry for each key whose
last value is not `nil` and no other, and its length is the number of positions in a row
from one that have values.
-/

namespace ScriptHost

open ScriptHost.Action ScriptHost.Binary World

/-! ## Values that are no keys -/

/-- The values that are no keys are `nil` and the data that are no numbers. -/
theorem Key.ofValue?_eq_none_iff (value : Value) :
    ofValue? value = none ↔ value.isNil = true ∨ value.isNaN = true := by
  constructor
  · intro missing
    by_contra other
    obtain ⟨present, number⟩ := not_or.mp other
    have can : value.CanBeKey := ⟨Bool.not_eq_true _ ▸ present, Bool.not_eq_true _ ▸ number⟩
    obtain ⟨key, known, -⟩ := can.exists_key
    rw [missing] at known
    contradiction
  · rintro (absent | noNumber)
    · cases value with
      | nil => rfl
      | _ => contradiction
    · cases value with
      | single content =>
        have nan : content.convert .double = Datum.nan := Datum.convert_of_isNaN noNumber
        have noInteger : (Datum.nan : Double).toInt64? = none := Datum.toInt64?_of_isNaN (by decide)
        have noNumber : (Datum.nan : Double).isNaN = true := by decide
        simp [ofValue?, Value.toInt64?, Value.toDouble?, nan, noInteger, noNumber]
      | number content =>
        have nan : content.isNaN = true := noNumber
        simp [ofValue?, Value.toInt64?, Value.toDouble?, Datum.toInt64?_of_isNaN nan, nan]
      | _ => contradiction

namespace Table

/-! ## Writes in a row -/

/-- The last value written under a key, `nil` if there has been none. Writes under values that are
no keys do not count. -/
def lastWritten (writes : List (Value × Value)) (key : Key) : Value :=
  ((writes.filter fun write => Key.ofValue? write.1 = some key).getLast?.map (·.2)).getD .nil

/-- The keys of writes. -/
def writtenKeys (writes : List (Value × Value)) : Finset Key :=
  (writes.filterMap fun write => Key.ofValue? write.1).toFinset

/-- The table after a write. One that fails leaves it alone. -/
def after (table : Table) (write : Value × Value) : Table :=
  match table.set write.1 write.2 with
  | .ok (_, written) => written
  | .error _ => table

/-- The next write is the last one under its key. -/
theorem lastWritten_append (writes : List (Value × Value)) (write : Value × Value) (key : Key) :
    lastWritten (writes ++ [write]) key =
      if Key.ofValue? write.1 = some key then write.2 else lastWritten writes key := by
  unfold lastWritten
  rw [List.filter_append]
  by_cases here : Key.ofValue? write.1 = some key <;> simp [here]

/-- Only the keys of writes have a last value. -/
theorem mem_writtenKeys {writes : List (Value × Value)} {key : Key}
    (present : lastWritten writes key ≠ .nil) : key ∈ writtenKeys writes := by
  unfold writtenKeys
  rw [List.mem_toFinset, List.mem_filterMap]
  by_contra none
  have unnamed : (writes.filter fun write => Key.ofValue? write.1 = some key) = [] := by
    rw [List.filter_eq_nil_iff]
    intro write member named
    exact none ⟨write, member, of_decide_eq_true named⟩
  unfold lastWritten at present
  rw [unnamed] at present
  exact present rfl

/-- A write leaves a table as it was, or with the value under the key. -/
theorem after_eq (table : Table) (write : Value × Value) :
    table.after write =
      match Key.ofValue? write.1 with
      | some key => table.write key write.2
      | none => table := by
  unfold after set
  cases Key.ofValue? write.1 <;> rfl

/-- After writes every key reads as the last value written under it. -/
theorem read_afterAll (writes : List (Value × Value)) (key : Key) :
    (writes.foldl after {}).read key = lastWritten writes key := by
  induction writes using List.reverseRecOn with
  | nil => rfl
  | append_singleton writes write ih =>
    rw [List.foldl_append, List.foldl_cons, List.foldl_nil, lastWritten_append, after_eq]
    cases normal : Key.ofValue? write.1 with
    | none => simpa using ih
    | some written => simp only [read_write, ih, Option.some.injEq]

/-- Writes leave the entries of a table different and filled. -/
theorem afterAll_wellFormed (writes : List (Value × Value)) :
    (writes.foldl after {}).Distinct ∧ (writes.foldl after {}).Filled := by
  induction writes using List.reverseRecOn with
  | nil => exact ⟨List.nodup_nil, filled_empty⟩
  | append_singleton writes write ih =>
    rw [List.foldl_append, List.foldl_cons, List.foldl_nil, after_eq]
    cases Key.ofValue? write.1 with
    | none => exact ih
    | some key => exact ⟨ih.1.write key write.2, ih.2.write key write.2⟩

/-! ## Length -/

/-- A number of positions in a row from one that have values, where the next position has none.
Positions are 64-bit integers, whichever kind of number stands for them. -/
structure Border (table : Table) (length : Nat) : Prop where
  within : ∀ (position : Value) (word : Int64), position.toInt64? = some word → 1 ≤ word.toInt →
    word.toInt ≤ length → table.get position ≠ .nil
  beyond : ∀ (position : Value) (word : Int64), position.toInt64? = some word →
    word.toInt = length + 1 → table.get position = .nil

/-- Going along positions takes one step for each at most. -/
theorem borderFrom_le (table : Table) (steps known : Nat) :
    table.borderFrom steps known ≤ known + steps := by
  induction steps generalizing known with
  | zero => exact Nat.le_refl known
  | succ steps ih =>
    unfold borderFrom
    split
    · have further := ih (known + 1)
      omega
    · exact Nat.le_add_right known (steps + 1)

/-- Going along positions stops at one that has no value, or where the steps run out. -/
theorem borderFrom_spec (table : Table) (steps known : Nat) :
    known ≤ table.borderFrom steps known ∧
      (∀ position, known < position → position ≤ table.borderFrom steps known →
        findEntry (.integer (Int64.ofNat position)) table.entries ≠ none) ∧
      (findEntry (.integer (Int64.ofNat (table.borderFrom steps known + 1))) table.entries = none ∨
        table.borderFrom steps known = known + steps) := by
  induction steps generalizing known with
  | zero =>
    exact ⟨Nat.le_refl _, fun _ above within => absurd above (Nat.not_lt.mpr within), .inr rfl⟩
  | succ steps ih =>
    unfold borderFrom
    split
    · next value found =>
      obtain ⟨further, within, stops⟩ := ih (known + 1)
      refine ⟨by omega, fun position above below => ?_, stops.imp_right fun _ => by omega⟩
      by_cases first : position = known + 1
      · rw [first, found]
        exact Option.some_ne_none value
      · exact within position (by omega) below
    · next missing =>
      exact ⟨Nat.le_refl _, fun _ above within => absurd above (Nat.not_lt.mpr within),
        .inl missing⟩

/-- Positions are different keys as long as they fit words. -/
theorem position_inj {left right : Nat} (low : left < 2 ^ 63) (high : right < 2 ^ 63)
    (same : Key.integer (Int64.ofNat left) = .integer (Int64.ofNat right)) : left = right := by
  have words := congrArg Int64.toInt (Key.integer.inj same)
  rw [Int64.toInt_ofNat_of_lt low, Int64.toInt_ofNat_of_lt high] at words
  exact Int.ofNat.inj words

/-- A table has fewer positions in a row than entries, if the next position is taken too. -/
theorem exists_missing {table : Table} (length : Nat) (room : length + 1 < 2 ^ 63)
    (taken : ∀ position, 0 < position → position ≤ length + 1 →
      findEntry (.integer (Int64.ofNat position)) table.entries ≠ none) :
    length < table.count := by
  let positions := (List.range (length + 1)).map fun place => Key.integer (Int64.ofNat (place + 1))
  have different : positions.Nodup := by
    refine (List.nodup_map_iff_inj_on List.nodup_range).mpr fun left low right high same => ?_
    rw [List.mem_range] at low high
    exact Nat.succ.inj (position_inj (by omega) (by omega) same)
  have known : positions ⊆ table.entries.map (·.1) := by
    intro key member
    obtain ⟨place, inside, rfl⟩ := List.mem_map.mp member
    rw [List.mem_range] at inside
    by_contra missing
    exact taken (place + 1) (by omega) (by omega) (findEntry_eq_none_iff.mpr missing)
  have fewer := different.length_le_of_subset known
  rw [List.length_map, List.length_map, List.length_range] at fewer
  exact fewer

/-- The length of a table is its border. -/
theorem border_length {table : Table} (filled : table.Filled) : table.Border table.length := by
  obtain ⟨-, within, stops⟩ := table.borderFrom_spec table.count 0
  rw [Nat.zero_add] at stops
  have word (position : Nat) (word : Int64) (same : word.toInt = position) :
      Int64.ofNat position = word := by
    rw [← Int64.ofInt_eq_ofNat, ← same, Int64.ofInt_toInt]
  constructor
  · intro position integer stands low high missing
    have place : Int64.ofNat integer.toInt.toNat = integer := word _ _ (by omega)
    have present := within integer.toInt.toNat (by omega) (show _ ≤ table.length by omega)
    rw [place] at present
    rw [get, Value.key_of_word stands] at missing
    exact present ((filled.read_eq_nil _).mp missing)
  · intro position integer stands next
    have place : Int64.ofNat (table.length + 1) = integer := word _ _ next
    have missing : findEntry (.integer integer) table.entries = none := by
      rcases stops with missing | all
      · rw [← place]
        exact missing
      · -- All entries are positions up to the length, so no place is left for the next one.
        by_contra present
        have high := integer.toInt_lt
        refine Nat.lt_irrefl table.count ?_
        refine exists_missing table.count ?_ fun other low below => ?_
        · have same : table.length = table.count := all
          omega
        · by_cases last : other = table.count + 1
          · rw [last, ← all]
            exact place ▸ present
          · exact within other low (by rw [all]; omega)
    rw [get, Value.key_of_word stands]
    exact (filled.read_eq_nil _).mpr missing

/-! ## The map that writes describe -/

/-- A table that is the finite map of some writes. -/
structure Reflects (table : Table) (writes : List (Value × Value)) : Prop where
  /-- A value reads as the last value written under its key, and as `nil` if it is none. -/
  get : ∀ value, table.get value =
    match Key.ofValue? value with
    | some key => lastWritten writes key
    | none => .nil
  filled : table.Filled
  /-- The number of entries is that of the keys whose last value is not `nil`. -/
  count : table.count = ((writtenKeys writes).filter fun key => lastWritten writes key ≠ .nil).card
  isEmpty : table.isEmpty = true ↔ table.count = 0
  border : table.Border table.length

/-- Writes make the finite map that they describe of a new table. -/
theorem reflects_afterAll (writes : List (Value × Value)) :
    (writes.foldl after {}).Reflects writes := by
  obtain ⟨distinct, filled⟩ := afterAll_wellFormed writes
  refine ⟨fun value => ?_, filled, ?_, ?_, border_length filled⟩
  · unfold Table.get
    cases Key.ofValue? value with
    | none => rfl
    | some key => exact read_afterAll writes key
  · have keys : ((writes.foldl after {}).entries.map (·.1)).toFinset =
        (writtenKeys writes).filter fun key => lastWritten writes key ≠ .nil := by
      ext key
      rw [List.mem_toFinset, Finset.mem_filter, ← read_afterAll, Ne, filled.read_eq_nil,
        findEntry_eq_none_iff, not_not]
      refine ⟨fun known => ⟨mem_writtenKeys ?_, known⟩, And.right⟩
      rw [← read_afterAll, Ne, filled.read_eq_nil, findEntry_eq_none_iff, not_not]
      exact known
    rw [← keys, List.toFinset_card_of_nodup distinct, List.length_map]
    rfl
  · exact List.isEmpty_iff_length_eq_zero

end Table

/-! ## Writes to a new table -/

/-- The world after writes to a table. -/
def World.afterWrites (world : World) (id : TableId) (writes : List (Value × Value)) : World :=
  writes.foldl (fun world write => left (rawSet id write.1 write.2) world) world

namespace World

/-- A write to a table leaves it as the write makes it. -/
theorem table_left_rawSet {world : World} {id : TableId} (there : id.index < world.tables.size)
    (write : Value × Value) :
    (left (rawSet id write.1 write.2) world).table id = (world.table id).after write := by
  rw [left_rawSet, Table.after_eq]
  cases Key.ofValue? write.1 with
  | none => rfl
  | some key =>
    dsimp only
    rw [table_setTable, if_pos ⟨rfl, there⟩]

/-- A write keeps the places of tables. -/
theorem size_left_rawSet (world : World) (id : TableId) (write : Value × Value) :
    (left (rawSet id write.1 write.2) world).tables.size = world.tables.size := by
  rw [left_rawSet]
  cases Key.ofValue? write.1 with
  | none => rfl
  | some key => exact Array.size_setIfInBounds

/-- Writes to a table leave it as they make it. -/
theorem table_afterWrites {world : World} {id : TableId} (there : id.index < world.tables.size)
    (writes : List (Value × Value)) :
    (world.afterWrites id writes).table id = writes.foldl Table.after (world.table id) := by
  induction writes generalizing world with
  | nil => rfl
  | cons write rest ih =>
    have still : id.index < (left (rawSet id write.1 write.2) world).tables.size := by
      rw [size_left_rawSet]
      exact there
    have further := ih still
    rw [table_left_rawSet there] at further
    exact further

/-- Writes keep the places of tables. -/
theorem size_afterWrites (world : World) (id : TableId) (writes : List (Value × Value)) :
    (world.afterWrites id writes).tables.size = world.tables.size := by
  induction writes generalizing world with
  | nil => rfl
  | cons write rest ih => exact (ih _).trans (size_left_rawSet world id write)

end World

/-- Tables are finite maps. Whatever has been written to a new table, with or without success, it is
the map of the last values written under each key. The next write gives the value that it replaces
and changes no other key and no other table, unless it is one under `nil` or under a datum that is
no number: that fails and leaves the world alone. -/
theorem table_is_finite_map (world : World) (writes : List (Value × Value)) :
    let id : TableId := ⟨world.tables.size⟩
    let later := (left (newTable {}) world).afterWrites id writes
    (later.table id).Reflects writes ∧
      ∀ key value,
        if key.isNil = true ∨ key.isNaN = true then
          outcome (rawSet id key value) later =
              .error (.failed (.type (if key.isNil then .nilKey else .nanKey))) ∧
            left (rawSet id key value) later = later
        else
          outcome (rawSet id key value) later = .ok ((later.table id).get key) ∧
            ((left (rawSet id key value) later).table id).get key = value ∧
            (∀ other, Key.ofValue? other ≠ Key.ofValue? key →
              ((left (rawSet id key value) later).table id).get other =
                (later.table id).get other) ∧
            ∀ other, other ≠ id → (left (rawSet id key value) later).table other =
              later.table other := by
  intro id later
  have fresh : id.index < (left (newTable {}) world).tables.size := by
    show world.tables.size < (world.tables.push {}).size
    simp
  have empty : (left (newTable {}) world).table id = {} := by
    show World.table { world with tables := world.tables.push {} } id = {}
    rw [table_push, if_pos rfl]
  have there : id.index < later.tables.size := by
    rw [size_afterWrites]
    exact fresh
  refine ⟨?_, fun key value => ?_⟩
  · rw [table_afterWrites fresh, empty]
    exact Table.reflects_afterAll writes
  · split
    · next bad =>
      rw [outcome_rawSet, left_rawSet, (Key.ofValue?_eq_none_iff key).mpr bad]
      exact ⟨rfl, rfl⟩
    · next good =>
      obtain ⟨normal, known⟩ :=
        Option.ne_none_iff_exists'.mp (mt (Key.ofValue?_eq_none_iff key).mp good)
      have given : outcome (rawSet id key value) later = .ok ((later.table id).get key) := by
        rw [outcome_rawSet, Table.get, known]
      have written : left (rawSet id key value) later =
          later.setTable id ((later.table id).write normal value) := by
        rw [left_rawSet, known]
      have read (other : Value) (normal' : Key) (known' : Key.ofValue? other = some normal') :
          ((later.table id).write normal value).get other =
            if normal = normal' then value else (later.table id).get other := by
        rw [Table.get, Table.get, known']
        exact Table.read_write _ _ _ _
      rw [written]
      refine ⟨given, ?_, fun other apart => ?_, fun other apart => ?_⟩
      · rw [table_setTable, if_pos ⟨rfl, there⟩, read key normal known, if_pos rfl]
      · rw [table_setTable, if_pos ⟨rfl, there⟩]
        cases known' : Key.ofValue? other with
        | none => simp only [Table.get, known']
        | some normal' =>
          have different : normal ≠ normal' := fun same => apart (by rw [known, known', same])
          rw [read other normal' known', if_neg different]
      · rw [table_setTable, if_neg fun both => apart both.1]

/-- Three positions, a gap and a fifth one: the length stops at the gap. -/
example :
    let position (place : Nat) : Value × Value := (.ofNat place, .boolean true)
    ([1, 2, 3, 5].foldl (fun table place => table.after (position place)) ({} : Table)).length = 3 := by
  decide

end ScriptHost
