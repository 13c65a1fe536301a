import ScriptHost.Table

/-!
# Entries

The entries of a table that writes have made have different keys and no `nil`, so that a
key is among them exactly if it reads as something.
-/

namespace ScriptHost

/-- Every value but `nil` is something. -/
theorem Value.isNil_eq_false {value : Value} (present : value ≠ .nil) : value.isNil = false := by
  cases value with
  | nil => exact absurd rfl present
  | _ => rfl

/-! ## Finding, putting and dropping -/

/-- What is found is an entry. -/
theorem mem_of_findEntry {key : Key} {value : Value} {entries : List (Key × Value)}
    (found : findEntry key entries = some value) : (key, value) ∈ entries := by
  induction entries with
  | nil => contradiction
  | cons entry rest ih =>
    obtain ⟨other, old⟩ := entry
    unfold findEntry at found
    split at found
    · next same =>
      subst same
      obtain rfl := Option.some.inj found
      exact List.mem_cons_self
    · exact List.mem_cons_of_mem _ (ih found)

/-- Nothing is found under keys that no entry has. -/
theorem findEntry_eq_none_iff {key : Key} {entries : List (Key × Value)} :
    findEntry key entries = none ↔ key ∉ entries.map (·.1) := by
  induction entries with
  | nil => simp [findEntry]
  | cons entry rest ih =>
    obtain ⟨other, old⟩ := entry
    by_cases same : other = key
    · simp [findEntry, same]
    · simp [findEntry, same, Ne.symm same, ih]

/-- Dropping a key that is not there drops nothing. -/
theorem dropEntry_of_missing {key : Key} {entries : List (Key × Value)}
    (missing : findEntry key entries = none) : dropEntry key entries = entries := by
  induction entries with
  | nil => rfl
  | cons entry rest ih =>
    obtain ⟨other, old⟩ := entry
    unfold findEntry at missing
    split at missing
    · contradiction
    · next apart =>
      unfold dropEntry at ih ⊢
      rw [List.filter_cons_of_pos (by simpa using apart), ih missing]

/-- Putting a key that is not there adds an entry at the end. -/
theorem putEntry_of_missing {key : Key} (value : Value) {entries : List (Key × Value)}
    (missing : findEntry key entries = none) :
    putEntry key value entries = entries ++ [(key, value)] := by
  induction entries with
  | nil => rfl
  | cons entry rest ih =>
    obtain ⟨other, old⟩ := entry
    unfold findEntry at missing
    split at missing
    · contradiction
    · next apart => rw [putEntry, if_neg apart, ih missing, List.cons_append]

/-- An entry put is the new one or one that was there. -/
theorem mem_putEntry {key : Key} {value : Value} {entries : List (Key × Value)}
    {entry : Key × Value} (member : entry ∈ putEntry key value entries) :
    entry = (key, value) ∨ entry ∈ entries := by
  induction entries with
  | nil => exact .inl (List.mem_singleton.mp member)
  | cons first rest ih =>
    unfold putEntry at member
    split at member
    · rcases List.mem_cons.mp member with same | later
      · exact .inl same
      · exact .inr (List.mem_cons_of_mem _ later)
    · rcases List.mem_cons.mp member with same | later
      · exact .inr (same ▸ List.mem_cons_self)
      · exact (ih later).imp_right (List.mem_cons_of_mem _)

/-- Putting leaves the keys alone, or adds the new one at the end. -/
theorem keys_putEntry (key : Key) (value : Value) (entries : List (Key × Value)) :
    (putEntry key value entries).map (·.1) =
      if key ∈ entries.map (·.1) then entries.map (·.1) else entries.map (·.1) ++ [key] := by
  induction entries with
  | nil => rfl
  | cons entry rest ih =>
    obtain ⟨other, old⟩ := entry
    by_cases same : other = key
    · simp [putEntry, same]
    · rw [putEntry, if_neg same, List.map_cons, ih]
      by_cases known : key ∈ rest.map (·.1)
      · simp only [if_pos known, List.map_cons, if_pos (List.mem_cons_of_mem other known)]
      · have missing : key ∉ other :: rest.map (·.1) := by
          simpa [Ne.symm same] using known
        simp only [if_neg known, List.map_cons, if_neg missing, List.cons_append]

namespace Table

/-! ## Entries that are not `nil` -/

/-- No entry of a table is `nil`. -/
def Filled (table : Table) : Prop := ∀ entry ∈ table.entries, entry.2 ≠ .nil

/-- An empty table has no entry. -/
theorem filled_empty : Filled {} := fun _ member => by contradiction

/-- A write leaves no entry `nil`. -/
theorem Filled.write {table : Table} (filled : table.Filled) (key : Key) (value : Value) :
    (table.write key value).Filled := by
  unfold Table.write
  split
  · intro entry member
    exact filled entry (List.mem_filter.mp member).1
  · next other =>
    intro entry member
    rcases mem_putEntry member with rfl | old
    · exact other
    · exact filled entry old

/-- A key reads as `nil` exactly if nothing is found under it. -/
theorem Filled.read_eq_nil {table : Table} (filled : table.Filled) (key : Key) :
    table.read key = .nil ↔ findEntry key table.entries = none := by
  unfold Table.read
  cases found : findEntry key table.entries with
  | none => simp
  | some value => simpa using filled _ (mem_of_findEntry found)

/-- Writing `nil` under a key that reads as `nil` changes nothing. -/
theorem write_nil {table : Table} (filled : table.Filled) {key : Key}
    (missing : table.read key = .nil) : table.write key .nil = table := by
  unfold Table.write
  rw [dropEntry_of_missing ((filled.read_eq_nil key).mp missing)]

/-- Writing under a key that is not there adds an entry at the end, unless the value is `nil`. -/
theorem entries_write_of_missing {table : Table} {key : Key} (value : Value)
    (missing : findEntry key table.entries = none) :
    (table.write key value).entries =
      table.entries ++ if value.isNil then [] else [(key, value)] := by
  unfold Table.write
  split
  · simp [dropEntry_of_missing missing, Value.isNil]
  · next present => simp [putEntry_of_missing value missing, Value.isNil_eq_false present]

/-! ## Entries with different keys -/

/-- An entry is found under its key where the keys are different. -/
theorem findEntry_of_mem {key : Key} {value : Value} {entries : List (Key × Value)}
    (distinct : (entries.map (·.1)).Nodup) (member : (key, value) ∈ entries) :
    findEntry key entries = some value := by
  induction entries with
  | nil => contradiction
  | cons entry rest ih =>
    obtain ⟨other, old⟩ := entry
    obtain ⟨fresh, different⟩ := List.nodup_cons.mp distinct
    rcases List.mem_cons.mp member with same | later
    · obtain ⟨rfl, rfl⟩ := Prod.mk.inj same
      exact if_pos rfl
    · have apart : other ≠ key := by
        rintro rfl
        exact fresh (List.mem_map.mpr ⟨_, later, rfl⟩)
      rw [findEntry, if_neg apart]
      exact ih different later

/-- The entries of a table have different keys. -/
def Distinct (table : Table) : Prop := (table.entries.map (·.1)).Nodup

/-- A write leaves the keys different. -/
theorem Distinct.write {table : Table} (distinct : table.Distinct) (key : Key) (value : Value) :
    (table.write key value).Distinct := by
  unfold Distinct Table.write
  split
  · exact distinct.sublist (List.filter_sublist.map _)
  · rw [keys_putEntry]
    split
    · exact distinct
    · next fresh =>
      rw [List.nodup_append]
      refine ⟨distinct, List.nodup_cons.mpr ⟨List.not_mem_nil, List.nodup_nil⟩, ?_⟩
      rintro known member _ last rfl
      obtain rfl := List.mem_singleton.mp last
      exact fresh member

end Table

end ScriptHost
