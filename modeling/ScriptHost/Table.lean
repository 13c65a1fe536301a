import ScriptHost.Value.Key

/-!
# Tables

A table maps keys to values other than `nil`; storing `nil` removes an entry. An
index hook can be installed that reads after a miss consult. The operations here are
raw: they never consult it.
-/

namespace ScriptHost

/-- The value of a key in a list of entries. -/
def findEntry (key : Key) : List (Key × Value) → Option Value
  | [] => none
  | (other, value) :: rest => if other = key then some value else findEntry key rest

/-- Entries with a value under a key, in the old place if the key has one. -/
def putEntry (key : Key) (value : Value) : List (Key × Value) → List (Key × Value)
  | [] => [(key, value)]
  | (other, old) :: rest =>
    if other = key then (key, value) :: rest else (other, old) :: putEntry key value rest

/-- Entries without a key. -/
def dropEntry (key : Key) (entries : List (Key × Value)) : List (Key × Value) :=
  entries.filter (·.1 ≠ key)

/-- A put key has the value put, and every other key what it had. -/
theorem findEntry_putEntry (key other : Key) (value : Value) (entries : List (Key × Value)) :
    findEntry other (putEntry key value entries) =
      if key = other then some value else findEntry other entries := by
  induction entries with
  | nil => rfl
  | cons entry rest ih =>
    obtain ⟨known, old⟩ := entry
    by_cases same : known = key
    · subst same
      by_cases wanted : known = other <;> simp [putEntry, findEntry, wanted]
    · by_cases wanted : known = other
      · subst wanted
        simp [putEntry, findEntry, same, Ne.symm same]
      · simp [putEntry, findEntry, same, wanted, ih]

/-- A dropped key has no value, and every other key what it had. -/
theorem findEntry_dropEntry (key other : Key) (entries : List (Key × Value)) :
    findEntry other (dropEntry key entries) =
      if key = other then none else findEntry other entries := by
  induction entries with
  | nil => simp [dropEntry, findEntry]
  | cons entry rest ih =>
    obtain ⟨known, old⟩ := entry
    unfold dropEntry at ih ⊢
    by_cases same : known = key
    · subst same
      rw [List.filter_cons_of_neg (by simp), ih]
      by_cases wanted : known = other <;> simp [findEntry, wanted]
    · rw [List.filter_cons_of_pos (by simpa using same)]
      by_cases wanted : known = other
      · subst wanted
        simp [findEntry, Ne.symm same]
      · simp only [findEntry, if_neg wanted, ih]

/-- A table. -/
structure Table where
  entries : List (Key × Value) := []
  hook : Option Value := none
deriving DecidableEq

instance : Inhabited Table := ⟨⟨[], none⟩⟩

namespace Table

/-- The value of a key, `nil` where there is none. -/
def read (table : Table) (key : Key) : Value := (findEntry key table.entries).getD .nil

/-- The value under a value as key. What cannot be a key has no value. -/
def get (table : Table) (key : Value) : Value :=
  match Key.ofValue? key with
  | some key => table.read key
  | none => .nil

/-- The table with a value under a key. -/
def write (table : Table) (key : Key) (value : Value) : Table :=
  match value with
  | .nil => { table with entries := dropEntry key table.entries }
  | _ => { table with entries := putEntry key value table.entries }

/-- Store a value under a value as key, giving the value replaced. -/
def set (table : Table) (key value : Value) : Except TypeFault (Value × Table) :=
  match Key.ofValue? key with
  | some key => .ok (table.read key, table.write key value)
  | none => .error (if key.isNil then .nilKey else .nanKey)

/-- A written key reads as what was written, and every other key as before. -/
theorem read_write (table : Table) (key other : Key) (value : Value) :
    (table.write key value).read other = if key = other then value else table.read other := by
  unfold read write
  split
  · simp only [findEntry_dropEntry]
    split <;> rfl
  · simp only [findEntry_putEntry]
    split <;> rfl

/-- Writing leaves the hook alone. -/
theorem hook_write (table : Table) (key : Key) (value : Value) :
    (table.write key value).hook = table.hook := by
  unfold write
  split <;> rfl

/-- The number of entries. -/
def count (table : Table) : Nat := table.entries.length

/-- Whether there are no entries. -/
def isEmpty (table : Table) : Bool := table.entries.isEmpty

/-- The keys in order. -/
def sortedKeys (table : Table) : List Key :=
  (table.entries.map (·.1)).mergeSort Key.precedes

/-- The keys in order, each with what reading by its value gives. That is the value stored under
the key except for the double next above the 64-bit integers, whose value reads the largest of
these. -/
def listing (table : Table) : List (Key × Value) :=
  table.sortedKeys.map fun key => (key, table.get key.toValue)

/-- The number of integer keys in a row after `known`, in at most `steps` steps. -/
def borderFrom (table : Table) : Nat → Nat → Nat
  | 0, known => known
  | steps + 1, known =>
    match findEntry (.integer (Int64.ofNat (known + 1))) table.entries with
    | some _ => borderFrom table steps (known + 1)
    | none => known

/-- The number of integer keys in a row from one. -/
def length (table : Table) : Nat := table.borderFrom table.count 0

end Table

end ScriptHost
