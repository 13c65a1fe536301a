import ScriptHost.World.State

/-!
# Sizes

A value counts a fixed number of bytes, a text its bytes besides, and an entry its
key and its value. The estimate of a table as a value looks at its number of entries
only. Measuring a table adds up the entries of every table that can be reached from
it through values, each table once.
-/

namespace ScriptHost

/-- The bytes of a value without its content. -/
def valueBytes : Nat := 24

/-- The bytes of a key. -/
def Key.size : Key → Nat
  | .text content => valueBytes + content.utf8ByteSize
  | _ => valueBytes

/-- The bytes of a value, a table counting as a bare value. -/
def Value.ownSize : Value → Nat
  | .text content => valueBytes + content.utf8ByteSize
  | _ => valueBytes

/-- The sum of amounts. -/
def total (amounts : List Nat) : Nat := amounts.foldr (· + ·) 0

/-- The bytes of the entries of a table. -/
def Table.ownSize (table : Table) : Nat :=
  total (table.entries.map fun entry => entry.1.size + entry.2.ownSize)

/-- The tables among the values of a table. -/
def Table.inner (table : Table) : List TableId :=
  table.entries.filterMap fun entry =>
    match entry.2 with
    | .reference (.table id) => some id
    | _ => none

namespace World

/-- The estimated bytes of a value. -/
def valueSize (world : World) (value : Value) : Nat :=
  match value with
  | .reference (.table id) => valueBytes + (world.table id).count * 2 * valueBytes
  | _ => value.ownSize

/-- The estimated bytes of an entry. A `nil` value is no entry. -/
def entrySize (world : World) (key value : Value) : Nat :=
  if value.isNil then 0 else key.ownSize + world.valueSize value

/-- The tables seen, together with all that can be reached from the pending ones in at most
`steps` steps. -/
def reach (world : World) : Nat → List TableId → List TableId → List TableId
  | 0, seen, _ => seen
  | _ + 1, seen, [] => seen
  | steps + 1, seen, id :: pending =>
    if id ∈ seen then reach world steps seen pending
    else reach world steps (id :: seen) ((world.table id).inner ++ pending)

/-- Enough steps to look at every table value of the world once. -/
def reachSteps (world : World) : Nat := total (world.tables.toList.map (·.inner.length)) + 1

/-- The tables that can be reached from one through values. -/
def reachable (world : World) (root : TableId) : List TableId :=
  world.reach world.reachSteps [] [root]

/-- The bytes that can be reached from a table. -/
def measure (world : World) (root : TableId) : Nat :=
  total ((world.reachable root).map fun id => (world.table id).ownSize)

end World

end ScriptHost
