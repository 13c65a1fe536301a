import ScriptHost.World.State

/-!
# Environments that are still held

The host holds the environments it has not dropped and the values it keeps or has its
code remember. Running
code holds its environment, its locals and the values it is working with. Tables hold
their reference keys, their values and their hooks; environments hold their storage
and the answers of their sources.

Every table and environment counts its holders. One without a holder is gone and no
longer holds anything itself. Things that hold each other in a circle stay.
-/

namespace ScriptHost

/-- The table or environment that a value holds, if it holds one. -/
def Value.holds (value : Value) : List Reference :=
  match value with
  | .reference (.table id) => [.table id]
  | .reference (.environment id) => [.environment id]
  | _ => []

/-- What a table holds. -/
def Table.holds (table : Table) : List Reference :=
  table.entries.flatMap (fun entry => entry.1.toValue.holds ++ entry.2.holds) ++
    (table.hook.map Value.holds).getD []

/-- What a source of names holds. -/
def Source.holds : Source → List Reference
  | .host _ kept _ => kept.flatMap Value.holds
  | _ => []

/-- How many holders each table and each environment has. -/
structure Holders where
  tables : Array Nat
  environments : Array Nat
deriving DecidableEq

namespace Holders

/-- The number of holders of a table or an environment. -/
def count (holders : Holders) : Reference → Nat
  | .table id => holders.tables[id.index]?.getD 0
  | .environment id => holders.environments[id.index]?.getD 0
  | _ => 0

/-- The numbers with one of them changed. -/
def change (holders : Holders) (step : Nat → Nat) : Reference → Holders
  | .table id => { holders with tables := holders.tables.modify id.index step }
  | .environment id => { holders with environments := holders.environments.modify id.index step }
  | _ => holders

/-- The numbers with one more holder of something. -/
def add (holders : Holders) (reference : Reference) : Holders := holders.change (· + 1) reference

/-- The numbers with one holder less of something. -/
def remove (holders : Holders) (reference : Reference) : Holders := holders.change (· - 1) reference

/-- The numbers with one holder less of each of several things, which are in front of those
pending if that was their last one. -/
def removeAll (holders : Holders) (pending : List Reference) :
    List Reference → Holders × List Reference
  | [] => (holders, pending)
  | reference :: rest =>
    let holders := holders.remove reference
    if holders.count reference = 0 then holders.removeAll (reference :: pending) rest
    else holders.removeAll pending rest

end Holders

namespace World

/-- What a table or environment holds. -/
def holds (world : World) : Reference → List Reference
  | .table id => (world.table id).holds
  | .environment id =>
    let environment := world.environment id
    .table environment.storage :: environment.sources.flatMap Source.holds
  | _ => []

/-- What the host holds. -/
def heldByHost (world : World) : List Reference :=
  world.held.flatMap Value.holds ++ world.memory.holds ++
    ((List.range world.environments.size).filter fun index =>
      (world.environment ⟨index⟩).hosted).map fun index => .environment ⟨index⟩

/-- Every table and environment of the world. -/
def containers (world : World) : List Reference :=
  (List.range world.tables.size).map (fun index => .table ⟨index⟩) ++
    (List.range world.environments.size).map fun index => .environment ⟨index⟩

/-- The holders of each table and environment before anything is released: the host, running
code and every table and environment. -/
def holders (world : World) (running : List Reference) : Holders :=
  let start : Holders :=
    { tables := Array.replicate world.tables.size 0
      environments := Array.replicate world.environments.size 0 }
  (world.heldByHost ++ running ++ world.containers.flatMap world.holds).foldl Holders.add start

/-- The holders that are left once the pending tables and environments are released, over at
most `steps` releases. -/
def release (world : World) : Nat → List Reference → Holders → Holders
  | 0, _, holders => holders
  | _ + 1, [], holders => holders
  | steps + 1, reference :: pending, holders =>
    let (holders, pending) := holders.removeAll pending (world.holds reference)
    release world steps pending holders

/-- The holders that are left once everything without a holder is released. -/
def holdersLeft (world : World) (running : List Reference) : Holders :=
  let holders := world.holders running
  world.release world.containers.length (world.containers.filter (holders.count · = 0)) holders

/-- Whether an environment is still held, given what running code holds. -/
def isLive (world : World) (running : List Reference) (id : EnvironmentId) : Bool :=
  (world.environment id).hosted || (world.holdersLeft running).count (.environment id) != 0

end World

end ScriptHost
