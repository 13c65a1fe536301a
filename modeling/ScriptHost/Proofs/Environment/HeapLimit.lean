import ScriptHost.Proofs.Host.Moves

/-!
# The heap limit

The limit of a heap is checked where a charge is asked for, so no write takes the count above
it. A collection replaces the count by what it measures, whatever the limit, and what it
measures can be more: tables that a script constructs are not charged. So along every course
the count is at most the limit or what the last collection has measured.
-/

namespace ScriptHost

open ScriptHost.Action World

namespace Heap

/-- What writes make of a heap: nothing, a charge that is granted, or a refund. -/
inductive Writes (heap : Heap) : Heap → Prop where
  | same : Writes heap heap
  | charge {bytes : UInt64} {charged : Heap} (granted : heap.charge? bytes = some charged) :
    Writes heap charged
  | refund (bytes : UInt64) : Writes heap (heap.refund bytes)

/-- A heap that is as before has had nothing written. -/
theorem Writes.of_eq {old new : Heap} (same : new = old) : Writes old new := by
  rw [same]
  exact .same

/-- Writes leave the limit alone, and a count within a bound from the limit on stays within it. -/
theorem Writes.bounded {old new : Heap} (writes : Writes old new) {limit : UInt64}
    (limited : old.limit = some limit) {bound : Nat} (above : limit.toNat ≤ bound)
    (within : old.allocated.toNat ≤ bound) :
    new.limit = some limit ∧ new.allocated.toNat ≤ bound := by
  cases writes with
  | same => exact ⟨limited, within⟩
  | charge granted =>
    obtain ⟨kept, checked⟩ := charge?_le_limit granted limited
    exact ⟨kept, Nat.le_trans checked above⟩
  | refund bytes =>
    have less := toNat_allocated_refund old bytes
    exact ⟨limited, by omega⟩

end Heap

namespace World

/-- A step writes to the heap of an environment, or collects for that environment. -/
theorem Step.heap {old new : World} (step : Step old new) {id : EnvironmentId}
    (there : id.index < old.environments.size) :
    (old.environment id).heap.Writes (new.environment id).heap ∨
      new = left (Environment.collect id) old := by
  -- An environment that is changed is the one in question or another one.
  have changed {heap : Heap} (other : EnvironmentId) {environment : Environment}
      (same : environment.heap = heap) (writes : (old.environment other).heap.Writes heap) :
      (old.environment id).heap.Writes
        ((old.setEnvironment other environment).environment id).heap := by
    rw [environment_setEnvironment]
    split
    · next here =>
      rw [here.1, same]
      exact writes
    · exact .same
  cases step with
  | change change =>
    cases change with
    | charge other bytes heap granted => exact .inl (changed other rfl (.charge granted))
    | refund other bytes => exact .inl (changed other rfl (.refund bytes))
    | collect other =>
      by_cases here : other = id
      · right
        rw [here]
        rfl
      · left
        rw [environment_setEnvironment, if_neg fun both => here both.1.symm]
        exact .same
    | core other function missing => exact .inl (changed other rfl .same)
    | library other library missing => exact .inl (changed other rfl .same)
    | line other line => exact .inl (changed other rfl .same)
    | _ => exact .inl .same
  | deed deed =>
    left
    cases deed with
    | environment heap sink compiler =>
      have read := environment_push { old with tables := old.tables.push {} }
        { storage := ⟨old.tables.size⟩, heap, sink, compiler } id
      rw [if_neg (Nat.ne_of_lt there)] at read
      exact .of_eq (congrArg Environment.heap read)
    | drop other => exact changed other rfl .same
    | output other => exact changed other rfl .same
    | _ => exact .same
  | source other source => exact .inl (changed other rfl .same)

end World

/-- What has become of a world in which an environment was new, with the bytes that the last
collection for the environment has measured, zero as long as there was none. -/
inductive Tallied (id : EnvironmentId) (start : World) : Nat → World → Prop where
  | start : Tallied id start 0 start
  | write {last : Nat} {old new : World} (tallied : Tallied id start last old)
    (step : Step old new)
    (writes : (old.environment id).heap.Writes (new.environment id).heap) :
    Tallied id start last new
  | collect {last : Nat} {old : World} (tallied : Tallied id start last old) :
    Tallied id start (old.measure (old.environment id).storage)
      (left (Environment.collect id) old)

/-- Worlds that are led to without collecting for an environment. -/
abbrev World.Uncollected (id : EnvironmentId) : World → World → Prop :=
  Relation.ReflTransGen fun old new =>
    Step old new ∧ (old.environment id).heap.Writes (new.environment id).heap

/-- A limited environment is there. -/
theorem World.there_of_limited {world : World} {id : EnvironmentId} {limit : UInt64}
    (limited : (world.environment id).heap.limit = some limit) :
    id.index < world.environments.size := by
  by_contra outside
  rw [environment_of_outside (Nat.le_of_not_lt outside)] at limited
  contradiction

/-- A collection makes the count what it measures and leaves the limit alone. -/
theorem Environment.heap_collect {world : World} {id : EnvironmentId}
    (there : id.index < world.environments.size) :
    ((left (collect id) world).environment id).heap =
      (world.environment id).heap.reset
        (UInt64.ofNat (world.measure (world.environment id).storage)) := by
  have collected : left (collect id) world = world.setEnvironment id
      { world.environment id with
        heap := (world.environment id).heap.reset
          (UInt64.ofNat (world.measure (world.environment id).storage)) } := rfl
  rw [collected, environment_setEnvironment, if_pos ⟨rfl, there⟩]

namespace Tallied

variable {id : EnvironmentId} {start : World}

/-- What has become of a world is known further along any course. -/
theorem course {last : Nat} {old new : World} (tallied : Tallied id start last old)
    (there : id.index < old.environments.size) (course : Course old new) :
    ∃ last, Tallied id start last new := by
  have known : (∃ last, Tallied id start last new) ∧ id.index < new.environments.size := by
    induction course with
    | refl => exact ⟨⟨last, tallied⟩, there⟩
    | @tail before after _ step ih =>
      obtain ⟨⟨last, tallied⟩, there⟩ := ih
      refine ⟨?_, Nat.lt_of_lt_of_le there step.furthers.environments⟩
      rcases step.heap there with writes | rfl
      · exact ⟨last, tallied.write step writes⟩
      · exact ⟨_, tallied.collect⟩
  exact known.1

/-- Without a collection nothing has been measured. -/
theorem of_uncollected {world : World} (uncollected : Uncollected id start world) :
    Tallied id start 0 world := by
  induction uncollected with
  | refl => exact .start
  | tail _ step ih => exact ih.write step.1 step.2

/-- The count is at most the limit or what the last collection has measured, whichever is more. -/
theorem bounded {limit : UInt64} (limited : (start.environment id).heap.limit = some limit)
    (within : (start.environment id).heap.allocated.toNat ≤ limit.toNat) {last : Nat}
    {world : World} (tallied : Tallied id start last world) :
    (world.environment id).heap.limit = some limit ∧
      (world.environment id).heap.allocated.toNat ≤ max limit.toNat last := by
  induction tallied with
  | start =>
    have least := Nat.le_max_left limit.toNat 0
    exact ⟨limited, Nat.le_trans within least⟩
  | write _ step writes ih => exact writes.bounded ih.1 (Nat.le_max_left _ _) ih.2
  | @collect last old _ ih =>
    have there := there_of_limited ih.1
    rw [Environment.heap_collect there]
    refine ⟨ih.1, ?_⟩
    have word := Nat.mod_le (old.measure (old.environment id).storage) UInt64.size
    have least := Nat.le_max_right limit.toNat (old.measure (old.environment id).storage)
    simp only [Heap.reset, UInt64.toNat_ofNat']
    omega

/-- Without a collection the count is at most the limit. -/
theorem bounded_of_uncollected {limit : UInt64}
    (limited : (start.environment id).heap.limit = some limit)
    (within : (start.environment id).heap.allocated.toNat ≤ limit.toNat) {world : World}
    (uncollected : Uncollected id start world) :
    (world.environment id).heap.allocated.toNat ≤ limit.toNat := by
  have bound := (bounded limited within (of_uncollected uncollected)).2
  rwa [Nat.max_eq_left (Nat.zero_le _)] at bound

end Tallied

/-- The world in the middle of a launch, when the environment is new and has no packages yet. -/
def World.withNew (before : World) (settings : Config.Settings) (sink : Sink)
    (compiler : Compiler) : World :=
  left (Environment.new (Environment.heapOf settings) sink compiler) before

section Launch

variable (before : World) (settings : Config.Settings) (sink : Sink) (compiler : Compiler)

/-- A new environment has the limit of its settings and has counted nothing. -/
theorem heap_withNew :
    ((before.withNew settings sink compiler).environment ⟨before.environments.size⟩).heap =
      Environment.heapOf settings := by
  have read := environment_push { before with tables := before.tables.push {} }
    { storage := ⟨before.tables.size⟩, heap := Environment.heapOf settings, sink, compiler }
    ⟨before.environments.size⟩
  rw [if_pos rfl] at read
  exact congrArg Environment.heap read

/-- A launch goes on from the new environment with its packages. -/
theorem launch_course :
    Course (before.withNew settings sink compiler)
      (left (Environment.launch settings sink compiler) before) := by
  have rest (id : EnvironmentId) :
      Keeps Onward (do Environment.addPackages id settings.packages; return id) :=
    Keeps.bind (Environment.addPackages_onward id _) fun _ => keeps_pure _
  obtain ⟨_, launched⟩ := bind_of_ok
    (Environment.new (Environment.heapOf settings) sink compiler)
    (fun id => do Environment.addPackages id settings.packages; return id) before rfl
  have onward := rest ⟨before.environments.size⟩ (before.withNew settings sink compiler)
  exact launched ▸ onward.course

end Launch

/-- The heap limit bounds writes. An environment is launched with a limit, the host makes any moves,
and the moment that is looked at is any one on the way through the next. Then the count of the
environment is at most the limit or what the last collection for it has measured, whichever is more:
the limit as long as there was no collection. -/
theorem heap_limit_bounds_writes {settings : Config.Settings} {limit : UInt64}
    (limited : settings.maxHeapBytes = some limit) (sink : Sink) (compiler : Compiler)
    (before : World) {middle world : World}
    (moved : Relation.ReflTransGen HostMove.Leads
      (left (Environment.launch settings sink compiler) before) middle)
    (course : Course middle world) :
    (∃ last, Tallied ⟨before.environments.size⟩ (before.withNew settings sink compiler) last
      world) ∧
    ∀ last, Tallied ⟨before.environments.size⟩ (before.withNew settings sink compiler) last world →
      (world.environment ⟨before.environments.size⟩).heap.allocated.toNat ≤
        max limit.toNat last := by
  have heap := heap_withNew before settings sink compiler
  have newLimit : ((before.withNew settings sink compiler).environment
      ⟨before.environments.size⟩).heap.limit = some limit := by
    rw [heap]
    exact limited
  constructor
  · have launched := launch_course before settings sink compiler
    have whole := (launched.trans (HostMove.course_of_moves moved)).trans course
    exact Tallied.start.course (there_of_limited newLimit) whole
  · intro last tallied
    have empty : ((before.withNew settings sink compiler).environment
        ⟨before.environments.size⟩).heap.allocated.toNat ≤ limit.toNat := by
      rw [heap]
      exact Nat.zero_le _
    exact (tallied.bounded newLimit empty).2

/-- Settings with a limit of a hundred bytes. -/
def hundredBytes : Config.Settings := { maxHeapBytes := some 100 }

/-- Code that constructs a table of a table of two integers and assigns it to a global. -/
def nestedTable : Script.Block where
  statements :=
    [.assign [.name "t"] [.table [.positional (.table [.positional (.integer 1),
      .positional (.integer 2)])]]]
  result := none

/-- Code that collects. -/
def collection : Script.Block where
  statements := [.run (.call (.name "collectgarbage") [.text "collect"])]
  result := none

/-- The host runs a block of statements. -/
def HostMove.runs (block : Script.Block) : HostMove :=
  .runChunk [] ⟨0⟩ { name := "chunk", parameters := [], code := some (.script block []) } []

/-- The world with an environment of a hundred bytes. -/
def hundredLaunched : World := left (Environment.launch hundredBytes .elsewhere .script) {}

/-- The world after the assignment. -/
def hundredAssigned : World := left (HostMove.runs nestedTable).perform hundredLaunched

/-- The world after the assignment and the collection. -/
def hundredCollected : World := left (HostMove.runs collection).perform hundredAssigned

/-- The host can run the assignment and the collection. -/
theorem hundred_moved :
    Relation.ReflTransGen HostMove.Leads hundredLaunched hundredCollected := by
  have assigned : HostMove.Leads hundredLaunched hundredAssigned :=
    ⟨HostMove.runs nestedTable, trivial, rfl⟩
  have collected : HostMove.Leads hundredAssigned hundredCollected :=
    ⟨HostMove.runs collection, trivial, rfl⟩
  exact (Relation.ReflTransGen.single assigned).tail collected

/-- The collection counts 193 bytes. -/
theorem hundred_counted :
    (hundredCollected.environment ⟨({} : World).environments.size⟩).heap.allocated.toNat = 193 := by
  decide +kernel

/-- With a limit of a hundred bytes the assignment counts 73 bytes, and whatever the last collection
is taken to be afterwards, it has measured at least 193. -/
theorem heap_limit_bounds_writes_hundred :
    (hundredAssigned.environment ⟨0⟩).heap.allocated = 73 ∧
      ∀ last, Tallied ⟨0⟩ (World.withNew {} hundredBytes .elsewhere .script) last hundredCollected →
        193 ≤ last := by
  refine ⟨by decide +kernel, ?_⟩
  intro last tallied
  have limited : hundredBytes.maxHeapBytes = some 100 := rfl
  have bounded := (heap_limit_bounds_writes limited .elsewhere .script {} hundred_moved .refl).2
    last tallied
  have limit : (100 : UInt64).toNat = 100 := rfl
  rw [hundred_counted, limit] at bounded
  omega

/-- A collection can leave the count above the limit. -/
theorem heap_limit_not_invariant :
    ¬∀ (settings : Config.Settings) (limit : UInt64) (sink : Sink) (compiler : Compiler)
        (before world : World),
      settings.maxHeapBytes = some limit →
      Relation.ReflTransGen HostMove.Leads
        (left (Environment.launch settings sink compiler) before) world →
      (world.environment ⟨before.environments.size⟩).heap.allocated.toNat ≤ limit.toNat := by
  intro invariant
  have limited : hundredBytes.maxHeapBytes = some 100 := rfl
  have bounded := invariant hundredBytes 100 .elsewhere .script {} hundredCollected limited
    hundred_moved
  have limit : (100 : UInt64).toNat = 100 := rfl
  rw [hundred_counted, limit] at bounded
  omega

end ScriptHost
