import ScriptHost.Proofs.Identity.Code
import ScriptHost.Proofs.Identity.Made
import ScriptHost.Proofs.World.Holders
import ScriptHost.World.Display

/-!
# Worlds that match

Two worlds match under a pairing if they are the same up to what is paired: their tables,
environments and host types match, functions that are paired do the same, and what is made at
most once is paired on both sides or on neither. Either world may have made more than the
other one. Nothing that scripts can see tells matching worlds apart.
-/

namespace ScriptHost

variable {pairing small large : Pairing}

/-! ## What worlds contain -/

/-- Environments that match, whatever they have made. -/
structure Environment.Matches (pairing : Pairing) (left right : Environment) : Prop where
  storage : left.storage = right.storage
  heap : left.heap = right.heap
  sink : left.sink = right.sink
  hosted : left.hosted = right.hosted
  compiler : left.compiler.Matches pairing right.compiler
  sources : List.Forall₂ (Source.Matches pairing) left.sources right.sources

instance Environment.lasting : Lasting Environment.Matches :=
  ⟨fun grows matched =>
    { matched with
      compiler := Lasting.mono grows matched.compiler
      sources := lasting_entries grows matched.sources }⟩

/-- An environment without what it has made. -/
def Environment.bare (environment : Environment) : Environment :=
  { environment with
    coreMade := []
    librariesMade := [] }

/-- Environments that are the same when bare match what the others match. -/
theorem Environment.Matches.of_bare {left right leftLater rightLater : Environment}
    (matched : left.Matches pairing right) (same : leftLater.bare = left.bare)
    (sameRight : rightLater.bare = right.bare) : leftLater.Matches pairing rightLater := by
  obtain ⟨storage, heap, sink, hosted, compiler, sources⟩ := matched
  cases left
  cases right
  cases leftLater
  cases rightLater
  simp only [Environment.bare, Environment.mk.injEq] at same sameRight
  obtain ⟨rfl, rfl, rfl, rfl, rfl, _, _, rfl⟩ := same
  obtain ⟨rfl, rfl, rfl, rfl, rfl, _, _, rfl⟩ := sameRight
  exact ⟨storage, heap, sink, hosted, compiler, sources⟩

namespace World

/-- Worlds whose contents match, whatever functions and objects they have. -/
structure Contents (pairing : Pairing) (left right : World) : Prop where
  tables : left.tables.size = right.tables.size
  table : ∀ id, (left.table id).Matches pairing (right.table id)
  environments : left.environments.size = right.environments.size
  environment : ∀ id, (left.environment id).Matches pairing (right.environment id)
  hostTypes : left.hostTypes.size = right.hostTypes.size
  hostType : ∀ id, (left.hostType id).Matches pairing (right.hostType id)
  registry : left.registry = right.registry
  tree : left.tree = right.tree
  files : left.files = right.files
  memory : left.memory.Matches pairing right.memory
  held : AllMatch pairing left.held right.held

/-- Functions and objects that are paired match, and a slot holds one of a pair only if the slot that
it corresponds to holds the other. -/
structure Identities (pairing : Pairing) (left right : World) : Prop where
  leftTidy : left.Tidy
  rightTidy : right.Tidy
  function : ∀ {first second}, pairing.functions first second →
    ∃ callable other, left.functions[first.index]? = some callable ∧
      right.functions[second.index]? = some other ∧ callable.Matches pairing other
  object : ∀ {first second}, pairing.objects first second →
    first.index < left.objects.size ∧ second.index < right.objects.size ∧
      (left.object first).bare = (right.object second).bare
  leftSlots : ∀ {slot reference other}, left.madeIn slot = some reference →
    reference.Matches pairing other →
      ∃ place, slot.Matches pairing place ∧ right.madeIn place = some other
  rightSlots : ∀ {slot reference other}, right.madeIn slot = some other →
    reference.Matches pairing other →
      ∃ place, place.Matches pairing slot ∧ left.madeIn place = some reference

/-- Worlds that are the same up to what is paired. -/
structure Matches (pairing : Pairing) (left right : World) : Prop
    extends Contents pairing left right, Identities pairing left right

/-! ## Contents -/

/-- Worlds with the same contents: they differ in functions and objects, and in what environments
have made of these. -/
structure SameContents (old new : World) : Prop where
  tables : new.tables = old.tables
  environments : new.environments.size = old.environments.size
  environment : ∀ id, (new.environment id).bare = (old.environment id).bare
  hostTypes : new.hostTypes = old.hostTypes
  registry : new.registry = old.registry
  tree : new.tree = old.tree
  files : new.files = old.files
  memory : new.memory = old.memory
  held : new.held = old.held

namespace SameContents

/-- A world has its contents. -/
theorem refl (world : World) : SameContents world world :=
  ⟨rfl, rfl, fun _ => rfl, rfl, rfl, rfl, rfl, rfl, rfl⟩

/-- The contents stay the same as long as they do. -/
theorem trans {old middle new : World} (first : SameContents old middle)
    (second : SameContents middle new) : SameContents old new :=
  ⟨second.tables.trans first.tables, second.environments.trans first.environments,
    fun id => (second.environment id).trans (first.environment id),
    second.hostTypes.trans first.hostTypes, second.registry.trans first.registry,
    second.tree.trans first.tree, second.files.trans first.files, second.memory.trans first.memory,
    second.held.trans first.held⟩

/-- Where the contents stay the same the sources do. -/
theorem sources {old new : World} (same : SameContents old new) (id : EnvironmentId) :
    (new.environment id).sources = (old.environment id).sources := by
  have bare := congrArg Environment.sources (same.environment id)
  exact bare

/-- What one more function, object or both leave. -/
theorem of_made (world : World) (functions : Array Callable) (objects : Array HostObject) :
    SameContents world { world with functions, objects } :=
  { refl world with }

/-- What a core function made at its first use leaves. -/
theorem addCore (world : World) (id : EnvironmentId) (function : CoreFunction) :
    SameContents world (world.addCore id function) :=
  { refl world with
    environments := Array.size_setIfInBounds
    environment := World.environment_common
      { world with functions := world.functions.push (function.bound id) } Environment.bare rfl }

/-- What a library object made at its first use leaves. -/
theorem addLibrary (world : World) (id : EnvironmentId) (library : Library) :
    SameContents world (world.addLibrary id library) :=
  { refl world with
    environments := Array.size_setIfInBounds
    environment := World.environment_common
      { world with objects := world.objects.push (.library library []) } Environment.bare rfl }

end SameContents

namespace Contents

variable {left right leftLater rightLater : World}

/-- Contents that match do so from then on. -/
theorem mono (contents : Contents small left right) (grows : small ≤ large) :
    Contents large left right :=
  { contents with
    table := fun id => (contents.table id).mono grows
    environment := fun id => Lasting.mono grows (contents.environment id)
    hostType := fun id => Lasting.mono grows (contents.hostType id)
    memory := contents.memory.mono grows
    held := AllMatch.mono contents.held grows }

/-- Contents match in worlds with the same contents. -/
theorem of_same (contents : Contents pairing left right) (same : SameContents left leftLater)
    (sameRight : SameContents right rightLater) : Contents pairing leftLater rightLater := by
  have table {old new : World} (same : SameContents old new) (id : TableId) :
      new.table id = old.table id := by
    unfold World.table
    rw [same.tables]
  have hostType {old new : World} (same : SameContents old new) (id : HostTypeId) :
      new.hostType id = old.hostType id := by
    unfold World.hostType
    rw [same.hostTypes]
  constructor
  · rw [same.tables, sameRight.tables, contents.tables]
  · intro id
    rw [table same, table sameRight]
    exact contents.table id
  · rw [same.environments, sameRight.environments, contents.environments]
  · exact fun id => (contents.environment id).of_bare (same.environment id)
      (sameRight.environment id)
  · rw [same.hostTypes, sameRight.hostTypes, contents.hostTypes]
  · intro id
    rw [hostType same, hostType sameRight]
    exact contents.hostType id
  · rw [same.registry, sameRight.registry, contents.registry]
  · rw [same.tree, sameRight.tree, contents.tree]
  · rw [same.files, sameRight.files, contents.files]
  · rw [same.memory, sameRight.memory]
    exact contents.memory
  · rw [same.held, sameRight.held]
    exact contents.held

/-- Matching contents hold the same. -/
theorem holdsAlike (contents : Contents pairing left right) : HoldsAlike left right where
  tables := contents.tables.symm
  table := fun id => (contents.table id).holds.symm
  environments := contents.environments.symm
  storage := fun id => (contents.environment id).storage.symm
  sources := by
    intro id
    have same := map_eq_of_forall₂ (fun _ _ known => Source.Matches.holds known)
      (contents.environment id).sources
    rw [List.flatMap_def, List.flatMap_def, same]
  hosted := fun id => (contents.environment id).hosted.symm
  memory := contents.memory.holds.symm
  held := (AllMatch.holds contents.held).symm

/-- Matching values have the same estimated size. -/
theorem valueSize (contents : Contents pairing left right) {value other : Value}
    (values : value.Matches pairing other) : left.valueSize value = right.valueSize other := by
  cases values with
  | content scalar =>
    cases value with
    | reference target => exact absurd rfl (scalar target)
    | _ => rfl
  | reference matched =>
    cases matched with
    | table id =>
      unfold World.valueSize
      dsimp only
      rw [(contents.table id).count]
    | _ => rfl

/-- Matching entries have the same estimated size. -/
theorem entrySize (contents : Contents pairing left right) {key further value other : Value}
    (keys : key.Matches pairing further) (values : value.Matches pairing other) :
    left.entrySize key value = right.entrySize further other := by
  unfold World.entrySize
  rw [values.isNil, keys.congr Value.ownSize (fun _ _ => rfl) fun _ _ => rfl,
    contents.valueSize values]

/-- The same tables can be reached. -/
theorem reach (contents : Contents pairing left right) (steps : Nat)
    (seen pending : List TableId) : left.reach steps seen pending = right.reach steps seen pending := by
  induction steps generalizing seen pending with
  | zero => rfl
  | succ steps ih =>
    cases pending with
    | nil => rfl
    | cons id rest =>
      unfold World.reach
      rw [(contents.table id).inner]
      split <;> exact ih _ _

/-- Tables measure the same. -/
theorem measure (contents : Contents pairing left right) (root : TableId) :
    left.measure root = right.measure root := by
  have listed (world : World) : world.tables.toList.map (·.inner.length) =
      (List.range world.tables.size).map fun index => (world.table ⟨index⟩).inner.length := by
    apply List.ext_getElem
    · simp
    · intro index inside other
      simp only [List.getElem_map, Array.getElem_toList, List.getElem_range, World.table]
      rw [Array.getElem?_eq_getElem (by simpa using inside)]
      rfl
  have steps : left.reachSteps = right.reachSteps := by
    unfold World.reachSteps
    rw [listed, listed, contents.tables]
    simp only [fun id => (contents.table id).inner]
  unfold World.measure World.reachable
  rw [steps, contents.reach]
  simp only [fun id => (contents.table id).ownSize]

end Contents

/-! ## Identities -/

namespace Identities

variable {left right leftLater rightLater : World}

/-- What is paired is there. -/
theorem has (identities : Identities pairing left right) {reference other : Reference}
    (matched : reference.Matches pairing other) : left.Has reference ∧ right.Has other := by
  cases matched with
  | function paired =>
    obtain ⟨callable, further, found, there, _⟩ := identities.function paired
    exact ⟨(Array.getElem?_eq_some_iff.mp found).1, (Array.getElem?_eq_some_iff.mp there).1⟩
  | object paired =>
    obtain ⟨inside, there, _⟩ := identities.object paired
    exact ⟨inside, there⟩
  | _ => exact ⟨trivial, trivial⟩

/-- What is paired stays so when more is made on either side. -/
theorem madeMore (identities : Identities pairing left right) (more : MadeMore left leftLater)
    (moreRight : MadeMore right rightLater) : Identities pairing leftLater rightLater where
  leftTidy := more.tidy identities.leftTidy
  rightTidy := moreRight.tidy identities.rightTidy
  function := by
    intro first second paired
    obtain ⟨callable, other, found, there, matched⟩ := identities.function paired
    exact ⟨callable, other, more.functions _ _ found, moreRight.functions _ _ there, matched⟩
  object := by
    intro first second paired
    obtain ⟨inside, there, same⟩ := identities.object paired
    obtain ⟨still, left⟩ := more.objects first inside
    obtain ⟨stays, right⟩ := moreRight.objects second there
    exact ⟨still, stays, left.trans (same.trans right.symm)⟩
  leftSlots := by
    intro slot reference other made matched
    have before := more.before made (identities.has matched).1
    obtain ⟨place, slots, known⟩ := identities.leftSlots before matched
    exact ⟨place, slots, moreRight.stays known⟩
  rightSlots := by
    intro slot reference other made matched
    have before := moreRight.before made (identities.has matched).2
    obtain ⟨place, slots, known⟩ := identities.rightSlots before matched
    exact ⟨place, slots, more.stays known⟩

/-- Functions and objects that are kept in slots that match, or in none. -/
structure KeptAlike (pairing : Pairing) (left right : World) (reference other : Reference) : Prop where
  leftSlot : ∀ slot, left.madeIn slot = some reference →
    ∃ place, slot.Matches pairing place ∧ right.madeIn place = some other
  rightSlot : ∀ slot, right.madeIn slot = some other →
    ∃ place, place.Matches pairing slot ∧ left.madeIn place = some reference

/-- More can be paired: functions that match, objects of one kind, each kept where the other one is. -/
theorem enlarge (identities : Identities pairing left right) (grows : pairing ≤ large)
    (function : ∀ first second, large.functions first second → pairing.functions first second ∨
      ∃ callable other, left.functions[first.index]? = some callable ∧
        right.functions[second.index]? = some other ∧ callable.Matches large other)
    (object : ∀ first second, large.objects first second → pairing.objects first second ∨
      (first.index < left.objects.size ∧ second.index < right.objects.size ∧
        (left.object first).bare = (right.object second).bare))
    (kept : ∀ reference other, reference.Matches large other → reference.Matches pairing other ∨
      KeptAlike pairing left right reference other) :
    Identities large left right where
  leftTidy := identities.leftTidy
  rightTidy := identities.rightTidy
  function := by
    intro first second paired
    rcases function first second paired with known | new
    · obtain ⟨callable, other, found, there, matched⟩ := identities.function known
      exact ⟨callable, other, found, there, Lasting.mono grows matched⟩
    · exact new
  object := by
    intro first second paired
    rcases object first second paired with known | new
    · exact identities.object known
    · exact new
  leftSlots := by
    intro slot reference other made matched
    have before : ∃ place, slot.Matches pairing place ∧ right.madeIn place = some other := by
      rcases kept reference other matched with known | alike
      · exact identities.leftSlots made known
      · exact alike.leftSlot slot made
    obtain ⟨place, slots, known⟩ := before
    exact ⟨place, slots.mono grows, known⟩
  rightSlots := by
    intro slot reference other made matched
    have before : ∃ place, place.Matches pairing slot ∧ left.madeIn place = some reference := by
      rcases kept reference other matched with known | alike
      · exact identities.rightSlots made known
      · exact alike.rightSlot slot made
    obtain ⟨place, slots, known⟩ := before
    exact ⟨place, slots.mono grows, known⟩

/-- Functions that match can be paired, if each is kept where the other one is. -/
theorem pairFunctions (identities : Identities pairing left right) {first second : FunctionId}
    {callable other : Callable} (found : left.functions[first.index]? = some callable)
    (there : right.functions[second.index]? = some other)
    (callables : callable.Matches pairing other)
    (newLeft : ∀ other, ¬ pairing.functions first other)
    (newRight : ∀ other, ¬ pairing.functions other second)
    (kept : KeptAlike pairing left right (.function first) (.function second)) :
    ∃ large, pairing ≤ large ∧ large.functions first second ∧ Identities large left right := by
  have grows := pairing.le_addFunction newLeft newRight
  refine ⟨pairing.addFunction newLeft newRight, grows, .inr ⟨rfl, rfl⟩,
    identities.enlarge grows ?_ (fun _ _ known => .inl known) ?_⟩
  · rintro third fourth (known | ⟨rfl, rfl⟩)
    · exact .inl known
    · exact .inr ⟨callable, other, found, there, Lasting.mono grows callables⟩
  · rintro reference further (id | known | id | known | id)
    · exact .inl (.table id)
    · rcases known with known | ⟨rfl, rfl⟩
      · exact .inl (.function known)
      · exact .inr kept
    · exact .inl (.node id)
    · exact .inl (.object known)
    · exact .inl (.environment id)

/-- Objects of one kind can be paired, if each is kept where the other one is. -/
theorem pairObjects (identities : Identities pairing left right) {first second : ObjectId}
    (inside : first.index < left.objects.size) (there : second.index < right.objects.size)
    (same : (left.object first).bare = (right.object second).bare)
    (newLeft : ∀ other, ¬ pairing.objects first other)
    (newRight : ∀ other, ¬ pairing.objects other second)
    (kept : KeptAlike pairing left right (.object first) (.object second)) :
    ∃ large, pairing ≤ large ∧ large.objects first second ∧ Identities large left right := by
  have grows := pairing.le_addObject newLeft newRight
  refine ⟨pairing.addObject newLeft newRight, grows, .inr ⟨rfl, rfl⟩,
    identities.enlarge grows (fun _ _ known => .inl known) ?_ ?_⟩
  · rintro third fourth (known | ⟨rfl, rfl⟩)
    · exact .inl known
    · exact .inr ⟨inside, there, same⟩
  · rintro reference further (id | known | id | known | id)
    · exact .inl (.table id)
    · exact .inl (.function known)
    · exact .inl (.node id)
    · rcases known with known | ⟨rfl, rfl⟩
      · exact .inl (.object known)
      · exact .inr kept
    · exact .inl (.environment id)

/-- What slots that match hold is paired already with each other, or with nothing. -/
theorem keptAlike_of_slots (identities : Identities pairing left right) {slot place : Slot}
    (slots : slot.Matches pairing place) {reference other : Reference}
    (made : left.madeIn slot = some reference) (known : right.madeIn place = some other) :
    KeptAlike pairing left right reference other ∧
      (∀ further, reference.Matches pairing further → further = other) ∧
        ∀ further, further.Matches pairing other → further = reference := by
  refine ⟨⟨fun third again => ?_, fun third again => ?_⟩, fun further matched => ?_,
    fun further matched => ?_⟩
  · obtain rfl := identities.leftTidy.apart made again
    exact ⟨place, slots, known⟩
  · obtain rfl := identities.rightTidy.apart known again
    exact ⟨slot, slots, made⟩
  · obtain ⟨third, more, there⟩ := identities.leftSlots made matched
    obtain rfl : place = third := (slots.eq_iff more).mp rfl
    exact Option.some.inj (there.symm.trans known)
  · obtain ⟨third, more, there⟩ := identities.rightSlots known matched
    obtain rfl : slot = third := (slots.eq_iff more).mpr rfl
    exact Option.some.inj (there.symm.trans made)

/-- What slots that match hold can be paired, if it is not yet. -/
theorem pairSlots (identities : Identities pairing left right) {slot place : Slot}
    (slots : slot.Matches pairing place) {reference other : Reference}
    (made : left.madeIn slot = some reference) (known : right.madeIn place = some other) :
    ∃ large, pairing ≤ large ∧ reference.Matches large other ∧ Identities large left right := by
  obtain ⟨kept, only, alone⟩ := identities.keptAlike_of_slots slots made known
  by_cases already : reference.Matches pairing other
  · exact ⟨pairing, le_refl _, already, identities⟩
  have suits := identities.leftTidy.suits made
  have suitsRight := identities.rightTidy.suits known
  have newLeft : ∀ further, ¬ reference.Matches pairing further := by
    intro further matched
    rw [only further matched] at matched
    exact already matched
  have newRight : ∀ further : Reference, ¬ further.Matches pairing other := by
    intro further matched
    rw [alone further matched] at matched
    exact already matched
  have functions {first second : FunctionId} {builtin : Callable} (same : reference = .function first)
      (sameRight : other = .function second)
      (found : left.functions[first.index]? = some builtin)
      (there : right.functions[second.index]? = some builtin)
      (callables : builtin.Matches pairing builtin) :
      ∃ large, pairing ≤ large ∧ reference.Matches large other ∧ Identities large left right := by
    subst same sameRight
    obtain ⟨large, grows, paired, more⟩ := identities.pairFunctions found there callables
      (fun other paired => newLeft _ (.function paired))
      (fun other paired => newRight _ (.function paired)) kept
    exact ⟨large, grows, .function paired, more⟩
  cases slots with
  | core id function =>
    cases suits with
    | core bound =>
      cases suitsRight with
      | core there => exact functions rfl rfl bound there ⟨rfl, rfl, .builtin _⟩
  | member paired function =>
    cases suits with
    | member bound =>
      cases suitsRight with
      | member there => exact functions rfl rfl bound there ⟨rfl, rfl, .builtin _⟩
  | library id library =>
    cases suits with
    | library found =>
      cases suitsRight with
      | library there =>
        obtain ⟨large, grows, paired, more⟩ := identities.pairObjects
          (left.index_lt_of_library found) (right.index_lt_of_library there)
          (by rw [found, there]; rfl) (fun other paired => newLeft _ (.object paired))
          (fun other paired => newRight _ (.object paired)) kept
        exact ⟨large, grows, .object paired, more⟩

/-- What is new on both sides is in no slot. -/
theorem keptAlike_of_new (identities : Identities pairing left right) {reference other : Reference}
    (new : ¬ left.Has reference) (newRight : ¬ right.Has other)
    (same : ∀ slot, leftLater.madeIn slot = left.madeIn slot)
    (sameRight : ∀ slot, rightLater.madeIn slot = right.madeIn slot) :
    KeptAlike pairing leftLater rightLater reference other where
  leftSlot := fun slot made =>
    absurd (identities.leftTidy.suits ((same slot).symm.trans made)).has new
  rightSlot := fun slot made =>
    absurd (identities.rightTidy.suits ((sameRight slot).symm.trans made)).has newRight

/-- Functions that match are paired when they are made. -/
theorem pushFunctions (identities : Identities pairing left right) {callable other : Callable}
    (callables : callable.Matches pairing other) :
    ∃ large, pairing ≤ large ∧
      large.functions ⟨left.functions.size⟩ ⟨right.functions.size⟩ ∧
      Identities large { left with functions := left.functions.push callable }
        { right with functions := right.functions.push other } := by
  have more := identities.madeMore (.pushFunction left callable) (.pushFunction right other)
  refine more.pairFunctions Array.getElem?_push_size Array.getElem?_push_size callables
    (fun further paired => ?_) (fun further paired => ?_)
    (identities.keptAlike_of_new (Nat.lt_irrefl _) (Nat.lt_irrefl _)
      (MadeMore.madeIn_pushFunction left callable) (MadeMore.madeIn_pushFunction right other))
  · exact Nat.lt_irrefl _ (identities.has (.function paired)).1
  · exact Nat.lt_irrefl _ (identities.has (.function paired)).2

/-- Objects of one kind that have handed out nothing are paired when they are made. -/
theorem pushObjects (identities : Identities pairing left right) {object other : HostObject}
    (same : object.bare = other.bare) (fresh : ∀ function, object.handedOut function = none)
    (freshRight : ∀ function, other.handedOut function = none) :
    ∃ large, pairing ≤ large ∧ large.objects ⟨left.objects.size⟩ ⟨right.objects.size⟩ ∧
      Identities large { left with objects := left.objects.push object }
        { right with objects := right.objects.push other } := by
  have more := identities.madeMore (.pushObject left fresh) (.pushObject right freshRight)
  have inside {Entry : Type} (entries : Array Entry) (entry : Entry) :
      entries.size < (entries.push entry).size := by
    rw [Array.size_push]
    exact Nat.lt_succ_self _
  refine more.pairObjects (inside _ _) (inside _ _) ?_ (fun further paired => ?_)
    (fun further paired => ?_)
    (identities.keptAlike_of_new (Nat.lt_irrefl _) (Nat.lt_irrefl _)
      (MadeMore.madeIn_pushObject left fresh) (MadeMore.madeIn_pushObject right freshRight))
  · rw [object_push, if_pos rfl, object_push, if_pos rfl, same]
  · exact Nat.lt_irrefl _ (identities.has (.object paired)).1
  · exact Nat.lt_irrefl _ (identities.has (.object paired)).2

end Identities

/-! ## Changes on both sides -/

namespace Matches

variable {left right : World}

/-- Worlds match when matching tables are put in the same place. -/
theorem setTable (matched : Matches pairing left right) (id : TableId) {table other : Table}
    (tables : table.Matches pairing other) :
    Matches pairing (left.setTable id table) (right.setTable id other) where
  toContents :=
    { matched.toContents with
      tables := by simpa only [World.setTable, Array.size_setIfInBounds] using matched.tables
      table := by
        intro place
        rw [table_setTable, table_setTable, matched.tables]
        split
        · exact tables
        · exact matched.table place }
  toIdentities := matched.toIdentities.madeMore (.of_parts rfl rfl rfl) (.of_parts rfl rfl rfl)

/-- Worlds match when matching tables are made. -/
theorem pushTable (matched : Matches pairing left right) {table other : Table}
    (tables : table.Matches pairing other) :
    Matches pairing { left with tables := left.tables.push table }
      { right with tables := right.tables.push other } where
  toContents :=
    { matched.toContents with
      tables := by simpa only [Array.size_push, Nat.add_right_cancel_iff] using matched.tables
      table := by
        intro place
        rw [table_push, table_push, matched.tables]
        split
        · exact tables
        · exact matched.table place }
  toIdentities := matched.toIdentities.madeMore (.of_parts rfl rfl rfl) (.of_parts rfl rfl rfl)

/-- Worlds match when an environment is changed alike, but for what it has made. -/
theorem setEnvironment (matched : Matches pairing left right) (id : EnvironmentId)
    {environment other : Environment} (environments : environment.Matches pairing other)
    (coreMade : environment.coreMade = (left.environment id).coreMade)
    (librariesMade : environment.librariesMade = (left.environment id).librariesMade)
    (coreMadeRight : other.coreMade = (right.environment id).coreMade)
    (librariesMadeRight : other.librariesMade = (right.environment id).librariesMade) :
    Matches pairing (left.setEnvironment id environment) (right.setEnvironment id other) where
  toContents :=
    { matched.toContents with
      environments := by
        simpa only [World.setEnvironment, Array.size_setIfInBounds] using matched.environments
      environment := by
        intro place
        rw [environment_setEnvironment, environment_setEnvironment, matched.environments]
        split
        · exact environments
        · exact matched.environment place }
  toIdentities := matched.toIdentities.madeMore (.setEnvironment left coreMade librariesMade)
    (.setEnvironment right coreMadeRight librariesMadeRight)

/-- Worlds match when matching environments are added that have made nothing. -/
theorem pushEnvironment (matched : Matches pairing left right) {environment other : Environment}
    (environments : environment.Matches pairing other) (coreMade : environment.coreMade = [])
    (librariesMade : environment.librariesMade = []) (coreMadeRight : other.coreMade = [])
    (librariesMadeRight : other.librariesMade = []) :
    Matches pairing { left with environments := left.environments.push environment }
      { right with environments := right.environments.push other } where
  toContents :=
    { matched.toContents with
      environments := by
        simpa only [Array.size_push, Nat.add_right_cancel_iff] using matched.environments
      environment := by
        intro place
        rw [environment_push, environment_push, matched.environments]
        split
        · exact environments
        · exact matched.environment place }
  toIdentities := matched.toIdentities.madeMore (.pushEnvironment left coreMade librariesMade)
    (.pushEnvironment right coreMadeRight librariesMadeRight)

/-- Worlds match when matching host types are added. -/
theorem pushHostType (matched : Matches pairing left right) {type other : HostType}
    (types : type.Matches pairing other) :
    Matches pairing { left with hostTypes := left.hostTypes.push type }
      { right with hostTypes := right.hostTypes.push other } where
  toContents :=
    { matched.toContents with
      hostTypes := by
        simpa only [Array.size_push, Nat.add_right_cancel_iff] using matched.hostTypes
      hostType := by
        intro place
        rw [hostType_push, hostType_push, matched.hostTypes]
        split
        · exact types
        · exact matched.hostType place }
  toIdentities := matched.toIdentities.madeMore (.of_parts rfl rfl rfl) (.of_parts rfl rfl rfl)

/-- Worlds match when what else they contain is changed alike. -/
theorem changeRest (matched : Matches pairing left right) {memory otherMemory : Table}
    (memories : memory.Matches pairing otherMemory) {held otherHeld : List Value}
    (values : AllMatch pairing held otherHeld) {tree otherTree : TypeTree} (trees : tree = otherTree)
    {registry otherRegistry : Registry} (registries : registry = otherRegistry) :
    Matches pairing { left with memory, held, tree, registry }
      { right with
        memory := otherMemory
        held := otherHeld
        tree := otherTree
        registry := otherRegistry } where
  toContents :=
    { matched.toContents with
      registry := registries
      tree := trees
      memory := memories
      held := values }
  toIdentities := matched.toIdentities.madeMore (.of_parts rfl rfl rfl) (.of_parts rfl rfl rfl)

end Matches

/-- A world that holds nothing but files matches itself without any pair. -/
theorem matches_start (files : Files) : Matches .none { files } { files } where
  toContents :=
    { tables := rfl
      table := fun _ => .empty
      environments := rfl
      environment := fun _ =>
        { storage := rfl
          heap := rfl
          sink := rfl
          hosted := rfl
          compiler := .script
          sources := .cons .reserved (.cons .storage (.cons .coreFunctions
            (.cons .systemLibraries .nil))) }
      hostTypes := rfl
      hostType := fun _ => ⟨rfl, .nil, .nil⟩
      registry := rfl
      tree := rfl
      files := rfl
      memory := .empty
      held := .nil }
  toIdentities := by
    have nothing {slot : Slot} {reference : Reference}
        (made : World.madeIn { files } slot = some reference) : False := by
      cases slot <;> contradiction
    have tidy : World.Tidy { files } :=
      ⟨fun made => (nothing made).elim, fun made => (nothing made).elim⟩
    exact
      { leftTidy := tidy
        rightTidy := tidy
        function := fun paired => paired.elim
        object := fun paired => paired.elim
        leftSlots := fun made => (nothing made).elim
        rightSlots := fun made => (nothing made).elim }

/-! ## Changes on one side -/

/-- Worlds that changes lead to which leave the contents: at most functions and objects are made. -/
abbrev Fills : World → World → Prop :=
  Relation.ReflTransGen fun old new => Change old new ∧ SameContents old new

/-- Where functions and objects are made at most, the contents stay. -/
theorem Fills.sameContents {old new : World} (fills : Fills old new) : SameContents old new := by
  induction fills with
  | refl => exact .refl old
  | tail _ step ih => exact ih.trans step.2

/-- Worlds still match when functions and objects are made in one of them. -/
theorem Matches.fills {left right later : World} (matched : Matches pairing left right)
    (fills : Fills right later) : Matches pairing left later := by
  induction fills with
  | refl => exact matched
  | tail _ step ih =>
    exact ⟨ih.toContents.of_same (.refl left) step.2,
      ih.toIdentities.madeMore (.refl left) step.1.madeMore⟩

/-! ## Texts -/

namespace Matches

variable {left right : World}

/-- Functions that are paired match. -/
theorem callable (matched : Matches pairing left right) {first second : FunctionId}
    (paired : pairing.functions first second) :
    (left.function first).Matches pairing (right.function second) := by
  obtain ⟨callable, other, found, there, callables⟩ := matched.function paired
  unfold World.function
  rw [found, there]
  exact callables

/-- Paired objects are of one kind. -/
theorem alike (matched : Matches pairing left right) {first second : ObjectId}
    (paired : pairing.objects first second) : (left.object first).Alike (right.object second) :=
  HostObject.alike_of_bare (matched.object paired).2.2

/-- Objects of one kind have the same type name and the same display text. -/
theorem texts (matched : Matches pairing left right) {object other : HostObject}
    (alike : object.Alike other) :
    object.typeName left = other.typeName right ∧ object.display left = other.display right := by
  cases alike with
  | handle label length => exact ⟨rfl, rfl⟩
  | library name made given => exact ⟨rfl, rfl⟩
  | package type =>
    unfold HostObject.typeName HostObject.display
    dsimp only
    rw [(matched.hostType type).fullName]
    exact ⟨rfl, rfl⟩

/-- Matching values have the same display text. -/
theorem display (matched : Matches pairing left right) {value other : Value}
    (values : value.Matches pairing other) : left.display value = right.display other := by
  cases values with
  | content scalar =>
    cases value with
    | reference target => exact absurd rfl (scalar target)
    | _ => rfl
  | reference known =>
    cases known with
    | table id => rfl
    | function paired =>
      unfold World.display
      dsimp only
      rw [(matched.callable paired).name]
    | node id =>
      unfold World.display
      dsimp only
      rw [matched.tree]
    | object paired => exact (matched.texts (matched.alike paired)).2
    | environment id => rfl

end Matches

end World

end ScriptHost
