import ScriptHost.Proofs.Isolation.Moves
import ScriptHost.Proofs.Isolation.Standing

/-!
# Environments are isolated

Environments share the type tree and the registries only. What a host does with one of them,
and every script that runs there, stays with what can be reached from that environment, from
what is handed over, from the members of host types and from what code of the host remembers.
An environment to which nothing of that belongs is left as it was, with all its tables, and
still nothing of that belongs to it.
-/

namespace ScriptHost

open ScriptHost.Action World

/-! ## What an environment reaches -/

namespace World

variable {old new : World} {id : EnvironmentId}

/-- What leads nowhere reaches itself only. -/
theorem eq_of_reaches {source target : Reference} (nowhere : ∀ next, ¬old.Leads source next)
    (reaches : old.Reaches source target) : target = source := by
  rcases reaches.cases_head with same | ⟨next, leads, _⟩
  · exact same.symm
  · exact absurd leads (nowhere next)

/-- A table that has nothing leads nowhere. -/
theorem leads_nowhere_of_empty {table : TableId} (bare : old.table table = {})
    (target : Reference) : ¬old.Leads (.table table) target := by
  intro leads
  cases leads with
  | table refers =>
    rw [bare] at refers
    cases refers <;> contradiction

/-- A function that is not there leads nowhere. -/
theorem function_leads_nowhere {function : FunctionId}
    (outside : old.functions.size ≤ function.index) (target : Reference) :
    ¬old.Leads (.function function) target := by
  intro leads
  cases leads with
  | function refers =>
    rw [function_of_outside outside] at refers
    cases refers with
    | home home => contradiction
    | body refers =>
      obtain ⟨overload, member, -⟩ := refers
      exact absurd member List.not_mem_nil

/-- An object that is not there leads nowhere. -/
theorem object_leads_nowhere {object : ObjectId} (outside : old.objects.size ≤ object.index)
    (target : Reference) : ¬old.Leads (.object object) target := by
  intro leads
  cases leads with
  | object refers =>
    rw [object_of_outside outside] at refers
    cases refers

/-- What a clear thing leads to is clear. -/
theorem Clear.leads {source target : Reference} (clear : old.Clear id source)
    (leads : old.Leads source target) : old.Clear id target :=
  fun further reaches => clear further (.head leads reaches)

/-- A clear thing does not belong to the environment. -/
theorem Clear.not_belongs {target : Reference} (clear : old.Clear id target) :
    ¬old.Belongs id target :=
  clear target .refl

/-- What is not there is clear of a settled environment. -/
theorem clear_of_not_stands (settled : old.Settled id) {source : Reference}
    (missing : ¬old.Stands source) : old.Clear id source := by
  intro target reaches belongs
  cases source with
  | table table =>
    have bare := table_of_outside (Nat.le_of_not_lt missing)
    obtain rfl := eq_of_reaches (leads_nowhere_of_empty bare) reaches
    cases belongs with
    | table reached => exact missing (settled _ reached)
  | function function =>
    have outside := Nat.le_of_not_lt missing
    obtain rfl := eq_of_reaches (function_leads_nowhere outside) reaches
    cases belongs with
    | function home =>
      rw [function_of_outside outside] at home
      contradiction
  | object object =>
    obtain rfl := eq_of_reaches (object_leads_nowhere (Nat.le_of_not_lt missing)) reaches
    exact nomatch belongs
  | node | environment => exact absurd trivial missing

/-- Being clear of an environment guards a world in which the members of host types and what code of
the host remembers are. -/
theorem guards_clear (types : ∀ (type : HostTypeId) root, (old.hostType type).Refers root →
      old.Clear id root)
    (memory : ∀ root, old.memory.Refers root → old.Clear id root) :
    old.Guards (old.Clear id) where
  tables _ clear _ refers := clear.leads (.table refers)
  functions _ clear _ refers := clear.leads (.function refers)
  libraries := by
    intro object library made clear known entry member
    refine clear.leads (.object ?_)
    rw [known]
    exact .member member
  environments _ clear _ refers := clear.leads (.environment refers)
  types := types
  memory := memory
  nodes := by
    intro node target reaches belongs
    rcases reaches.cases_head with rfl | ⟨next, leads, rest⟩
    · exact nomatch belongs
    · cases leads with
      | node refers => exact types _ next refers target rest belongs

/-- What is made besides what is clear of a settled environment is clear too. -/
theorem Shelters.eq_clear {wide : Reference → Prop} (settled : old.Settled id)
    (shelters : Shelters (old.Clear id) wide old new) : wide = old.Clear id := by
  funext target
  refine propext ((shelters.wide_iff target).trans ⟨fun holds => ?_, .inl⟩)
  rcases holds with clear | ⟨-, missing⟩
  · exact clear
  · exact clear_of_not_stands settled missing

section Sparing

variable (settled : old.Settled id)
  (types : ∀ (type : HostTypeId) root, (old.hostType type).Refers root → old.Clear id root)
  (spares : old.Spares (old.Clear id) new) (steadies : Steadies old new)

include spares in
/-- A table that belongs to the environment is as it was. -/
theorem table_of_belongs {table : TableId} (belongs : old.Belongs id (.table table)) :
    new.table table = old.table table :=
  spares.tables table fun clear => clear.not_belongs belongs

include spares in
/-- An environment that the storage reaches is as it was, since its storage belongs to the
environment. -/
theorem environment_of_reached {other : EnvironmentId}
    (reached : old.Reaches (.table (old.environment id).storage) (.environment other)) :
    new.environment other = old.environment other := by
  refine spares.environments other fun clear => ?_
  have leads : old.Leads (.environment other) (.table (old.environment other).storage) :=
    .environment .storage
  exact (clear.leads leads).not_belongs (.table (reached.tail leads))

include settled steadies in
/-- An object that the storage reaches is what it was, a library perhaps with more of its functions
handed out. -/
theorem object_of_reached {object : ObjectId}
    (reached : old.Reaches (.table (old.environment id).storage) (.object object)) :
    new.Becomes (old.object object) (new.object object) := by
  have found := Array.getElem?_eq_getElem (settled _ reached)
  obtain ⟨further, there, becomes⟩ := steadies.objects _ _ found
  unfold World.object
  rw [found, there]
  exact becomes

include spares steadies in
/-- What a host type refers to it has referred to before. -/
theorem refers_of_hostType {type : HostTypeId} {target : Reference}
    (refers : (new.hostType type).Refers target) : (old.hostType type).Refers target := by
  unfold World.hostType at refers ⊢
  cases found : old.hostTypes[type.index]? with
  | some known =>
    rw [steadies.types _ known found] at refers
    exact refers
  | none =>
    have outside := Array.getElem?_eq_none_iff.mp found
    rw [Array.getElem?_eq_none (spares.types ▸ outside)] at refers
    exact refers

include settled spares steadies in
/-- What something reached from the storage leads to it has led to before, functions of libraries
apart. -/
theorem leads_of_later {source target : Reference}
    (reached : old.Reaches (.table (old.environment id).storage) source)
    (leads : new.Leads source target) : old.Leads source target ∨ new.Bare target := by
  cases leads with
  | table refers =>
    rw [table_of_belongs spares (.table reached)] at refers
    exact .inl (.table refers)
  | function refers =>
    rw [steadies.function (settled _ reached)] at refers
    exact .inl (.function refers)
  | node refers => exact .inl (.node (refers_of_hostType spares steadies refers))
  | environment refers =>
    rw [environment_of_reached spares reached] at refers
    exact .inl (.environment refers)
  | object refers =>
    have becomes := object_of_reached settled steadies reached
    generalize new.object _ = further at becomes refers
    generalize before : old.object _ = known at becomes
    cases becomes with
    | same =>
      cases refers with
      | member member => exact .inl (.object (before ▸ .member member))
      | package refers =>
        exact .inl (.object (before ▸ .package (refers_of_hostType spares steadies refers)))
    | more kept added =>
      cases refers with
      | member member =>
        rcases added _ member with made | bare
        · exact .inl (.object (before ▸ .member made))
        · exact .inr bare

include settled spares steadies in
/-- What the storage reaches it has reached before, functions of libraries apart. -/
theorem reaches_of_later {target : Reference}
    (reaches : new.Reaches (.table (old.environment id).storage) target) :
    old.Reaches (.table (old.environment id).storage) target ∨ new.Bare target := by
  induction reaches with
  | refl => exact .inl .refl
  | tail _ leads ih =>
    rcases ih with reached | bare
    · exact (leads_of_later settled spares steadies reached leads).imp_left reached.tail
    · exact absurd leads (bare.leads_nowhere _)

include settled types spares steadies in
/-- What something reached from the storage leads to on the way to what belongs to the environment
it still leads to. Host types are not on the way. -/
theorem leads_later {source next target : Reference}
    (reached : old.Reaches (.table (old.environment id).storage) source)
    (leads : old.Leads source next) (rest : old.Reaches next target)
    (belongs : old.Belongs id target) : new.Leads source next := by
  cases leads with
  | table refers =>
    rw [← table_of_belongs spares (.table reached)] at refers
    exact .table refers
  | function refers =>
    rw [← steadies.function (settled _ reached)] at refers
    exact .function refers
  | node refers => exact absurd belongs (types _ _ refers target rest)
  | environment refers =>
    rw [← environment_of_reached spares reached] at refers
    exact .environment refers
  | object refers =>
    have becomes := object_of_reached settled steadies reached
    refine .object ?_
    generalize new.object _ = further at becomes ⊢
    generalize old.object _ = known at becomes refers
    cases refers with
    | package refers => exact absurd belongs (types _ _ refers target rest)
    | member member =>
      cases becomes with
      | same => exact .member member
      | more kept _ => exact .member (kept member)

include settled types spares steadies in
/-- A table that the storage reaches it still reaches. -/
theorem reaches_later {table : TableId}
    (reaches : old.Reaches (.table (old.environment id).storage) (.table table)) :
    new.Reaches (.table (old.environment id).storage) (.table table) := by
  have belongs : old.Belongs id (.table table) := .table reaches
  have rest {source : Reference} (onward : old.Reaches source (.table table))
      (reached : old.Reaches (.table (old.environment id).storage) source) :
      new.Reaches source (.table table) := by
    induction onward using Relation.ReflTransGen.head_induction_on with
    | refl => exact .refl
    | head leads onward ih =>
      exact .head (leads_later settled types spares steadies reached leads onward belongs)
        (ih (reached.tail leads))
  exact rest reaches .refl

include settled types spares steadies in
/-- What belongs to the environment is what has belonged to it. -/
theorem belongs_iff (guards : new.Guards (old.Clear id)) (target : Reference) :
    new.Belongs id target ↔ old.Belongs id target := by
  have same : new.environment id = old.environment id :=
    spares.environments id fun clear => clear.not_belongs .itself
  constructor
  · intro now
    cases now with
    | itself => exact .itself
    | table reached =>
      rw [same] at reached
      rcases reaches_of_later settled spares steadies reached with before | bare
      · exact .table before
      · exact nomatch bare
    | @function function home =>
      rcases Nat.lt_or_ge function.index old.functions.size with there | outside
      · rw [steadies.function there] at home
        exact .function home
      · -- A function that is new is clear, so it cannot be at home here.
        have clear : old.Clear id (.function function) :=
          clear_of_not_stands settled (Nat.not_lt_of_le outside)
        have home := guards.functions function clear _ (.home home)
        exact absurd .itself home.not_belongs
  · intro before
    cases before with
    | itself => exact .itself
    | table reached =>
      refine .table ?_
      rw [same]
      exact reaches_later settled types spares steadies reached
    | @function function home =>
      rcases Nat.lt_or_ge function.index old.functions.size with there | outside
      · exact .function ((steadies.function there).symm ▸ home)
      · rw [function_of_outside outside] at home
        contradiction

end Sparing

/-! ## Environments that are let alone -/

/-- An environment is as it was, and so is what belongs to it. -/
structure LetsAlone (old new : World) (id : EnvironmentId) : Prop where
  environment : new.environment id = old.environment id
  belongs : ∀ target, new.Belongs id target ↔ old.Belongs id target
  tables : ∀ table, old.Belongs id (.table table) → new.table table = old.table table
  settled : new.Settled id

/-- An environment that some things, the members of host types and what code of the host remembers
are apart from is let alone when clear things stay among themselves, and they stay apart from it. -/
theorem Apart.later {old new : World} {roots : Reference → Prop} {id : EnvironmentId}
    (apart : old.Apart roots id) (settled : old.Settled id) (guards : new.Guards (old.Clear id))
    (spares : old.Spares (old.Clear id) new) (steadies : Steadies old new) :
    LetsAlone old new id ∧ new.Apart roots id := by
  have types := apart.types
  have same : new.environment id = old.environment id :=
    spares.environments id fun clear => clear.not_belongs .itself
  have belongs (target : Reference) : new.Belongs id target ↔ old.Belongs id target :=
    belongs_iff settled types spares steadies guards target
  have clear {root : Reference} (before : old.Clear id root) : new.Clear id root :=
    fun target reaches now =>
      (guards.reaches before reaches).not_belongs ((belongs target).mp now)
  refine ⟨⟨same, belongs, fun table => table_of_belongs spares, ?_⟩, ?_, ?_, ?_⟩
  · intro target reaches
    rw [same] at reaches
    rcases reaches_of_later settled spares steadies reaches with before | bare
    · exact steadies.stands (settled target before)
    · exact bare.stands
  · exact fun root holds => clear (apart.roots root holds)
  · intro type root refers
    exact clear (types type root (refers_of_hostType spares steadies refers))
  · intro root refers target reaches now
    exact (guards.reaches (guards.memory root refers) reaches).not_belongs
      ((belongs target).mp now)

/-- What is let alone twice is let alone. -/
theorem LetsAlone.trans {old middle new : World} {id : EnvironmentId}
    (first : LetsAlone old middle id) (second : LetsAlone middle new id) :
    LetsAlone old new id where
  environment := second.environment.trans first.environment
  belongs target := (second.belongs target).trans (first.belongs target)
  tables table belongs :=
    (second.tables table ((first.belongs _).mpr belongs)).trans (first.tables table belongs)
  settled := second.settled

end World

section Moves

variable {old new : World} {roots : Reference → Prop} {mover other : EnvironmentId}

/-- A move on an environment that is apart from another one, as are all things handed over, lets
that other one alone and leaves everything apart. -/
theorem HostMove.lets_alone {move : HostMove} (on : move.On mover)
    (mine : roots (.environment mover)) (hands : ∀ target, move.Hands target → roots target)
    (settled : old.Settled other) (apart : old.Apart roots other) :
    LetsAlone old (left move.perform old) other ∧ (left move.perform old).Apart roots other := by
  have confined := move.confined on (apart.roots _ mine) fun target given =>
    apart.roots target (hands target given)
  obtain ⟨wide, shelters, -⟩ := confined old (guards_clear apart.types apart.memory)
  obtain rfl := shelters.eq_clear settled
  exact apart.later settled shelters.guards shelters.spares (move.steadies old)

/-- A host makes a move on an environment that hands over nothing but some things. -/
def HostMove.LeadsAmong (mover : EnvironmentId) (roots : Reference → Prop) (old new : World) :
    Prop :=
  ∃ move : HostMove, move.On mover ∧ (∀ target, move.Hands target → roots target) ∧
    new = left move.perform old

/-- Moves one after another on an environment that is apart from another one, as are all things
handed over, let that other one alone and leave everything apart. -/
theorem HostMove.lets_alone_of_moves
    (moved : Relation.ReflTransGen (HostMove.LeadsAmong mover roots) old new)
    (mine : roots (.environment mover)) (settled : old.Settled other)
    (apart : old.Apart roots other) : LetsAlone old new other ∧ new.Apart roots other := by
  induction moved with
  | refl => exact ⟨⟨rfl, fun _ => Iff.rfl, fun _ _ => rfl, settled⟩, apart⟩
  | tail _ leads ih =>
    obtain ⟨alone, apart⟩ := ih
    obtain ⟨move, on, hands, rfl⟩ := leads
    obtain ⟨further, still⟩ := move.lets_alone on mine hands alone.settled apart
    exact ⟨alone.trans further, still⟩

/-- A move on one environment lets another one alone if nothing belongs to that one which the
environment, what is handed over, the members of host types and what code of the host remembers
reach, whether the move succeeds or fails. They do not reach anything of it afterwards either. -/
theorem environments_isolated {world : World} {move : HostMove} (on : move.On mover)
    (settled : world.Settled other)
    (apart : world.Apart (fun root => root = .environment mover ∨ move.Hands root) other) :
    LetsAlone world (left move.perform world) other ∧
      (left move.perform world).Apart
        (fun root => root = .environment mover ∨ move.Hands root) other :=
  move.lets_alone on (.inl rfl) (fun _ => .inr) settled apart

end Moves

/-- A function of the host that remembers its first argument. -/
def noting : Callable where
  name := "note"
  body := .closure fun _ given =>
    .step (.remember (.text "last") (given.headD .nil)) fun _ => .done (.ok [])

/-- Two environments, the first one with a function of the host in its storage and the second one
with a table. -/
def neighbours : World where
  tables := #[{ entries := [(.text "note", .function ⟨0⟩)] },
    { entries := [(.text "kept", .table ⟨2⟩)] }, { entries := [(.text "x", .boolean true)] }]
  functions := #[noting]
  environments := #[
    { storage := ⟨0⟩, heap := ⟨none, 0⟩, sink := .capture "", compiler := .script },
    { storage := ⟨1⟩, heap := ⟨none, 0⟩, sink := .capture "", compiler := .script }]

/-- The storage of the second environment reaches a table besides itself. -/
theorem neighbours_reaches {target : Reference}
    (reaches : neighbours.Reaches (.table ⟨1⟩) target) :
    target = .table ⟨1⟩ ∨ target = .table ⟨2⟩ := by
  have closed (source next : Reference) (among : source = .table ⟨1⟩ ∨ source = .table ⟨2⟩)
      (leads : neighbours.Leads source next) : next = .table ⟨1⟩ ∨ next = .table ⟨2⟩ := by
    rcases among with rfl | rfl
    all_goals
      cases leads with
      | table refers => cases refers <;> simp_all [neighbours, World.table]
  exact reaches_among closed (.inl rfl) reaches

/-- The function of the host brings in nothing. -/
theorem noting_refers {target : Reference} (refers : noting.Refers target) : False := by
  cases refers with
  | home home => contradiction
  | body refers =>
    obtain ⟨environment, -, arguments, unseen, refers⟩ := refers
    cases refers with
    | operation named =>
      have first : .reference target = arguments.headD .nil := by
        simpa [HostOperation.values] using named
      cases arguments with
      | nil => contradiction
      | cons value rest => exact unseen (first ▸ List.mem_cons_self)
    | later _ refers =>
      cases refers with
      | result given => exact absurd given List.not_mem_nil

/-- The first environment and its storage reach the function of the host and nothing else. -/
theorem neighbours_reaches_first {source target : Reference}
    (start : source ∈ [.environment ⟨0⟩, .table ⟨0⟩, .function ⟨0⟩])
    (reaches : neighbours.Reaches source target) :
    target ∈ [.environment ⟨0⟩, .table ⟨0⟩, Reference.function ⟨0⟩] := by
  refine reaches_among (fun source next among leads => ?_) start reaches
  have among : source = .environment ⟨0⟩ ∨ source = .table ⟨0⟩ ∨ source = .function ⟨0⟩ := by
    simpa using among
  rcases among with rfl | rfl | rfl
  · cases leads with
    | environment refers =>
      cases refers with
      | storage => simp [neighbours, World.environment]
      | source member refers =>
        have standard : _ ∈ standardSources := member
        cases refers <;> simp [standardSources] at standard
      | compiler refers => exact False.elim refers
      | core member => exact absurd member List.not_mem_nil
      | library member => exact absurd member List.not_mem_nil
  · cases leads with
    | table refers => cases refers <;> simp_all [neighbours, World.table]
  · cases leads with
    | function refers => exact (noting_refers refers).elim

/-- A script that runs in the first environment, has the host remember a table handed to it, writes
to that table and then fails. -/
def visit : HostMove :=
  .runText [] ⟨0⟩ "kept = {1} note(mine) mine.x = kept print(kept.x.y)" "visit"
    [("mine", .table ⟨0⟩)]

/-- The script lets the second environment alone, to which a table belongs besides its storage. -/
theorem environments_isolated_visit :
    neighbours.Settled ⟨1⟩ ∧
      neighbours.Apart (fun root => root = .environment ⟨0⟩ ∨ visit.Hands root) ⟨1⟩ ∧
      neighbours.Belongs ⟨1⟩ (.table ⟨2⟩) ∧
      LetsAlone neighbours (left visit.perform neighbours) ⟨1⟩ := by
  have settled : neighbours.Settled ⟨1⟩ := by
    intro target reaches
    rcases neighbours_reaches reaches with rfl | rfl
    · show 1 < 3
      decide
    · show 2 < 3
      decide
  have clear (root : Reference) (among : root ∈ [.environment ⟨0⟩, .table ⟨0⟩, .function ⟨0⟩]) :
      neighbours.Clear ⟨1⟩ root := by
    intro target reaches belongs
    have reached := neighbours_reaches_first among reaches
    cases belongs with
    | itself => simp at reached
    | table known =>
      rcases neighbours_reaches known with same | same <;> simp [same] at reached
    | function home =>
      obtain rfl : _ = FunctionId.mk 0 := by simpa using reached
      contradiction
  have apart : neighbours.Apart (fun root => root = .environment ⟨0⟩ ∨ visit.Hands root) ⟨1⟩ := by
    refine ⟨fun root given => clear root ?_, fun type root refers => ?_, fun root refers => ?_⟩
    · rcases given with rfl | hands
      · simp
      · obtain rfl := Value.reference.inj (List.mem_singleton.mp hands)
        simp
    · cases refers <;> contradiction
    · cases refers <;> contradiction
  have kept : (neighbours.table ⟨1⟩).Refers (.table ⟨2⟩) := .value List.mem_cons_self
  have on : visit.On ⟨0⟩ := rfl
  exact ⟨settled, apart, .table (.single (.table kept)), (environments_isolated on settled apart).1⟩

end ScriptHost
