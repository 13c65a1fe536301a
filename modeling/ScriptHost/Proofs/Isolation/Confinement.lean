import Mathlib.Order.Basic
import ScriptHost.Proofs.Isolation.References
import ScriptHost.Proofs.World.Kept

/-!
# Confined actions

Some references are safe: what they lead to is safe again, and so are the members of host types
and what code of the host remembers. A confined action finds a world like that and leaves one,
changes no table and no environment that is not safe, and gives nothing that is not. What it
makes is safe from then on, so what is safe grows along a run, by what is made and by nothing
else. Actions are confined if their steps are, so confinement is shown once for each operation.
-/

namespace ScriptHost

open ScriptHost.Action

/-! ## Safe values -/

/-- A value is no reference but a safe one. -/
def Value.Within (safe : Reference → Prop) (value : Value) : Prop :=
  ∀ target, value = .reference target → safe target

/-- Values are no references but safe ones. -/
def AllWithin (safe : Reference → Prop) (values : List Value) : Prop :=
  ∀ value ∈ values, value.Within safe

/-- An answer is no reference but a safe one. -/
def AnswerWithin (safe : Reference → Prop) (answer : Option Value) : Prop :=
  ∀ value, answer = some value → value.Within safe

/-- The environment of a context is safe. -/
def Context.Within (safe : Reference → Prop) (context : Context) : Prop :=
  ∀ id, context.environment = some id → safe (.environment id)

/-- A table refers to nothing that is not safe. -/
def Table.Within (safe : Reference → Prop) (table : Table) : Prop := table.Refers ≤ safe

section Values

variable {safe wide : Reference → Prop}

/-- A safe value stays safe where more things are. -/
theorem Value.Within.mono {value : Value} (within : value.Within safe) (grows : safe ≤ wide) :
    value.Within wide :=
  fun target same => grows target (within target same)

/-- Safe values stay safe where more things are. -/
theorem AllWithin.mono {values : List Value} (within : AllWithin safe values)
    (grows : safe ≤ wide) : AllWithin wide values :=
  fun value member => (within value member).mono grows

/-- A safe context stays safe where more things are. -/
theorem Context.Within.mono {context : Context} (within : context.Within safe)
    (grows : safe ≤ wide) : context.Within wide :=
  fun id known => grows _ (within id known)

/-- A reference is within what is safe if it is safe. -/
@[simp]
theorem within_reference {target : Reference} :
    Value.Within safe (.reference target) ↔ safe target :=
  ⟨fun within => within target rfl, fun holds _ same => Value.reference.inj same ▸ holds⟩

/-- A value that is no reference is safe. -/
theorem within_of_kind {value : Value} (content : value.kind.isByContent = true) :
    value.Within safe := by
  rintro target rfl
  cases target <;> contradiction

/-- `nil` is safe. -/
@[simp]
theorem within_nil : Value.Within safe .nil := within_of_kind rfl

/-- A truth value is safe. -/
@[simp]
theorem within_boolean (content : Bool) : Value.Within safe (.boolean content) :=
  within_of_kind rfl

/-- An integer is safe. -/
@[simp]
theorem within_int (kind : IntKind) (content : Ranged kind) :
    Value.Within safe (.int kind content) :=
  within_of_kind rfl

/-- A double is safe. -/
@[simp]
theorem within_number (content : Binary.Double) : Value.Within safe (.number content) :=
  within_of_kind rfl

/-- A text is safe. -/
@[simp]
theorem within_text (content : String) : Value.Within safe (.text content) := within_of_kind rfl

/-- A word is safe. -/
@[simp]
theorem within_ofInt64 (word : Int64) : (Value.ofInt64 word).Within safe := by
  unfold Value.ofInt64
  split <;> exact within_int _ _

/-- A number of things is safe. -/
@[simp]
theorem within_ofNat (count : Nat) : (Value.ofNat count).Within safe := within_ofInt64 _

/-- Values are safe where the first one and the others are. -/
@[simp]
theorem allWithin_cons {value : Value} {rest : List Value} :
    AllWithin safe (value :: rest) ↔ value.Within safe ∧ AllWithin safe rest :=
  List.forall_mem_cons

/-- No values are safe. -/
@[simp]
theorem allWithin_nil : AllWithin safe [] := fun _ member => absurd member List.not_mem_nil

/-- No answer is safe. -/
theorem answerWithin_none : AnswerWithin safe none := fun _ same => nomatch same

/-- An answer is safe if its value is. -/
theorem answerWithin_some {value : Value} (within : value.Within safe) :
    AnswerWithin safe (some value) :=
  fun _ same => Option.some.inj same ▸ within

/-- Some of safe values are safe. -/
theorem AllWithin.subset {values some : List Value} (within : AllWithin safe values)
    (among : some ⊆ values) : AllWithin safe some :=
  fun value member => within value (among member)

/-- One of safe values is safe, and so is `nil` in the place of a missing one. -/
theorem AllWithin.getElem? {values : List Value} (within : AllWithin safe values) (place : Nat) :
    (values[place]?.getD .nil).Within safe := by
  cases found : values[place]? with
  | none => exact within_nil
  | some value => exact within value (List.mem_of_getElem? found)

/-- The first of safe values is safe. -/
theorem AllWithin.headD {values : List Value} (within : AllWithin safe values) :
    (values.headD .nil).Within safe := by
  cases values with
  | nil => exact within_nil
  | cons value rest => exact within value List.mem_cons_self

end Values

/-! ## Safe tables -/

/-- Only a reference has that reference as key. -/
theorem Key.eq_of_reference {value : Value} {target : Reference}
    (known : Key.ofValue? value = some (.reference target)) : value = .reference target := by
  cases value with
  | reference other => exact congrArg _ (Key.reference.inj (Option.some.inj known))
  | nil | boolean | text => simp [Key.ofValue?] at known
  | int | single | number =>
    unfold Key.ofValue? at known
    dsimp only at known
    split at known
    · simp at known
    · split at known
      · split at known <;> simp at known
      · simp at known

namespace Table.Within

variable {safe wide : Reference → Prop} {table : Table}

/-- A safe table stays safe where more things are. -/
theorem mono (within : table.Within safe) (grows : safe ≤ wide) : table.Within wide :=
  le_trans within grows

/-- An empty table is safe. -/
theorem empty : Table.Within safe {} := by
  intro target refers
  cases refers <;> contradiction

/-- What is read from a safe table is safe. -/
theorem read (within : table.Within safe) (key : Key) : (table.read key).Within safe := by
  intro target same
  unfold Table.read at same
  cases found : findEntry key table.entries with
  | none =>
    rw [found] at same
    contradiction
  | some value =>
    rw [found] at same
    obtain rfl : value = .reference target := same
    exact within target (.value (mem_of_findEntry found))

/-- What is read under a value as key is safe. -/
theorem get (within : table.Within safe) (key : Value) : (table.get key).Within safe := by
  unfold Table.get
  split
  · exact within.read _
  · exact within_nil

/-- The keys and values of a safe table are safe. -/
theorem entries (within : table.Within safe) :
    AllWithin safe (table.entries.flatMap fun entry => [entry.1.toValue, entry.2]) := by
  intro value member
  obtain ⟨⟨key, content⟩, listed, part⟩ := List.mem_flatMap.mp member
  rcases List.mem_cons.mp part with rfl | part
  · cases key with
    | reference target => exact within_reference.mpr (within target (.key listed))
    | integer content => exact within_ofInt64 content
    | boolean | float | text => exact within_of_kind rfl
  · obtain rfl := List.mem_singleton.mp part
    rintro target rfl
    exact within target (.value listed)

/-- A safe key and a safe value leave a table safe. -/
theorem write (within : table.Within safe) {key : Key} {value : Value}
    (keySafe : ∀ target, key = .reference target → safe target) (valueSafe : value.Within safe) :
    (table.write key value).Within safe := by
  have entries {entry : Key × Value} (member : entry ∈ (table.write key value).entries) :
      entry ∈ table.entries ∨ entry = (key, value) := by
    unfold Table.write at member
    split at member
    · exact .inl (List.mem_filter.mp member).1
    · exact (mem_putEntry member).symm
  intro target refers
  cases refers with
  | key member =>
    rcases entries member with before | written
    · exact within target (.key before)
    · exact keySafe target (Prod.mk.inj written).1.symm
  | value member =>
    rcases entries member with before | written
    · exact within target (.value before)
    · exact valueSafe target (Prod.mk.inj written).2.symm
  | hook hook =>
    rw [Table.hook_write] at hook
    exact within target (.hook hook)

/-- Setting a safe key to a safe value gives a safe value and leaves a table safe. -/
theorem set (within : table.Within safe) {key value : Value} (keySafe : key.Within safe)
    (valueSafe : value.Within safe) {changed : Value × Table}
    (set : table.set key value = .ok changed) :
    changed.1.Within safe ∧ changed.2.Within safe := by
  unfold Table.set at set
  cases known : Key.ofValue? key with
  | none =>
    rw [known] at set
    contradiction
  | some normal =>
    rw [known] at set
    obtain rfl := Except.ok.inj set
    refine ⟨within.read normal, within.write (fun target same => keySafe target ?_) valueSafe⟩
    exact Key.eq_of_reference (same ▸ known)

end Table.Within

/-- What is found in a list is in it. -/
theorem mem_of_lookup {Made Entry : Type} [BEq Made] [LawfulBEq Made] {key : Made} {entry : Entry}
    {entries : List (Made × Entry)} (found : entries.lookup key = some entry) :
    (key, entry) ∈ entries := by
  induction entries with
  | nil => contradiction
  | cons first rest ih =>
    rw [List.lookup_cons] at found
    split at found
    · next same =>
      obtain rfl := Option.some.inj found
      rw [eq_of_beq same]
      exact List.mem_cons_self
    · exact List.mem_cons_of_mem _ (ih found)

/-! ## Guarded worlds -/

namespace World

/-- A world in which safe things lead to safe things only. Whatever host types have is safe, and so
are what code of the host remembers and nodes of the type tree. -/
structure Guards (safe : Reference → Prop) (world : World) : Prop where
  tables : ∀ id, safe (.table id) → (world.table id).Within safe
  functions : ∀ id, safe (.function id) → (world.function id).Refers ≤ safe
  libraries : ∀ id library made, safe (.object id) → world.object id = .library library made →
    ∀ entry ∈ made, safe (.function entry.2)
  environments : ∀ id, safe (.environment id) → (world.environment id).Refers ≤ safe
  types : ∀ id, (world.hostType id).Refers ≤ safe
  memory : world.memory.Within safe
  nodes : ∀ id, safe (.node id)

/-- A later world with no more host types, and with the tables and environments that are not safe
as they were. -/
structure Spares (safe : Reference → Prop) (old new : World) : Prop where
  tables : ∀ id, ¬safe (.table id) → new.table id = old.table id
  environments : ∀ id, ¬safe (.environment id) → new.environment id = old.environment id
  types : new.hostTypes.size = old.hostTypes.size

/-- A later world where the safe things are those that have been safe and those made since. It is
guarded and spared with regard to them, and what has been there still is. -/
structure Shelters (safe wide : Reference → Prop) (old new : World) : Prop where
  guards : new.Guards wide
  spares : Spares wide old new
  stands : old.Stands ≤ new.Stands
  wide_iff : ∀ target, wide target ↔ safe target ∨ (new.Stands target ∧ ¬old.Stands target)

/-- What is safe, and one thing more. -/
def Besides (safe : Reference → Prop) (made target : Reference) : Prop :=
  safe target ∨ target = made

/-- What is safe is so besides one thing more. -/
theorem le_besides (safe : Reference → Prop) (made : Reference) : safe ≤ Besides safe made :=
  fun _ => .inl

variable {safe wide : Reference → Prop} {old middle new world : World}

/-- The same things are there where there are as many tables, functions and objects. -/
theorem stands_congr (tables : new.tables.size = old.tables.size)
    (functions : new.functions.size = old.functions.size)
    (objects : new.objects.size = old.objects.size) : new.Stands = old.Stands := by
  funext target
  cases target <;> simp only [Stands, tables, functions, objects]

/-- After a table is made it is there besides what has been. -/
theorem stands_pushTable (world : World) (table : Table) (target : Reference) :
    Stands { world with tables := world.tables.push table } target ↔
      world.Stands target ∨ target = .table ⟨world.tables.size⟩ := by
  cases target with
  | table id =>
    show id.index < (world.tables.push table).size ↔ _
    rw [Array.size_push, Nat.lt_succ_iff_lt_or_eq]
    refine or_congr Iff.rfl ⟨fun last => congrArg (Reference.table ⟨·⟩) last, ?_⟩
    rintro ⟨⟩
    rfl
  | _ => exact (or_iff_left nofun).symm

/-- After a function is made it is there besides what has been. -/
theorem stands_pushFunction (world : World) (function : Callable) (target : Reference) :
    Stands { world with functions := world.functions.push function } target ↔
      world.Stands target ∨ target = .function ⟨world.functions.size⟩ := by
  cases target with
  | function id =>
    show id.index < (world.functions.push function).size ↔ _
    rw [Array.size_push, Nat.lt_succ_iff_lt_or_eq]
    refine or_congr Iff.rfl ⟨fun last => congrArg (Reference.function ⟨·⟩) last, ?_⟩
    rintro ⟨⟩
    rfl
  | _ => exact (or_iff_left nofun).symm

/-- After an object is made it is there besides what has been. -/
theorem stands_pushObject (world : World) (object : HostObject) (target : Reference) :
    Stands { world with objects := world.objects.push object } target ↔
      world.Stands target ∨ target = .object ⟨world.objects.size⟩ := by
  cases target with
  | object id =>
    show id.index < (world.objects.push object).size ↔ _
    rw [Array.size_push, Nat.lt_succ_iff_lt_or_eq]
    refine or_congr Iff.rfl ⟨fun last => congrArg (Reference.object ⟨·⟩) last, ?_⟩
    rintro ⟨⟩
    rfl
  | _ => exact (or_iff_left nofun).symm

/-- A world is spared if nothing in it has changed that is to be spared. -/
theorem Spares.refl (safe : Reference → Prop) (world : World) : Spares safe world world where
  tables _ _ := rfl
  environments _ _ := rfl
  types := rfl

/-- What is spared is spared where more things are safe. -/
theorem Spares.mono (spares : Spares safe old new) (grows : safe ≤ wide) : Spares wide old new where
  tables id outside := spares.tables id fun holds => outside (grows _ holds)
  environments id outside := spares.environments id fun holds => outside (grows _ holds)
  types := spares.types

/-- What is spared twice is spared. -/
theorem Spares.trans (first : Spares safe old middle) (second : Spares safe middle new) :
    Spares safe old new where
  tables id outside := (second.tables id outside).trans (first.tables id outside)
  environments id outside :=
    (second.environments id outside).trans (first.environments id outside)
  types := second.types.trans first.types

namespace Shelters

/-- What has been safe is safe. -/
theorem grows (shelters : Shelters safe wide old new) : safe ≤ wide :=
  fun target holds => (shelters.wide_iff target).mpr (.inl holds)

/-- A guarded world shelters itself. -/
theorem refl (guards : world.Guards safe) : Shelters safe safe world world where
  guards := guards
  spares := .refl safe world
  stands := le_refl _
  wide_iff _ := ⟨.inl, fun holds => holds.elim id fun ⟨there, missing⟩ => absurd there missing⟩

/-- A world in which the same things are there is sheltered if it is guarded and spared. -/
theorem of_same (same : new.Stands = old.Stands) (guards : new.Guards safe)
    (spares : Spares safe old new) : Shelters safe safe old new where
  guards := guards
  spares := spares
  stands := same.symm.le
  wide_iff _ := by
    rw [same]
    exact ⟨.inl, fun holds => holds.elim id fun ⟨there, missing⟩ => absurd there missing⟩

/-- A world in which one more thing is there is sheltered if it is guarded and spared. -/
theorem of_made {made : Reference} (missing : ¬old.Stands made)
    (there : ∀ target, new.Stands target ↔ old.Stands target ∨ target = made)
    (guards : new.Guards (Besides safe made)) (spares : Spares (Besides safe made) old new) :
    Shelters safe (Besides safe made) old new where
  guards := guards
  spares := spares
  stands target before := (there target).mpr (.inl before)
  wide_iff target := by
    rw [there]
    refine or_congr Iff.rfl ⟨?_, fun ⟨now, before⟩ => now.resolve_left before⟩
    rintro rfl
    exact ⟨.inr rfl, missing⟩

/-- What is sheltered twice is sheltered. -/
theorem trans {widest : Reference → Prop} (first : Shelters safe wide old middle)
    (second : Shelters wide widest middle new) : Shelters safe widest old new where
  guards := second.guards
  spares := (first.spares.mono second.grows).trans second.spares
  stands := le_trans first.stands second.stands
  wide_iff target := by
    rw [second.wide_iff, first.wide_iff]
    have early := first.stands target
    have late := second.stands target
    constructor
    · rintro ((holds | ⟨there, missing⟩) | ⟨there, missing⟩)
      · exact .inl holds
      · exact .inr ⟨late there, missing⟩
      · exact .inr ⟨there, fun before => missing (early before)⟩
    · rintro (holds | ⟨there, missing⟩)
      · exact .inl (.inl holds)
      · by_cases between : middle.Stands target
        · exact .inl (.inr ⟨between, missing⟩)
        · exact .inr ⟨there, between⟩

end Shelters

/-- What a safe thing leads to is safe. -/
theorem Guards.leads (guards : world.Guards safe) {source target : Reference} (holds : safe source)
    (leads : world.Leads source target) : safe target := by
  cases leads with
  | table refers => exact guards.tables _ holds target refers
  | function refers => exact guards.functions _ holds target refers
  | object refers =>
    rename_i id
    cases known : world.object id with
    | handle label length =>
      rw [known] at refers
      cases refers
    | library library made =>
      rw [known] at refers
      obtain ⟨member⟩ := refers
      exact guards.libraries _ _ _ holds known _ member
    | package type =>
      rw [known] at refers
      obtain ⟨⟩ | ⟨refers⟩ := refers
      exact guards.types _ _ refers
  | node refers => exact guards.types _ _ refers
  | environment refers => exact guards.environments _ holds target refers

/-- A world with one more thing is guarded if that thing leads to safe things and the others are what
they were. -/
theorem Guards.besides (guards : old.Guards safe) {made : Reference}
    (tables : ∀ id, .table id ≠ made → new.table id = old.table id)
    (functions : ∀ id, .function id ≠ made → new.function id = old.function id)
    (objects : ∀ id, .object id ≠ made → new.object id = old.object id)
    (environments : ∀ id, new.environment id = old.environment id)
    (types : ∀ id, new.hostType id = old.hostType id) (memory : new.memory = old.memory)
    (leads : ∀ target, new.Leads made target → safe target) : new.Guards (Besides safe made) := by
  have grows := le_besides safe made
  refine
    { tables := fun id holds => ?_
      functions := fun id holds => ?_
      libraries := fun id library handed holds known entry member => ?_
      environments := fun id holds => ?_
      types := fun id => ?_
      memory := memory ▸ guards.memory.mono grows
      nodes := fun id => .inl (guards.nodes id) }
  · by_cases here : .table id = made
    · exact fun target refers => .inl (leads target (here ▸ .table refers))
    · exact tables id here ▸ (guards.tables id (holds.resolve_right here)).mono grows
  · by_cases here : .function id = made
    · exact fun target refers => .inl (leads target (here ▸ .function refers))
    · exact functions id here ▸ le_trans (guards.functions id (holds.resolve_right here)) grows
  · by_cases here : .object id = made
    · exact .inl (leads _ (here ▸ .object (known ▸ .member member)))
    · rw [objects id here] at known
      exact .inl (guards.libraries id library handed (holds.resolve_right here) known entry member)
  · rcases holds with before | here
    · exact environments id ▸ le_trans (guards.environments id before) grows
    · exact fun target refers => .inl (leads target (here ▸ .environment refers))
  · exact types id ▸ le_trans (guards.types id) grows

/-- What a safe thing reaches is safe. -/
theorem Guards.reaches (guards : world.Guards safe) {source target : Reference}
    (holds : safe source) (reaches : world.Reaches source target) : safe target :=
  reaches_among (fun _ _ => guards.leads) holds reaches

end World

open World

/-! ## Confined actions -/

/-- A confined action leads from a guarded world to one that shelters what is safe, and what it
gives has a property for what is safe then. -/
def Action.Confines {Result : Type} (safe : Reference → Prop)
    (property : (Reference → Prop) → Result → Prop) (action : Action Result) : Prop :=
  ∀ world : World, world.Guards safe → ∃ wide, Shelters safe wide world (left action world) ∧
    ∀ result, outcome action world = .ok result → property wide result

namespace Action

variable {First Second : Type} {safe : Reference → Prop}
  {property : (Reference → Prop) → First → Prop} {further : (Reference → Prop) → Second → Prop}

/-- A plain action is confined if what it gives has the property. -/
theorem Plain.confines {action : Action First} (plain : Plain action)
    (gives : ∀ world result, outcome action world = .ok result → property safe result) :
    Confines safe property action := by
  intro world guards
  rw [plain.still]
  exact ⟨safe, .refl guards, gives world⟩

/-- A result that has the property is confined. -/
theorem confines_pure {result : First} (holds : property safe result) :
    Confines safe property (pure result : Action First) :=
  (plain_pure result).confines fun _ _ given => Except.ok.inj given ▸ holds

/-- A result of which nothing is asked is confined. -/
theorem confines_any (result : First) :
    Confines safe (fun _ _ => True) (pure result : Action First) :=
  confines_pure trivial

/-- A result that has the property in guarded worlds is confined. -/
theorem confines_pure_of_guards {result : First}
    (holds : ∀ world : World, world.Guards safe → property safe result) :
    Confines safe property (pure result : Action First) :=
  fun world guards =>
    ⟨safe, .refl guards, fun _ given => Except.ok.inj given ▸ holds world guards⟩

/-- Giving up is confined. -/
theorem confines_throw (interrupt : Interrupt) :
    Confines safe property (throw interrupt : Action First) :=
  (plain_throw interrupt).confines fun _ _ given => nomatch given

/-- Two steps are confined if the first one is, and the second one for what the first one gives and
for what is safe then. -/
theorem Confines.bind {first : Action First} {next : First → Action Second}
    (confined : Confines safe property first)
    (rest : ∀ wide, safe ≤ wide → ∀ result, property wide result →
      Confines wide further (next result)) :
    Confines safe further (first >>= next) := by
  intro world guards
  obtain ⟨wide, shelters, gives⟩ := confined world guards
  rw [left_bind, outcome_bind]
  cases given : outcome first world with
  | ok result =>
    have onward := rest wide shelters.grows result (gives result given)
    obtain ⟨widest, more, ends⟩ := onward _ shelters.guards
    exact ⟨widest, shelters.trans more, ends⟩
  | error interrupt => exact ⟨wide, shelters, nofun⟩

/-- Two steps are confined if the first one is plain and the second one is confined for what it can
give. -/
theorem Plain.confines_bind {first : Action First} {next : First → Action Second}
    (plain : Plain first)
    (rest : ∀ result, (∃ world, outcome first world = .ok result) →
      Confines safe further (next result)) :
    Confines safe further (first >>= next) := by
  intro world guards
  rw [left_bind, outcome_bind, plain.still]
  cases given : outcome first world with
  | ok result => exact rest result ⟨world, given⟩ world guards
  | error interrupt => exact ⟨safe, .refl guards, nofun⟩

/-- A look at a guarded world goes before a step that is confined for what is seen. -/
theorem Confines.view_bind {look : World → First} {next : First → Action Second}
    (property : First → Prop) (seen : ∀ world : World, world.Guards safe → property (look world))
    (rest : ∀ result, property result → Confines safe further (next result)) :
    Confines safe further (view look >>= next) :=
  fun world guards => rest (look world) (seen world guards) world guards

/-- A look at the world goes before a step that is confined whatever is seen. -/
theorem Confines.of_view {look : World → First} {next : First → Action Second}
    (rest : ∀ result, Confines safe further (next result)) :
    Confines safe further (view look >>= next) :=
  fun world guards => rest (look world) world guards

/-- Taking a guarded world goes before a step that is confined for that world. -/
theorem Confines.of_get {next : World → Action Second}
    (rest : ∀ world : World, world.Guards safe → Confines safe further (next world)) :
    Confines safe further (get >>= next) :=
  fun world guards => rest world guards world guards

/-- An attempt is confined if the action is, and what it gives, if something, is what the action
gives. -/
theorem Confines.attempt {action : Action First} (confined : Confines safe property action) :
    Confines safe (fun wide given => ∀ result, given = .ok result → property wide result)
      (Action.attempt action) := by
  intro world guards
  obtain ⟨wide, shelters, gives⟩ := confined world guards
  rw [left_attempt, outcome_attempt]
  refine ⟨wide, shelters, ?_⟩
  rintro given attempted result rfl
  cases ran : outcome action world with
  | ok value =>
    rw [ran] at attempted
    obtain rfl := Except.ok.inj (Except.ok.inj attempted)
    exact gives value ran
  | error interrupt =>
    rw [ran] at attempted
    cases interrupt with
    | failed failure => exact nomatch Except.ok.inj attempted
    | tooDeep | outOfRange => contradiction

/-- What a confined action gives can be dropped. -/
theorem Confines.discard {action : Action First} (confined : Confines safe property action) :
    Confines safe (fun _ _ => True) (do let _ ← action) :=
  confined.bind fun _ _ _ _ => confines_any _

/-- The result of a step that can have a type fault goes before a step that is confined for it. -/
theorem confines_ofFaulty_bind {result : Except TypeFault First} {next : First → Action Second}
    (rest : ∀ value, result = .ok value → Confines safe further (next value)) :
    Confines safe further (ofFaulty result >>= next) := by
  cases result with
  | ok value => exact rest value rfl
  | error cause => exact confines_throw _

/-- The result of a step that can fail is confined. -/
theorem confines_ofOutcome {result : Except Failure First}
    (holds : ∀ value, result = .ok value → property safe value) :
    Confines safe property (ofOutcome result) := by
  cases result with
  | ok value => exact confines_pure (holds value rfl)
  | error cause => exact confines_throw _

/-- A change of the world is confined if it shelters what is safe. -/
theorem confines_modify {change : World → World}
    (shelters : ∀ world : World, world.Guards safe → Shelters safe safe world (change world)) :
    Confines safe (fun _ _ => True) (modify change : Action Unit) :=
  fun world guards => ⟨safe, shelters world guards, fun _ _ => trivial⟩

end Action

section Looks

variable {Result : Type} {safe : Reference → Prop} {property : (Reference → Prop) → Result → Prop}

/-- A look at a safe table goes before a step that is confined for tables that refer to safe
things. -/
theorem Confines.view_table {id : TableId} (holds : safe (.table id))
    {next : Table → Action Result}
    (rest : ∀ table : Table, table.Within safe → Confines safe property (next table)) :
    Confines safe property (view (·.table id) >>= next) :=
  Confines.view_bind (Table.Within safe) (fun _ guards => guards.tables id holds) rest

/-- A look at a safe environment goes before a step that is confined for environments that refer to
safe things. -/
theorem Confines.view_environment {id : EnvironmentId} (holds : safe (.environment id))
    {next : Environment → Action Result}
    (rest : ∀ environment : Environment, environment.Refers ≤ safe →
      Confines safe property (next environment)) :
    Confines safe property (view (·.environment id) >>= next) :=
  Confines.view_bind (fun environment => environment.Refers ≤ safe)
    (fun _ guards => guards.environments id holds) rest

end Looks

/-! ## Changes of single things -/

section Changes

variable {safe : Reference → Prop}

/-- Changing a safe table to a safe one is confined. -/
theorem confines_putTable {id : TableId} {table : Table} (holds : safe (.table id))
    (within : table.Within safe) : Confines safe (fun _ _ => True) (putTable id table) := by
  refine confines_modify fun world guards => .of_same ?_ { guards with tables := ?_ }
    { Spares.refl safe world with tables := ?_ }
  · exact stands_congr Array.size_setIfInBounds rfl rfl
  · intro other otherSafe
    rw [table_setTable]
    split
    · exact within
    · exact guards.tables other otherSafe
  · intro other outside
    rw [table_setTable, if_neg]
    rintro ⟨rfl, -⟩
    exact outside holds

/-- Changing a safe environment is confined if what it refers to stays safe. -/
theorem confines_changeEnvironment {id : EnvironmentId} {change : Environment → Environment}
    (holds : safe (.environment id))
    (within : ∀ environment : Environment, environment.Refers ≤ safe →
      (change environment).Refers ≤ safe) :
    Confines safe (fun _ _ => True) (changeEnvironment id change) := by
  refine confines_modify fun world guards => .of_same ?_ { guards with environments := ?_ }
    { Spares.refl safe world with environments := ?_ }
  · exact stands_congr rfl rfl rfl
  · intro other otherSafe
    rw [environment_setEnvironment]
    split
    · exact within _ (guards.environments id holds)
    · exact guards.environments other otherSafe
  · intro other outside
    rw [environment_setEnvironment, if_neg]
    rintro ⟨rfl, -⟩
    exact outside holds

/-- A new safe table is confined, and safe. -/
theorem confines_newTable {table : Table} (within : table.Within safe) :
    Confines safe (fun wide id => wide (.table id)) (newTable table) := by
  intro world guards
  show ∃ wide, Shelters safe wide world { world with tables := world.tables.push table } ∧ _
  have apart (id : TableId) (other : Reference.table id ≠ .table ⟨world.tables.size⟩) :
      { world with tables := world.tables.push table }.table id = world.table id := by
    rw [table_push, if_neg]
    rintro last
    obtain ⟨place⟩ := id
    exact other (congrArg _ (congrArg _ last))
  refine ⟨_, .of_made (Nat.lt_irrefl _) (stands_pushTable world table) ?_ ?_, ?_⟩
  · refine guards.besides apart (fun _ _ => rfl) (fun _ _ => rfl) (fun _ => rfl) (fun _ => rfl) rfl ?_
    intro target leads
    cases leads with
    | table refers =>
      rw [table_push, if_pos rfl] at refers
      exact within target refers
  · exact
      { Spares.refl _ world with
        tables := fun id outside => apart id fun made => outside (.inr made) }
  · rintro id given
    obtain rfl := Except.ok.inj given
    exact .inr rfl

/-- A new function that refers to safe things is confined, and safe. -/
theorem confines_newFunction {function : Callable} (within : function.Refers ≤ safe) :
    Confines safe (fun wide id => wide (.function id)) (newFunction function) := by
  intro world guards
  show ∃ wide, Shelters safe wide world { world with functions := world.functions.push function } ∧ _
  refine ⟨_, .of_made (Nat.lt_irrefl _) (stands_pushFunction world function) ?_
    { Spares.refl _ world with }, ?_⟩
  · refine guards.besides (fun _ _ => rfl) (fun id other => ?_) (fun _ _ => rfl) (fun _ => rfl)
      (fun _ => rfl) rfl ?_
    · rw [function_push, if_neg]
      rintro last
      obtain ⟨place⟩ := id
      exact other (congrArg _ (congrArg _ last))
    · intro target leads
      cases leads with
      | function refers =>
        rw [function_push, if_pos rfl] at refers
        exact within target refers
  · rintro id given
    obtain rfl := Except.ok.inj given
    exact .inr rfl

/-- A new object is confined, and safe, if it is no library or hands out safe functions. -/
theorem confines_newObject {object : HostObject}
    (within : ∀ library made, object = .library library made →
      ∀ entry ∈ made, safe (.function entry.2)) :
    Confines safe (fun wide id => wide (.object id)) (newObject object) := by
  intro world guards
  show ∃ wide, Shelters safe wide world { world with objects := world.objects.push object } ∧ _
  refine ⟨_, .of_made (Nat.lt_irrefl _) (stands_pushObject world object) ?_
    { Spares.refl _ world with }, ?_⟩
  · refine guards.besides (fun _ _ => rfl) (fun _ _ => rfl) (fun id other => ?_) (fun _ => rfl)
      (fun _ => rfl) rfl ?_
    · rw [object_push, if_neg]
      rintro last
      obtain ⟨place⟩ := id
      exact other (congrArg _ (congrArg _ last))
    · intro target leads
      cases leads with
      | object refers =>
        rw [object_push, if_pos rfl] at refers
        cases refers with
        | member member => exact within _ _ rfl _ member
        | package refers => exact guards.types _ _ refers
  · rintro id given
    obtain rfl := Except.ok.inj given
    exact .inr rfl

/-- Putting a library in the place of an object is confined if it hands out safe functions. -/
theorem confines_putLibrary {id : ObjectId} {library : Library}
    {made : List (LibraryFunction × FunctionId)}
    (within : ∀ entry ∈ made, safe (.function entry.2)) :
    Confines safe (fun _ _ => True) (modify fun world =>
      { world with objects := world.objects.setIfInBounds id.index (.library library made) } :
        Action Unit) := by
  refine confines_modify fun world guards => .of_same
    (stands_congr rfl rfl Array.size_setIfInBounds) { guards with libraries := ?_ }
    { Spares.refl safe world with }
  intro other name given otherSafe there entry member
  rw [object_setIfInBounds] at there
  split at there
  · obtain ⟨-, rfl⟩ := HostObject.library.inj there
    exact within entry member
  · exact guards.libraries other name given otherSafe there entry member

/-- Storing a safe value under a safe key in a safe table is confined, and the value replaced is
safe. -/
theorem confines_rawSet {id : TableId} {key value : Value} (holds : safe (.table id))
    (keySafe : key.Within safe) (valueSafe : value.Within safe) :
    Confines safe Value.Within (rawSet id key value) := by
  unfold rawSet
  refine Confines.view_table holds fun table within => confines_ofFaulty_bind fun changed set => ?_
  obtain ⟨replaced, written⟩ := within.set keySafe valueSafe set
  exact (confines_putTable holds written).bind fun _ grows _ _ =>
    confines_pure (replaced.mono grows)

/-- Remembering a safe value under a safe key is confined, and the value replaced is safe. -/
theorem confines_remember {key value : Value} (keySafe : key.Within safe)
    (valueSafe : value.Within safe) : Confines safe Value.Within (remember key value) := by
  unfold remember
  refine Confines.view_bind (Table.Within safe) (fun _ guards => guards.memory)
    fun memory within => ?_
  refine confines_ofFaulty_bind fun changed set => ?_
  obtain ⟨replaced, written⟩ := within.set keySafe valueSafe set
  have put : Confines safe (fun _ _ => True)
      (modify fun world => { world with memory := changed.2 } : Action Unit) :=
    confines_modify fun world guards =>
      .of_same rfl { guards with memory := written } { Spares.refl safe world with }
  exact put.bind fun _ grows _ _ => confines_pure (replaced.mono grows)

/-- The environment that a function needs is safe if that of the context is. -/
theorem Confines.required_bind {context : Context} (within : context.Within safe) (name : String)
    {Result : Type} {property : (Reference → Prop) → Result → Prop}
    {next : EnvironmentId → Action Result}
    (rest : ∀ id, safe (.environment id) → Confines safe property (next id)) :
    Confines safe property (context.required name >>= next) := by
  unfold Context.required
  split
  · next id known => exact rest id (within id known)
  · exact confines_throw _

end Changes

end ScriptHost
