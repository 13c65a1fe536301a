import ScriptHost.Proofs.Host.Moves
import ScriptHost.Proofs.Isolation.Members

/-!
# What stays of what things lead to

Along a course functions and host types stay what they are, and library objects hand out more
functions of libraries, which lead nowhere. So whatever keeps its tables and environments as they
were keeps what it reaches.
-/

namespace ScriptHost

open ScriptHost.Action World

namespace World

/-- A function of a library that has been made. -/
inductive Bare (world : World) : Reference → Prop where
  | function {id : FunctionId} (function : LibraryFunction)
    (made : world.functions[id.index]? = some (Builtin.library function).callable) :
    Bare world (.function id)

/-- The functions of libraries lead nowhere. -/
theorem Bare.leads_nowhere {world : World} {source : Reference} (bare : world.Bare source)
    (target : Reference) : ¬world.Leads source target := by
  intro leads
  obtain @⟨id, function, made⟩ := bare
  obtain ⟨⟩ | ⟨refers⟩ := leads
  have same : world.function id = (Builtin.library function).callable := by
    unfold World.function
    rw [made]
    rfl
  rw [same] at refers
  obtain ⟨⟨⟩⟩ | ⟨⟨⟩⟩ := refers

/-- The functions of libraries that have been made are there. -/
theorem Bare.stands {world : World} {target : Reference} (bare : world.Bare target) :
    world.Stands target := by
  obtain ⟨function, made⟩ := bare
  exact (Array.getElem?_eq_some_iff.mp made).1

/-- An object later on: a library has handed out what it had, and perhaps more of its functions. -/
inductive Becomes (world : World) : HostObject → HostObject → Prop where
  | same (object : HostObject) : Becomes world object object
  | more {library : Library} {made further : List (LibraryFunction × FunctionId)}
    (kept : made ⊆ further)
    (added : ∀ entry ∈ further, entry ∈ made ∨ world.Bare (.function entry.2)) :
    Becomes world (.library library made) (.library library further)

/-- A later world whose things lead where they led, apart from tables and environments. -/
structure Steadies (old new : World) : Prop where
  tables : old.tables.size ≤ new.tables.size
  functions : ∀ (place : Nat) (function : Callable), old.functions[place]? = some function →
    new.functions[place]? = some function
  objects : ∀ (place : Nat) (object : HostObject), old.objects[place]? = some object →
    ∃ further, new.objects[place]? = some further ∧ new.Becomes object further
  types : ∀ (place : Nat) (type : HostType), old.hostTypes[place]? = some type →
    new.hostTypes[place]? = some type

namespace Steadies

/-- A world steadies itself. -/
theorem refl (world : World) : Steadies world world where
  tables := Nat.le_refl _
  functions _ _ found := found
  objects _ object found := ⟨object, found, .same object⟩
  types _ _ found := found

/-- A function of a library stays one. -/
theorem bare {old new : World} (steadies : Steadies old new) {target : Reference}
    (bare : old.Bare target) : new.Bare target := by
  obtain ⟨function, made⟩ := bare
  exact .function function (steadies.functions _ _ made)

/-- What was there still is. -/
theorem stands {old new : World} (steadies : Steadies old new) {target : Reference}
    (stands : old.Stands target) : new.Stands target := by
  cases target with
  | table => exact Nat.lt_of_lt_of_le stands steadies.tables
  | function =>
    have kept := steadies.functions _ _ (Array.getElem?_eq_getElem stands)
    exact (Array.getElem?_eq_some_iff.mp kept).1
  | object =>
    obtain ⟨_, kept, _⟩ := steadies.objects _ _ (Array.getElem?_eq_getElem stands)
    exact (Array.getElem?_eq_some_iff.mp kept).1
  | node | environment => trivial

/-- A function that was there is what it was. -/
theorem function {old new : World} (steadies : Steadies old new) {id : FunctionId}
    (there : id.index < old.functions.size) : new.function id = old.function id := by
  have found := Array.getElem?_eq_getElem there
  unfold World.function
  rw [steadies.functions _ _ found, found]

/-- What becomes of an object that has become something. -/
theorem becomes {middle new : World} (steadies : Steadies middle new)
    {first second third : HostObject} (before : middle.Becomes first second)
    (after : new.Becomes second third) : new.Becomes first third := by
  cases before with
  | same => exact after
  | more kept added =>
    cases after with
    | same => exact .more kept fun entry member => (added entry member).imp_right steadies.bare
    | more further others =>
      refine .more (List.Subset.trans kept further) fun entry member => ?_
      rcases others entry member with between | bare
      · exact (added entry between).imp_right steadies.bare
      · exact .inr bare

/-- What is steadied twice is steadied. -/
theorem trans {old middle new : World} (first : Steadies old middle)
    (second : Steadies middle new) : Steadies old new where
  tables := Nat.le_trans first.tables second.tables
  functions place function found := second.functions _ _ (first.functions place function found)
  objects := by
    intro place object found
    obtain ⟨between, there, before⟩ := first.objects place object found
    obtain ⟨further, later, after⟩ := second.objects place between there
    exact ⟨further, later, second.becomes before after⟩
  types place type found := second.types place type (first.types place type found)

/-- A new function steadies the world. -/
theorem pushFunction (world : World) (function : Callable) :
    Steadies world { world with functions := world.functions.push function } where
  tables := Nat.le_refl _
  functions _ _ found := Array.getElem?_push_of_some found function
  objects _ object found := ⟨object, found, .same object⟩
  types _ _ found := found

/-- A new object steadies the world. -/
theorem pushObject (world : World) (object : HostObject) :
    Steadies world { world with objects := world.objects.push object } :=
  { refl world with
    objects := fun _ known found =>
      ⟨known, Array.getElem?_push_of_some found object, .same known⟩ }

/-- A world with the same functions, objects and host types is steadied. -/
theorem of_same {old new : World} (tables : old.tables.size ≤ new.tables.size)
    (functions : new.functions = old.functions) (objects : new.objects = old.objects)
    (types : new.hostTypes = old.hostTypes) : Steadies old new where
  tables := tables
  functions _ _ found := functions ▸ found
  objects _ object found := ⟨object, objects ▸ found, .same object⟩
  types _ _ found := types ▸ found

/-- A new host type steadies the world. -/
theorem pushType (world : World) (type : HostType) (registry : Registry) :
    Steadies world { world with hostTypes := world.hostTypes.push type, registry } :=
  { refl world with
    objects := fun _ object found => ⟨object, found, .same object⟩
    types := fun _ _ found => Array.getElem?_push_of_some found type }

/-- One more function that a library hands out steadies the world. -/
theorem addMember (world : World) {id : ObjectId} {library : Library}
    {made : List (LibraryFunction × FunctionId)} (function : LibraryFunction)
    (known : world.object id = .library library made) :
    Steadies world (world.addMember id library made function) where
  tables := Nat.le_refl _
  functions _ _ found := Array.getElem?_push_of_some found _
  objects := by
    intro place object found
    have inside := (Array.getElem?_eq_some_iff.mp found).1
    show ∃ further, (world.objects.setIfInBounds id.index _)[place]? = some further ∧ _
    rw [Array.getElem?_setIfInBounds]
    split
    · next here =>
      subst here
      obtain rfl : object = .library library made := by
        unfold World.object at known
        rw [found] at known
        exact known
      refine ⟨_, if_pos inside, .more (List.subset_append_left _ _) fun entry member => ?_⟩
      refine (List.mem_append.mp member).imp_right fun added => ?_
      obtain rfl := List.mem_singleton.mp added
      refine .function function ?_
      show (world.functions.push _)[world.functions.size]? = _
      rw [Array.getElem?_push_size]
    · exact ⟨object, found, .same object⟩
  types _ _ found := found

end Steadies

/-- Changes steady the world. -/
theorem Change.steadies {old new : World} (change : Change old new) : Steadies old new := by
  cases change with
  | table => exact .of_same (by simp) rfl rfl rfl
  | entry => exact .of_same (Nat.le_of_eq Array.size_setIfInBounds.symm) rfl rfl rfl
  | methods group => exact .pushFunction old _
  | core id function missing =>
    exact (Steadies.pushFunction old (function.bound id)).trans
      (.of_same (Nat.le_refl _) rfl rfl rfl)
  | library id library missing =>
    exact (Steadies.pushObject old (.library library [])).trans
      (.of_same (Nat.le_refl _) rfl rfl rfl)
  | member id library made function known missing => exact .addMember old function known
  | charge | refund | collect | line | memory | resolve | visit =>
    exact .of_same (Nat.le_refl _) rfl rfl rfl

/-- Deeds steady the world. -/
theorem Deed.steadies {old new : World} (deed : Deed old new) : Steadies old new := by
  cases deed with
  | function function => exact .pushFunction old function
  | object object => exact .pushObject old object
  | environment => exact .of_same (by simp) rfl rfl rfl
  | hook => exact .of_same (Nat.le_of_eq Array.size_setIfInBounds.symm) rfl rfl rfl
  | register type => exact .pushType old type _
  | drop | output | unregister | hold => exact .of_same (Nat.le_refl _) rfl rfl rfl

/-- A course steadies the world. -/
theorem Course.steadies {old new : World} (course : Course old new) : Steadies old new := by
  induction course with
  | refl => exact .refl old
  | @tail middle new _ step ih =>
    refine ih.trans ?_
    cases step with
    | change change => exact change.steadies
    | deed deed => exact deed.steadies
    | source id source => exact .of_same (Nat.le_refl _) rfl rfl rfl

end World

/-- Moves of a host steady the world, whatever they hand over. -/
theorem HostMove.steadies (world : World) (move : HostMove) :
    Steadies world (left move.perform world) := by
  cases move with
  | addSource => exact .of_same (Nat.le_refl _) rfl rfl rfl
  | installHook => exact .of_same (Nat.le_of_eq Array.size_setIfInBounds.symm) rfl rfl rfl
  | makeTable table =>
    have grown : world.tables.size ≤ (world.tables.push table).size := by simp
    exact .of_same grown rfl rfl rfl
  | _ =>
    apply Course.steadies
    apply HostMove.course
    exact trivial

end ScriptHost
