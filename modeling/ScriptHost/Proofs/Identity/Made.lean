import ScriptHost.Proofs.Identity.Pairing
import ScriptHost.Proofs.World.Sound

/-!
# What is made at most once

Function values of core functions, library objects and function values of library functions are
each made at their first use and kept in a slot. In a tidy world a slot holds what it is for
and no two slots hold the same. Changes leave what slots hold, and fill one more slot at most,
with something new.
-/

namespace ScriptHost

/-- Where something made at its first use is kept. -/
inductive Slot where
  | core (id : EnvironmentId) (function : CoreFunction)
  | library (id : EnvironmentId) (library : Library)
  | member (id : ObjectId) (function : LibraryFunction)

/-- Slots for the same thing up to what is paired. -/
inductive Slot.Matches (pairing : Pairing) : Slot → Slot → Prop where
  | core (id : EnvironmentId) (function : CoreFunction) :
    Matches pairing (.core id function) (.core id function)
  | library (id : EnvironmentId) (library : Library) :
    Matches pairing (.library id library) (.library id library)
  | member {left right : ObjectId} (paired : pairing.objects left right) (function : LibraryFunction) :
    Matches pairing (.member left function) (.member right function)

namespace Slot.Matches

variable {pairing small large : Pairing} {left right other further : Slot}

/-- Slots that match do so under a larger pairing. -/
theorem mono (matched : left.Matches small right) (grows : small ≤ large) :
    left.Matches large right := by
  cases matched with
  | core id function => exact .core id function
  | library id library => exact .library id library
  | member paired function => exact .member (grows.2 _ _ paired) function

/-- Slots are the same in both worlds or in neither. -/
theorem eq_iff (matched : left.Matches pairing right) (others : other.Matches pairing further) :
    left = other ↔ right = further := by
  cases matched with
  | member paired function =>
    cases others with
    | member known wanted => simpa using fun _ => pairing.objects_one paired known
    | _ => simp
  | _ => cases others <;> simp

end Slot.Matches

/-- What a host object has handed out for a library function. -/
def HostObject.handedOut (object : HostObject) (function : LibraryFunction) : Option FunctionId :=
  match object with
  | .library _ made => made.lookup function
  | _ => none

/-- A host object as it was made. -/
def HostObject.bare : HostObject → HostObject
  | .library name _ => .library name []
  | object => object

/-- Objects that differ at most in what they have handed out. -/
inductive HostObject.Alike : HostObject → HostObject → Prop where
  | handle (label : String) (length : Option Nat) :
    Alike (.handle label length) (.handle label length)
  | library (name : Library) (made given : List (LibraryFunction × FunctionId)) :
    Alike (.library name made) (.library name given)
  | package (type : HostTypeId) : Alike (.package type) (.package type)

/-- Objects that were made the same are alike. -/
theorem HostObject.alike_of_bare {object other : HostObject} (same : object.bare = other.bare) :
    object.Alike other := by
  cases object <;> cases other <;> simp only [bare, reduceCtorEq] at same
  · obtain ⟨rfl, rfl⟩ := HostObject.handle.inj same
    exact .handle _ _
  · obtain ⟨rfl, _⟩ := HostObject.library.inj same
    exact .library _ _ _
  · obtain rfl := HostObject.package.inj same
    exact .package _

namespace World

/-- What a world has made in a slot. -/
def madeIn (world : World) : Slot → Option Reference
  | .core id function => ((world.environment id).coreMade.lookup function).map .function
  | .library id library => ((world.environment id).librariesMade.lookup library).map .object
  | .member id function => ((world.object id).handedOut function).map .function

/-- Whether a function or an object is there. -/
def Has (world : World) : Reference → Prop
  | .function id => id.index < world.functions.size
  | .object id => id.index < world.objects.size
  | _ => True

/-- What a slot is for. -/
inductive Suits (world : World) : Slot → Reference → Prop where
  | core {id : EnvironmentId} {function : CoreFunction} {made : FunctionId}
    (bound : world.functions[made.index]? = some (function.bound id)) :
    Suits world (.core id function) (.function made)
  | library {id : EnvironmentId} {library : Library} {made : ObjectId}
    {given : List (LibraryFunction × FunctionId)}
    (known : world.object made = .library library given) :
    Suits world (.library id library) (.object made)
  | member {id : ObjectId} {function : LibraryFunction} {made : FunctionId}
    (callable : world.functions[made.index]? = some (Builtin.library function).callable) :
    Suits world (.member id function) (.function made)

/-- Slots hold what they are for, each something of its own. -/
structure Tidy (world : World) : Prop where
  suits : ∀ {slot reference}, world.madeIn slot = some reference → world.Suits slot reference
  apart : ∀ {slot other reference}, world.madeIn slot = some reference →
    world.madeIn other = some reference → slot = other

/-- What suits a slot is there. -/
theorem Suits.has {world : World} {slot : Slot} {reference : Reference}
    (suits : world.Suits slot reference) : world.Has reference := by
  cases suits with
  | core bound => exact (Array.getElem?_eq_some_iff.mp bound).1
  | library known => exact world.index_lt_of_library known
  | member callable => exact (Array.getElem?_eq_some_iff.mp callable).1

/-! ## Worlds that have made more -/

/-- A world that has the functions and objects of another one and what that one has made, and
perhaps something new in one more slot. -/
structure MadeMore (old new : World) : Prop where
  functions : ∀ (place : Nat) (function : Callable), old.functions[place]? = some function →
    new.functions[place]? = some function
  objects : ∀ id : ObjectId, id.index < old.objects.size →
    id.index < new.objects.size ∧ (new.object id).bare = (old.object id).bare
  slots : ∀ slot, new.madeIn slot = old.madeIn slot ∨
    old.madeIn slot = none ∧ ∃ reference, new.madeIn slot = some reference ∧
      ¬ old.Has reference ∧ new.Suits slot reference
  one : ∀ {slot other reference}, old.madeIn slot = none → old.madeIn other = none →
    new.madeIn slot = some reference → new.madeIn other = some reference → slot = other

namespace MadeMore

variable {old new : World}

/-- What was in a slot still is. -/
theorem stays (more : MadeMore old new) {slot : Slot} {reference : Reference}
    (made : old.madeIn slot = some reference) : new.madeIn slot = some reference := by
  rcases more.slots slot with same | ⟨missing, _⟩
  · exact same.trans made
  · rw [missing] at made
    contradiction

/-- What is in a slot and was there before was in that slot. -/
theorem before (more : MadeMore old new) {slot : Slot} {reference : Reference}
    (made : new.madeIn slot = some reference) (there : old.Has reference) :
    old.madeIn slot = some reference := by
  rcases more.slots slot with same | ⟨_, other, known, fresh, _⟩
  · exact same.symm.trans made
  · obtain rfl : other = reference := Option.some.inj (known.symm.trans made)
    exact absurd there fresh

/-- What suited a slot still does. -/
theorem suits (more : MadeMore old new) {slot : Slot} {reference : Reference}
    (suits : old.Suits slot reference) : new.Suits slot reference := by
  cases suits with
  | core bound => exact .core (more.functions _ _ bound)
  | @library id library made given known =>
    have same := (more.objects made (old.index_lt_of_library known)).2
    rw [known] at same
    cases there : new.object made with
    | library name more =>
      rw [there] at same
      obtain ⟨rfl, _⟩ := HostObject.library.inj same
      exact .library there
    | _ =>
      rw [there] at same
      contradiction
  | member callable => exact .member (more.functions _ _ callable)

/-- A world that has made more is tidy if the world before was. -/
theorem tidy (more : MadeMore old new) (tidy : old.Tidy) : new.Tidy where
  suits := by
    intro slot reference made
    rcases more.slots slot with same | ⟨_, other, known, _, right⟩
    · exact more.suits (tidy.suits (same.symm.trans made))
    · obtain rfl : other = reference := Option.some.inj (known.symm.trans made)
      exact right
  apart := by
    intro slot other reference made again
    by_cases there : old.Has reference
    · exact tidy.apart (more.before made there) (more.before again there)
    · have missing {slot : Slot} (made : new.madeIn slot = some reference) :
          old.madeIn slot = none := by
        rcases more.slots slot with same | ⟨missing, _⟩
        · exact absurd (tidy.suits (same.symm.trans made)).has there
        · exact missing
      exact more.one (missing made) (missing again) made again

/-- Slots hold what they held, but for one that is filled with something new if it was empty. -/
theorem of_slot (filled : Slot)
    (functions : ∀ (place : Nat) (function : Callable), old.functions[place]? = some function →
      new.functions[place]? = some function)
    (objects : ∀ id : ObjectId, id.index < old.objects.size →
      id.index < new.objects.size ∧ (new.object id).bare = (old.object id).bare)
    (others : ∀ slot, slot ≠ filled → new.madeIn slot = old.madeIn slot)
    (now : new.madeIn filled = old.madeIn filled ∨
      old.madeIn filled = none ∧ ∃ reference, new.madeIn filled = some reference ∧
        ¬ old.Has reference ∧ new.Suits filled reference) : MadeMore old new where
  functions := functions
  objects := objects
  slots := by
    intro slot
    by_cases here : slot = filled
    · rw [here]
      exact now
    · exact .inl (others slot here)
  one := by
    intro slot other reference missing absent made again
    have place {slot : Slot} (missing : old.madeIn slot = none)
        (made : new.madeIn slot = some reference) : slot = filled := by
      by_contra apart
      rw [others slot apart, missing] at made
      contradiction
    rw [place missing made, place absent again]

/-- Slots hold what they held. -/
theorem of_same
    (functions : ∀ (place : Nat) (function : Callable), old.functions[place]? = some function →
      new.functions[place]? = some function)
    (objects : ∀ id : ObjectId, id.index < old.objects.size →
      id.index < new.objects.size ∧ (new.object id).bare = (old.object id).bare)
    (slots : ∀ slot, new.madeIn slot = old.madeIn slot) : MadeMore old new where
  functions := functions
  objects := objects
  slots := fun slot => .inl (slots slot)
  one := by
    intro slot other reference missing _ made _
    rw [slots, missing] at made
    contradiction

/-- Slots hold the same if functions, objects and environments are the same. -/
theorem of_parts (functions : new.functions = old.functions) (objects : new.objects = old.objects)
    (environments : new.environments = old.environments) : MadeMore old new := by
  have object (id : ObjectId) : new.object id = old.object id := by
    unfold World.object
    rw [objects]
  have environment (id : EnvironmentId) : new.environment id = old.environment id := by
    unfold World.environment
    rw [environments]
  refine of_same (by rw [functions]; exact fun _ _ found => found)
    (fun id inside => ⟨by rw [objects]; exact inside, by rw [object]⟩) fun slot => ?_
  cases slot <;> simp only [madeIn, environment, object]

/-- A world has made what it has made. -/
theorem refl (world : World) : MadeMore world world :=
  of_same (fun _ _ found => found) (fun _ inside => ⟨inside, rfl⟩) fun _ => rfl

/-- An environment changed in other ways than what it has made. -/
theorem setEnvironment (world : World) {id : EnvironmentId} {environment : Environment}
    (coreMade : environment.coreMade = (world.environment id).coreMade)
    (librariesMade : environment.librariesMade = (world.environment id).librariesMade) :
    MadeMore world (world.setEnvironment id environment) := by
  refine of_same (fun _ _ found => found) (fun _ inside => ⟨inside, rfl⟩) fun slot => ?_
  cases slot with
  | core other function =>
    unfold madeIn
    dsimp only
    rw [world.environment_common Environment.coreMade coreMade]
  | library other library =>
    unfold madeIn
    dsimp only
    rw [world.environment_common Environment.librariesMade librariesMade]
  | member other function => rfl

/-- A new function leaves what slots hold. -/
theorem madeIn_pushFunction (world : World) (function : Callable) (slot : Slot) :
    { world with functions := world.functions.push function }.madeIn slot = world.madeIn slot := by
  cases slot <;> rfl

/-- A new function. -/
theorem pushFunction (world : World) (function : Callable) :
    MadeMore world { world with functions := world.functions.push function } :=
  of_same (fun _ _ found => Array.getElem?_push_of_some found function)
    (fun _ inside => ⟨inside, rfl⟩) (madeIn_pushFunction world function)

/-- A new object that has handed out nothing leaves what slots hold. -/
theorem madeIn_pushObject (world : World) {object : HostObject}
    (fresh : ∀ function, object.handedOut function = none) (slot : Slot) :
    { world with objects := world.objects.push object }.madeIn slot = world.madeIn slot := by
  cases slot with
  | core => rfl
  | library => rfl
  | member other function =>
    unfold madeIn
    dsimp only
    rw [object_push]
    split
    · next last =>
      rw [fresh, world.object_of_outside (Nat.le_of_eq last.symm)]
      rfl
    · rfl

/-- A new object that has handed out nothing. -/
theorem pushObject (world : World) {object : HostObject}
    (fresh : ∀ function, object.handedOut function = none) :
    MadeMore world { world with objects := world.objects.push object } := by
  refine of_same (fun _ _ found => found) (fun id inside => ⟨?_, ?_⟩)
    (madeIn_pushObject world fresh)
  · rw [Array.size_push]
    exact Nat.lt_succ_of_lt inside
  · rw [object_push, if_neg (Nat.ne_of_lt inside)]

/-- A new environment that has made nothing. -/
theorem pushEnvironment (world : World) {environment : Environment}
    (coreMade : environment.coreMade = []) (librariesMade : environment.librariesMade = []) :
    MadeMore world { world with environments := world.environments.push environment } := by
  have common {Part : Type} (part : Environment → List Part) (nothing : part environment = [])
      (default : part (default : Environment) = []) (id : EnvironmentId) :
      part (World.environment { world with environments := world.environments.push environment } id) =
        part (world.environment id) := by
    rw [environment_push]
    split
    · next last => rw [nothing, environment_of_outside (Nat.le_of_eq last.symm), default]
    · rfl
  refine of_same (fun _ _ found => found) (fun _ inside => ⟨inside, rfl⟩) fun slot => ?_
  cases slot with
  | core id function =>
    unfold madeIn
    dsimp only
    rw [common Environment.coreMade coreMade rfl]
  | library id library =>
    unfold madeIn
    dsimp only
    rw [common Environment.librariesMade librariesMade rfl]
  | member id function => rfl

section Lookups

variable {Key Entry : Type} [DecidableEq Key] {key : Key} {entries : List (Key × Entry)}

/-- What is looked up in what environments have made when one of them has made something more. -/
theorem lookup_setEnvironment (world : World) (part : Environment → List (Key × Entry))
    {id : EnvironmentId} {environment : Environment} {entry : Entry}
    (missing : (part (world.environment id)).lookup key = none)
    (put : part environment = part (world.environment id) ++ [(key, entry)]) (other : EnvironmentId)
    (wanted : Key) :
    (part ((world.setEnvironment id environment).environment other)).lookup wanted =
      if other = id ∧ wanted = key ∧ id.index < world.environments.size then some entry
      else (part (world.environment other)).lookup wanted := by
  rw [environment_setEnvironment]
  by_cases here : other = id ∧ id.index < world.environments.size
  · obtain ⟨rfl, inside⟩ := here
    rw [if_pos ⟨rfl, inside⟩, put, lookup_append_of_missing missing]
    simp [inside]
  · rw [if_neg here, if_neg fun all => here ⟨all.1, all.2.2⟩]

end Lookups

/-- What environments have made of core functions once one of them has made one more. -/
theorem lookup_addCore (world : World) {id : EnvironmentId} {function : CoreFunction}
    (missing : (world.environment id).coreMade.lookup function = none) (other : EnvironmentId)
    (wanted : CoreFunction) :
    ((world.addCore id function).environment other).coreMade.lookup wanted =
      if other = id ∧ wanted = function ∧ id.index < world.environments.size then
        some ⟨world.functions.size⟩
      else (world.environment other).coreMade.lookup wanted :=
  lookup_setEnvironment { world with functions := world.functions.push (function.bound id) }
    Environment.coreMade missing rfl other wanted

/-- A core function made at its first use is in its slot. -/
theorem madeIn_addCore (world : World) {id : EnvironmentId} {function : CoreFunction}
    (missing : (world.environment id).coreMade.lookup function = none)
    (inside : id.index < world.environments.size) :
    (world.addCore id function).madeIn (.core id function) =
      some (.function ⟨world.functions.size⟩) := by
  rw [madeIn, lookup_addCore world missing, if_pos ⟨rfl, rfl, inside⟩]
  rfl

/-- A core function made at its first use. -/
theorem addCore (world : World) {id : EnvironmentId} {function : CoreFunction}
    (missing : (world.environment id).coreMade.lookup function = none) :
    MadeMore world (world.addCore id function) := by
  refine of_slot (.core id function) (fun _ _ found => Array.getElem?_push_of_some found _)
    (fun _ inside => ⟨inside, rfl⟩) (fun slot apart => ?_) ?_
  · cases slot with
    | core other wanted =>
      rw [madeIn, lookup_addCore world missing, if_neg]
      · rfl
      · rintro ⟨rfl, rfl, _⟩
        exact apart rfl
    | library other library =>
      have same : ((world.addCore id function).environment other).librariesMade =
          (world.environment other).librariesMade :=
        World.environment_common
          { world with functions := world.functions.push (function.bound id) }
          Environment.librariesMade (by rfl) other
      exact congrArg (fun made => (made.lookup library).map Reference.object) same
    | member other function => rfl
  · by_cases inside : id.index < world.environments.size
    · exact .inr ⟨by rw [madeIn, missing]; rfl, .function ⟨world.functions.size⟩,
        madeIn_addCore world missing inside, Nat.lt_irrefl _, .core Array.getElem?_push_size⟩
    · left
      rw [madeIn, lookup_addCore world missing, if_neg fun all => inside all.2.2]
      rfl

/-- What environments have made of libraries once one of them has made one more. -/
theorem lookup_addLibrary (world : World) {id : EnvironmentId} {library : Library}
    (missing : (world.environment id).librariesMade.lookup library = none) (other : EnvironmentId)
    (wanted : Library) :
    ((world.addLibrary id library).environment other).librariesMade.lookup wanted =
      if other = id ∧ wanted = library ∧ id.index < world.environments.size then
        some ⟨world.objects.size⟩
      else (world.environment other).librariesMade.lookup wanted :=
  lookup_setEnvironment { world with objects := world.objects.push (.library library []) }
    Environment.librariesMade missing rfl other wanted

/-- A library object made at its first use is in its slot. -/
theorem madeIn_addLibrary (world : World) {id : EnvironmentId} {library : Library}
    (missing : (world.environment id).librariesMade.lookup library = none)
    (inside : id.index < world.environments.size) :
    (world.addLibrary id library).madeIn (.library id library) =
      some (.object ⟨world.objects.size⟩) := by
  rw [madeIn, lookup_addLibrary world missing, if_pos ⟨rfl, rfl, inside⟩]
  rfl

/-- A library object made at its first use. -/
theorem addLibrary (world : World) {id : EnvironmentId} {library : Library}
    (missing : (world.environment id).librariesMade.lookup library = none) :
    MadeMore world (world.addLibrary id library) := by
  let grown : World := { world with objects := world.objects.push (.library library []) }
  have pushed : MadeMore world grown := pushObject world fun _ => rfl
  refine of_slot (.library id library) pushed.functions pushed.objects (fun slot apart => ?_) ?_
  · cases slot with
    | core other function =>
      have same : ((world.addLibrary id library).environment other).coreMade =
          (world.environment other).coreMade :=
        grown.environment_common Environment.coreMade (by rfl) other
      exact congrArg (fun made => (made.lookup function).map Reference.function) same
    | library other wanted =>
      rw [madeIn, lookup_addLibrary world missing, if_neg]
      · rfl
      · rintro ⟨rfl, rfl, _⟩
        exact apart rfl
    | member other function =>
      exact madeIn_pushObject world (fun _ => rfl) (.member other function)
  · by_cases inside : id.index < world.environments.size
    · have there : (world.addLibrary id library).object ⟨world.objects.size⟩ =
          .library library [] :=
        (world.object_push (.library library []) _).trans (if_pos rfl)
      exact .inr ⟨by rw [madeIn, missing]; rfl, .object ⟨world.objects.size⟩,
        madeIn_addLibrary world missing inside, Nat.lt_irrefl _, .library there⟩
    · left
      rw [madeIn, lookup_addLibrary world missing, if_neg fun all => inside all.2.2]
      rfl

section Members

variable (world : World) {id : ObjectId} {library : Library}
  {made : List (LibraryFunction × FunctionId)} {function : LibraryFunction}
  (known : world.object id = .library library made) (missing : made.lookup function = none)
include known

/-- An object is the same, but for the one that hands out one more function. -/
theorem object_addMember (other : ObjectId) :
    (world.addMember id library made function).object other =
      if other = id then .library library (made ++ [(function, ⟨world.functions.size⟩)])
      else world.object other := by
  refine (World.object_setIfInBounds { world with
    functions := world.functions.push (Builtin.library function).callable } id other _).trans ?_
  by_cases here : other = id
  · rw [if_pos here, here, if_pos ⟨rfl, world.index_lt_of_library known⟩]
  · rw [if_neg here, if_neg]
    · rfl
    · rintro ⟨same, _⟩
      cases other
      cases id
      exact here (congrArg ObjectId.mk same)

include missing

/-- A function of a library object made at its first use is in its slot. -/
theorem madeIn_addMember :
    (world.addMember id library made function).madeIn (.member id function) =
      some (.function ⟨world.functions.size⟩) := by
  rw [madeIn, object_addMember world known, if_pos rfl]
  exact congrArg _ ((lookup_append_of_missing missing _).trans (if_pos rfl))

/-- A function of a library object made at its first use. -/
theorem addMember : MadeMore world (world.addMember id library made function) := by
  have read (other : ObjectId) :
      (world.addMember id library made function).object other = _ :=
    object_addMember world known other
  refine of_slot (.member id function) (fun _ _ found => Array.getElem?_push_of_some found _)
    (fun other there => ⟨Nat.lt_of_lt_of_eq there Array.size_setIfInBounds.symm, ?_⟩)
    (fun slot apart => ?_) (.inr ⟨?_, .function ⟨world.functions.size⟩,
      madeIn_addMember world known missing, Nat.lt_irrefl _, .member Array.getElem?_push_size⟩)
  · rw [read]
    split
    · next here =>
      rw [here, known]
      rfl
    · rfl
  · cases slot with
    | core => rfl
    | library => rfl
    | member other wanted =>
      rw [madeIn, madeIn, read]
      split
      · next here =>
        subst here
        rw [known]
        refine congrArg _ ((lookup_append_of_missing missing _).trans (if_neg ?_))
        rintro rfl
        exact apart rfl
      · rfl
  · rw [madeIn, known]
    exact congrArg _ missing

end Members

end MadeMore

/-- After a change a world has made more. -/
theorem Change.madeMore {old new : World} (change : Change old new) : MadeMore old new := by
  cases change with
  | methods group => exact .pushFunction old _
  | core id function missing => exact .addCore old missing
  | library id library missing => exact .addLibrary old missing
  | member id library made function known missing => exact .addMember old known missing
  | charge | refund | collect | line => exact .setEnvironment old rfl rfl
  | table | entry | memory | resolve | visit => exact .of_parts rfl rfl rfl

end World

end ScriptHost
