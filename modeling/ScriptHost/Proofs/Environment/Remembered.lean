import ScriptHost.Proofs.Environment.History

/-!
# What worlds remember

Function values and library objects are made at the first use of their names, and what has
been made is kept in lists that only get longer. So whatever a world remembers as made it
remembers along every course of hosts and scripts.
-/

namespace ScriptHost.World

/-- A later world that remembers what an earlier one has made. -/
structure Remembers (old new : World) : Prop where
  functions : ∀ (place : Nat) (function : Callable), old.functions[place]? = some function →
    new.functions[place]? = some function
  core : ∀ id function made, (old.environment id).coreMade.lookup function = some made →
    (new.environment id).coreMade.lookup function = some made
  library : ∀ id library made, (old.environment id).librariesMade.lookup library = some made →
    (new.environment id).librariesMade.lookup library = some made
  members : ∀ id library given, old.object id = .library library given →
    ∃ more, new.object id = .library library more ∧
      ∀ function made, given.lookup function = some made → more.lookup function = some made

namespace Remembers

/-- A world remembers itself. -/
theorem refl (world : World) : Remembers world world where
  functions := fun _ _ found => found
  core := fun _ _ _ known => known
  library := fun _ _ _ known => known
  members := fun _ _ given known => ⟨given, known, fun _ _ found => found⟩

/-- What is remembered twice is remembered. -/
theorem trans {old middle new : World} (first : Remembers old middle)
    (second : Remembers middle new) : Remembers old new where
  functions := fun place function found =>
    second.functions place function (first.functions place function found)
  core := fun _ _ _ known => second.core _ _ _ (first.core _ _ _ known)
  library := fun _ _ _ known => second.library _ _ _ (first.library _ _ _ known)
  members := by
    intro id library given known
    obtain ⟨more, between, grown⟩ := first.members id library given known
    obtain ⟨most, after, further⟩ := second.members id library more between
    exact ⟨most, after, fun function made found => further _ _ (grown function made found)⟩

/-- An environment that has made what it had made, and perhaps more, is remembered. -/
theorem setEnvironment (world : World) {id : EnvironmentId} {environment : Environment}
    (core : ∀ function made, (world.environment id).coreMade.lookup function = some made →
      environment.coreMade.lookup function = some made)
    (library : ∀ library made, (world.environment id).librariesMade.lookup library = some made →
      environment.librariesMade.lookup library = some made) :
    Remembers world (world.setEnvironment id environment) := by
  refine { refl world with core := ?_, library := ?_ }
  · intro other function made known
    rw [environment_setEnvironment]
    split
    · next here =>
      rw [here.1] at known
      exact core function made known
    · exact known
  · intro other name made known
    rw [environment_setEnvironment]
    split
    · next here =>
      rw [here.1] at known
      exact library name made known
    · exact known

/-- A new environment takes no one's place. -/
theorem pushEnvironment (world : World) (environment : Environment) :
    Remembers world { world with environments := world.environments.push environment } := by
  have bare {id : EnvironmentId} (last : id.index = world.environments.size) :
      world.environment id = default := environment_of_outside (Nat.le_of_eq last.symm)
  refine { refl world with core := ?_, library := ?_ }
  · intro id function made known
    rw [environment_push]
    split
    · next last =>
      rw [bare last] at known
      contradiction
    · exact known
  · intro id library made known
    rw [environment_push]
    split
    · next last =>
      rw [bare last] at known
      contradiction
    · exact known

/-- New functions leave what has been made. -/
theorem pushFunction (world : World) (function : Callable) :
    Remembers world { world with functions := world.functions.push function } :=
  { refl world with functions := (Kept.pushFunction world function).functions }

/-- New objects leave what has been made. -/
theorem pushObject (world : World) (object : HostObject) :
    Remembers world { world with objects := world.objects.push object } :=
  { refl world with
    members := by
      intro id library given known
      have inside := world.index_lt_of_library known
      rw [object_push, if_neg (Nat.ne_of_lt inside)]
      exact ⟨given, known, fun _ _ found => found⟩ }

/-- What is found in a list is found in a longer one. -/
theorem lookup_append {Key Entry : Type} [BEq Key] {entries : List (Key × Entry)} {key : Key}
    {entry : Entry} (found : entries.lookup key = some entry) (more : List (Key × Entry)) :
    (entries ++ more).lookup key = some entry := by
  rw [List.lookup_append, found]
  rfl

/-- One more core function made is remembered with the others. -/
theorem addCore (world : World) (id : EnvironmentId) (function : CoreFunction) :
    Remembers world (world.addCore id function) :=
  (pushFunction world (function.bound id)).trans
    (setEnvironment _ (fun _ _ known => lookup_append known _) fun _ _ known => known)

/-- One more library object made is remembered with the others. -/
theorem addLibrary (world : World) (id : EnvironmentId) (library : Library) :
    Remembers world (world.addLibrary id library) :=
  (pushObject world (.library library [])).trans
    (setEnvironment _ (fun _ _ known => known) fun _ _ known => lookup_append known _)

/-- One more member of a library object made is remembered with the others. -/
theorem addMember (world : World) {id : ObjectId} {library : Library}
    {known : List (LibraryFunction × FunctionId)} (function : LibraryFunction)
    (stands : world.object id = .library library known) :
    Remembers world (world.addMember id library known function) := by
  let grown : World :=
    { world with functions := world.functions.push (Builtin.library function).callable }
  let more := known ++ [(function, ⟨world.functions.size⟩)]
  have made : Remembers world grown := pushFunction world _
  refine made.trans { refl grown with members := fun other name given there => ?_ }
  have read := grown.object_setIfInBounds id other (.library library more)
  by_cases here : other.index = id.index ∧ id.index < grown.objects.size
  · obtain rfl : other = id := by
      cases other
      cases id
      exact congrArg ObjectId.mk here.1
    obtain ⟨rfl, rfl⟩ := HostObject.library.inj (stands.symm.trans there)
    exact ⟨more, read.trans (if_pos here), fun _ _ found => lookup_append found _⟩
  · exact ⟨given, (read.trans (if_neg here)).trans there, fun _ _ found => found⟩

end Remembers

/-- Changes are remembered through. -/
theorem Change.remembers {old new : World} (change : Change old new) : Remembers old new := by
  cases change with
  | methods group => exact .pushFunction old _
  | core id function missing => exact .addCore old id function
  | library id library missing => exact .addLibrary old id library
  | member id library made function known missing => exact .addMember old function known
  | charge | refund | collect | line =>
    exact .setEnvironment old (fun _ _ known => known) fun _ _ known => known
  | table | entry | memory | resolve | visit => exact { Remembers.refl old with }

/-- Deeds are remembered through. -/
theorem Deed.remembers {old new : World} (deed : Deed old new) : Remembers old new := by
  cases deed with
  | function function => exact .pushFunction old function
  | object object => exact .pushObject old object
  | environment heap sink compiler =>
    have stored : Remembers old { old with tables := old.tables.push {} } :=
      { Remembers.refl old with }
    exact stored.trans (.pushEnvironment _ _)
  | drop | output => exact .setEnvironment old (fun _ _ known => known) fun _ _ known => known
  | hook | register | unregister | hold => exact { Remembers.refl old with }

/-- Steps are remembered through. -/
theorem Step.remembers {old new : World} (step : Step old new) : Remembers old new := by
  cases step with
  | change change => exact change.remembers
  | deed deed => exact deed.remembers
  | source id source => exact .setEnvironment old (fun _ _ known => known) fun _ _ known => known

/-- A course is remembered through. -/
theorem Course.remembers {old new : World} (course : Course old new) : Remembers old new := by
  induction course with
  | refl => exact .refl old
  | tail _ step ih => exact ih.trans step.remembers

/-- A step keeps a world sound and leaves the sources of every environment where they are, perhaps
with one more behind them. -/
theorem Step.sound {old new : World} (step : Step old new) (sound : Sound old) :
    Sound new ∧ ∀ id, (old.environment id).sources <+: (new.environment id).sources := by
  cases step with
  | change change =>
    exact ⟨sound.change change, fun id => (change.stays.sources id) ▸ List.prefix_refl _⟩
  | deed deed =>
    exact ⟨deed.stays.sound sound, fun id => (deed.stays.sources id) ▸ List.prefix_refl _⟩
  | source id source =>
    refine ⟨sound.setEnvironment rfl rfl, fun other => ?_⟩
    rw [environment_setEnvironment]
    split
    · next here =>
      rw [here.1]
      exact List.prefix_append _ _
    · exact List.prefix_refl _

/-- A course from a sound world leads to one, and what were the first sources of an environment
still are. -/
theorem Course.sound {old new : World} (course : Course old new) (sound : Sound old) :
    Sound new ∧ ∀ id, (old.environment id).sources <+: (new.environment id).sources := by
  induction course with
  | refl => exact ⟨sound, fun id => List.prefix_refl _⟩
  | tail _ step ih =>
    obtain ⟨further, more⟩ := step.sound ih.1
    exact ⟨further, fun id => (ih.2 id).trans (more id)⟩

/-- Later changes are a course. -/
theorem Later.course {old new : World} (later : Later old new) : Course old new :=
  later.onward.course

end ScriptHost.World
