import ScriptHost.Proofs.World.Kept

/-!
# Sound worlds

In a sound world the function values and library objects that an environment has made
are those of what they were made for, hooks that are functions are functions that exist,
and no entry of a table is `nil`. Changes keep a world sound.
-/

namespace ScriptHost.World

/-- What holds of every world that hosts and scripts can bring about. -/
structure Sound (world : World) : Prop where
  /-- A core function's value is that function, at home in the environment it was made for. -/
  core : ∀ id function made, (world.environment id).coreMade.lookup function = some made →
    world.functions[made.index]? = some (function.bound id)
  /-- A library's object is that library. -/
  library : ∀ id library made, (world.environment id).librariesMade.lookup library = some made →
    ∃ given, world.object made = .library library given
  /-- A hook that is a function is there. -/
  hooked : ∀ id function, (world.table id).hook = some (.reference (.function function)) →
    function.index < world.functions.size
  filled : ∀ id, (world.table id).Filled

/-- What is looked up in a list with an entry behind it for something that it lacks. -/
theorem lookup_append_of_missing {Key Entry : Type} [DecidableEq Key] {entries : List (Key × Entry)}
    {key : Key} (missing : entries.lookup key = none) (entry : Entry) {wanted : Key} :
    (entries ++ [(key, entry)]).lookup wanted =
      if wanted = key then some entry else entries.lookup wanted := by
  by_cases same : wanted = key
  · rw [if_pos same, same, List.lookup_append, missing]
    simp
  · rw [if_neg same, List.lookup_append, List.lookup_cons, beq_false_of_ne same]
    simp

/-- What is found in a list with one more entry was there before or is the new entry. -/
theorem lookup_append_singleton {Key Entry : Type} [BEq Key] [LawfulBEq Key]
    {entries : List (Key × Entry)} {wanted key : Key} {found entry : Entry}
    (known : (entries ++ [(key, entry)]).lookup wanted = some found) :
    entries.lookup wanted = some found ∨ (wanted = key ∧ entry = found) := by
  rw [List.lookup_append, Option.or_eq_some_iff] at known
  rcases known with before | ⟨_, last⟩
  · exact .inl before
  · rw [List.lookup_cons] at last
    split at last
    · next same => exact .inr ⟨eq_of_beq same, Option.some.inj last⟩
    · contradiction

/-- A core function's value is one that the environment had before, or the right one. -/
theorem Change.coreMade {old new : World} (change : Change old new) {id : EnvironmentId}
    {function : CoreFunction} {made : FunctionId}
    (known : (new.environment id).coreMade.lookup function = some made) :
    (old.environment id).coreMade.lookup function = some made ∨
      new.functions[made.index]? = some (function.bound id) := by
  have same (world : World) {other : EnvironmentId} {environment : Environment}
      (found : ((world.setEnvironment other environment).environment id).coreMade.lookup function =
        some made) (common : environment.coreMade = (world.environment other).coreMade) :
      (world.environment id).coreMade.lookup function = some made := by
    rw [world.environment_common Environment.coreMade common] at found
    exact found
  cases change with
  | core other fresh missing =>
    unfold addCore at known
    rw [environment_setEnvironment] at known
    split at known
    · next here =>
      obtain rfl := here.1
      rcases lookup_append_singleton known with before | ⟨rfl, rfl⟩
      · exact .inl before
      · right
        show (old.functions.push (function.bound id))[old.functions.size]? = _
        exact Array.getElem?_push_size
    · exact .inl known
  | library other library missing =>
    unfold addLibrary at known
    exact .inl (same { old with objects := old.objects.push (.library library []) } known rfl)
  | charge other bytes heap granted => exact .inl (same old known rfl)
  | refund other bytes => exact .inl (same old known rfl)
  | collect other => exact .inl (same old known rfl)
  | line other line => exact .inl (same old known rfl)
  | _ => exact .inl known

/-- A library's object is one that the environment had before, or a new one that has handed out
nothing. -/
theorem Change.librariesMade {old new : World} (change : Change old new) {id : EnvironmentId}
    {library : Library} {made : ObjectId}
    (known : (new.environment id).librariesMade.lookup library = some made) :
    (old.environment id).librariesMade.lookup library = some made ∨
      new.object made = .library library [] := by
  have same (world : World) {other : EnvironmentId} {environment : Environment}
      (found : ((world.setEnvironment other environment).environment id).librariesMade.lookup
        library = some made)
      (common : environment.librariesMade = (world.environment other).librariesMade) :
      (world.environment id).librariesMade.lookup library = some made := by
    rw [world.environment_common Environment.librariesMade common] at found
    exact found
  cases change with
  | library other fresh missing =>
    unfold addLibrary at known
    rw [environment_setEnvironment] at known
    split at known
    · next here =>
      obtain rfl := here.1
      rcases lookup_append_singleton known with before | ⟨rfl, rfl⟩
      · exact .inl before
      · right
        show World.object { old with objects := old.objects.push (.library library []) } _ = _
        rw [object_push, if_pos rfl]
    · exact .inl known
  | core other function missing =>
    unfold addCore at known
    exact .inl (same { old with functions := old.functions.push (function.bound other) } known rfl)
  | charge other bytes heap granted => exact .inl (same old known rfl)
  | refund other bytes => exact .inl (same old known rfl)
  | collect other => exact .inl (same old known rfl)
  | line other line => exact .inl (same old known rfl)
  | _ => exact .inl known

/-- A change keeps a world sound. -/
theorem Sound.change {old new : World} (sound : Sound old) (change : Change old new) :
    Sound new where
  core := by
    intro id function made known
    rcases change.coreMade known with before | right
    · exact change.kept.functions _ _ (sound.core id function made before)
    · exact right
  library := by
    intro id library made known
    rcases change.librariesMade known with before | right
    · obtain ⟨given, there⟩ := sound.library id library made before
      exact change.kept.libraries made library given there
    · exact ⟨[], right⟩
  hooked := by
    intro id function known
    rw [change.kept.hook] at known
    obtain ⟨callable, there⟩ : ∃ callable, old.functions[function.index]? = some callable :=
      ⟨_, Array.getElem?_eq_getElem (sound.hooked id function known)⟩
    exact (Array.getElem?_eq_some_iff.mp (change.kept.functions _ _ there)).1
  filled := change.kept.filled sound.filled

/-- Changes keep a world sound. -/
theorem Sound.later {old new : World} (sound : Sound old) (later : Later old new) : Sound new := by
  induction later with
  | refl => exact sound
  | tail _ change ih => exact ih.change change

end ScriptHost.World
