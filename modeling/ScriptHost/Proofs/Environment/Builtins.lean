import Mathlib
import ScriptHost.Proofs.Environment.Interleaving
import ScriptHost.Proofs.Environment.Remembered
import ScriptHost.Proofs.Evaluation.FileRuns

/-!
# Built-ins are made once and stay bound

A look-up that finds nothing in the storage goes on to what is built in. The first such
look-up makes the function value or the library object, and every later one gives it again.
A core function's value stays at home in the environment it was made for: it acts there
whoever calls it, and does nothing once that environment is gone.
-/

namespace ScriptHost

open ScriptHost.Action ScriptHost.Binary Script World

/-! ## Look-ups that miss the storage -/

/-- Code that looks names up: how deep it can call, and what it holds. -/
structure Asker where
  depth : Nat
  held : List Reference

namespace Asker

/-- The look-up of a global. -/
def lookUp (asker : Asker) (id : EnvironmentId) (name : String) : Action Value :=
  Environment.getGlobal (callWithin asker.depth) asker.held id name

/-- What a look-up does first: reading the storage with its hooks. -/
def readStorage (asker : Asker) (id : EnvironmentId) (name : String) : Action Value :=
  Environment.readStorage (callWithin asker.depth) asker.held id name

/-- A look-up finds nothing in the storage and goes on to what is built in. -/
def Misses (asker : Asker) (world : World) (id : EnvironmentId) (name : String) : Prop :=
  outcome (asker.readStorage id name) world = .ok .nil

variable {asker : Asker} {world : World} {id : EnvironmentId}

/-- Reading the storage is a course. -/
theorem readStorage_later (asker : Asker) (id : EnvironmentId) (name : String) (world : World) :
    Later world (left (asker.readStorage id name) world) := by
  have keeps : Keeps Later (asker.readStorage id name) := by
    unfold readStorage Environment.readStorage
    exact Keeps.bind (keeps_view _) fun _ => hookedGet_keeps (callWithin_keeps _) _ _ _
  exact keeps world

/-- A name that is not reserved is read from the storage first. -/
theorem resolve_standard (call : Caller) (held : List Reference) {name : String}
    (notRoot : name ≠ TypeTree.rootName) (notVersion : name ≠ Environment.versionName)
    (added : List Source) :
    Environment.resolve call held id id name (standardSources ++ added) = (do
      let value ← Environment.readStorage call held id name
      if value.isNil then
        Environment.resolve call held id id name (.coreFunctions :: .systemLibraries :: added)
      else return some value) := by
  have unreserved : Environment.answer call held id id name .reserved = pure none := by
    unfold Environment.answer
    dsimp only
    rw [if_neg notRoot, if_neg notVersion]
  show Environment.resolve call held id id name
    (.reserved :: .storage :: .coreFunctions :: .systemLibraries :: added) = _
  rw [Environment.resolve, unreserved, pure_bind]
  dsimp only
  rw [Environment.resolve, Environment.answer_storage, bind_assoc]
  refine congrArg (Environment.readStorage call held id name >>= ·) (funext fun value => ?_)
  rw [pure_bind]
  cases value.isNil <;> rfl

/-- A look-up that misses the storage goes on to what is built in from where reading has led. -/
theorem lookUp_of_misses {name : String} (notRoot : name ≠ TypeTree.rootName)
    (notVersion : name ≠ Environment.versionName)
    (standard : standardSources <+: (world.environment id).sources)
    (misses : asker.Misses world id name) :
    ∃ added, asker.lookUp id name world = (do
      let found ← Environment.resolve (callWithin asker.depth) asker.held id id name
        (.coreFunctions :: .systemLibraries :: added)
      return found.getD .nil : Action Value) (left (asker.readStorage id name) world) := by
  obtain ⟨added, sources⟩ := standard
  refine ⟨added, ?_⟩
  have read := eq_outcome_left (asker.readStorage id name) world
  rw [misses] at read
  show (do
    let found ← Environment.resolve (callWithin asker.depth) asker.held id id name
      (world.environment id).sources
    return found.getD .nil : Action Value) world = _
  rw [← sources, resolve_standard _ _ notRoot notVersion, bind_assoc]
  show EStateM.bind (asker.readStorage id name) _ world = _
  unfold EStateM.bind
  rw [read]
  rfl

/-- A look-up of a core function's name that misses the storage is that of its value. -/
theorem lookUp_core {function : CoreFunction}
    (standard : standardSources <+: (world.environment id).sources)
    (misses : asker.Misses world id function.label) :
    asker.lookUp id function.label world =
      Environment.coreValue id id function (left (asker.readStorage id function.label) world) := by
  have named : CoreFunction.ofLabel? function.label = some function := by cases function <;> decide
  obtain ⟨added, same⟩ := lookUp_of_misses (by cases function <;> decide)
    (by cases function <;> decide) standard misses
  rw [same, Environment.resolve, Environment.answer, named]
  simp only [bind_assoc, pure_bind, Option.getD_some, bind_pure]

/-- A look-up of a library's name that misses the storage is that of its object. -/
theorem lookUp_library {library : Library}
    (standard : standardSources <+: (world.environment id).sources)
    (misses : asker.Misses world id library.label) :
    asker.lookUp id library.label world =
      Environment.libraryValue id library (left (asker.readStorage id library.label) world) := by
  have unnamed : CoreFunction.ofLabel? library.label = none := by cases library <;> decide
  have named : Library.ofLabel? library.label = some library := by cases library <;> decide
  obtain ⟨added, same⟩ := lookUp_of_misses (by cases library <;> decide)
    (by cases library <;> decide) standard misses
  rw [same, Environment.resolve, Environment.answer, unnamed, pure_bind]
  dsimp only
  rw [Environment.resolve, Environment.answer, named]
  simp only [bind_assoc, pure_bind, Option.getD_some, bind_pure]

end Asker

/-! ## What is made at the first use -/

section Making

variable {world : World}

namespace Environment

variable {id : EnvironmentId}

/-- A core function's value that an environment has made is given again. -/
theorem coreValue_of_made {function : CoreFunction} {made : FunctionId}
    (known : (world.environment id).coreMade.lookup function = some made) :
    coreValue id id function world = .ok (.function made) world := by
  unfold coreValue
  rw [run_view_bind, known]
  rfl

/-- An environment has made the core function's value that it gives. -/
theorem coreValue_makes (there : id.index < world.environments.size) (function : CoreFunction) :
    ∃ made, outcome (coreValue id id function) world = .ok (.function made) ∧
      ((left (coreValue id id function) world).environment id).coreMade.lookup function =
        some made := by
  cases known : (world.environment id).coreMade.lookup function with
  | some made =>
    have again := coreValue_of_made known
    exact ⟨made, by rw [outcome, again], by rw [left, again]; exact known⟩
  | none =>
    refine ⟨⟨world.functions.size⟩, ?_, ?_⟩
    · unfold coreValue
      rw [outcome_view_bind, known]
      rfl
    · have added : left (coreValue id id function) world = world.addCore id function := by
        unfold coreValue
        rw [left_view_bind, known]
        rfl
      rw [added, addCore, environment_setEnvironment, if_pos ⟨rfl, there⟩]
      exact (lookup_append_of_missing known _).trans (if_pos rfl)

/-- A library's object that an environment has made is given again. -/
theorem libraryValue_of_made {library : Library} {made : ObjectId}
    (known : (world.environment id).librariesMade.lookup library = some made) :
    libraryValue id library world = .ok (.object made) world := by
  unfold libraryValue
  rw [run_view_bind, known]
  rfl

/-- An environment has made the library's object that it gives. -/
theorem libraryValue_makes (there : id.index < world.environments.size) (library : Library) :
    ∃ made, outcome (libraryValue id library) world = .ok (.object made) ∧
      ((left (libraryValue id library) world).environment id).librariesMade.lookup library =
        some made := by
  cases known : (world.environment id).librariesMade.lookup library with
  | some made =>
    have again := libraryValue_of_made known
    exact ⟨made, by rw [outcome, again], by rw [left, again]; exact known⟩
  | none =>
    refine ⟨⟨world.objects.size⟩, ?_, ?_⟩
    · unfold libraryValue
      rw [outcome_view_bind, known]
      rfl
    · have added : left (libraryValue id library) world = world.addLibrary id library := by
        unfold libraryValue
        rw [left_view_bind, known]
        rfl
      rw [added, addLibrary, environment_setEnvironment, if_pos ⟨rfl, there⟩]
      exact (lookup_append_of_missing known _).trans (if_pos rfl)

end Environment

/-- Functions and constants of a library have different names, whatever the case of letters. -/
theorem Library.constants_apart (library : Library) :
    ∀ constant ∈ library.constants.map Prod.fst, ∀ function ∈ library.functions,
      foldAscii function.label ≠ foldAscii constant := by
  cases library <;> decide

/-- A name of a function of a library is no name of a constant. -/
theorem Library.constant?_of_function? {library : Library} {name : String} {ignoreCase : Bool}
    {function : LibraryFunction} (named : library.function? name ignoreCase = some function) :
    library.constant? name ignoreCase = none := by
  have folded {left : String} (same : sameName ignoreCase left name = true) :
      foldAscii left = foldAscii name := by
    cases ignoreCase with
    | false => exact congrArg foldAscii (beq_iff_eq.mp same)
    | true => exact beq_iff_eq.mp same
  have found : library.functions.find? (fun other => sameName ignoreCase other.label name) =
      some function := named
  rw [constant?, Option.map_eq_none_iff, List.find?_eq_none]
  intro entry constant same
  have apart := library.constants_apart entry.1 (List.mem_map_of_mem constant) function
    (List.mem_of_find?_eq_some found)
  have functionSame := List.find?_some found
  exact apart ((folded functionSame).trans (folded same).symm)

namespace ObjectId

variable (call : Caller) (context : Context) {id : ObjectId} {library : Library}
  {given : List (LibraryFunction × FunctionId)} {name : String} {ignoreCase : Bool}
  {function : LibraryFunction}

/-- Reading a function of a library is making its value, or finding it made. -/
theorem readMember?_library (known : world.object id = .library library given)
    (named : library.function? name ignoreCase = some function) :
    id.readMember? call context name ignoreCase world =
      (do return some (← id.libraryMember library given function) : Action (Option Value))
        world := by
  unfold readMember?
  rw [run_view_bind, known]
  dsimp only
  rw [Library.constant?_of_function? named, named]

/-- A function value that a library object has made is given again. -/
theorem readMember?_of_made (known : world.object id = .library library given)
    (named : library.function? name ignoreCase = some function) {made : FunctionId}
    (before : given.lookup function = some made) :
    id.readMember? call context name ignoreCase world = .ok (some (.function made)) world := by
  rw [readMember?_library call context known named, libraryMember, before]
  rfl

/-- A library object has made the function value that it gives. -/
theorem readMember?_makes (known : world.object id = .library library given)
    (named : library.function? name ignoreCase = some function) :
    ∃ made more,
      outcome (id.readMember? call context name ignoreCase) world = .ok (some (.function made)) ∧
        (left (id.readMember? call context name ignoreCase) world).object id =
          .library library more ∧
        more.lookup function = some made := by
  cases before : given.lookup function with
  | some made =>
    have again := readMember?_of_made call context known named before
    exact ⟨made, given, by rw [outcome, again], by rw [left, again]; exact known, before⟩
  | none =>
    have read := readMember?_library call context known named
    rw [libraryMember, before] at read
    have inside := world.index_lt_of_library known
    refine ⟨⟨world.functions.size⟩, given ++ [(function, ⟨world.functions.size⟩)], ?_, ?_,
      (lookup_append_of_missing before _).trans (if_pos rfl)⟩
    · rw [outcome, read]
      rfl
    · rw [left, read]
      let grown : World :=
        { world with functions := world.functions.push (Builtin.library function).callable }
      exact (grown.object_setIfInBounds id id _).trans (if_pos ⟨rfl, inside⟩)

end ObjectId

end Making

/-! ## Calls of core functions -/

/-- A function value acts as a core function in an environment, whoever calls it. While the
environment is held the function runs there: it prints to that environment's sink, counts and
collects that environment's heap, and runs files with that environment's globals. Once the
environment is gone a call fails and changes nothing. -/
structure ActsIn (world : World) (id : EnvironmentId) (function : CoreFunction)
    (made : FunctionId) : Prop where
  runs : ∀ depth (context : Context) arguments,
    world.isLive (context.keep arguments).holds id = true →
      callWithin (depth + 1) context made arguments world =
        function.run (callWithin depth) ((context.keep arguments).enter id) arguments world
  prints : function = .print → ∀ depth (context : Context) arguments, arguments ≠ [] →
    world.isLive (context.keep arguments).holds id = true →
      callWithin (depth + 1) context made arguments world =
        .ok [] (world.setEnvironment id
          { world.environment id with
            sink := (world.environment id).sink.printed (Core.printedLine world arguments) })
  counts : function = .collectgarbage → ∀ depth (context : Context),
    world.isLive (context.keep [.text "count"]).holds id = true →
      let bytes := (world.environment id).heap.allocated.toNat
      callWithin (depth + 1) context made [.text "count"] world =
        .ok [.number ((Datum.ofInt bytes).div (Datum.ofInt 1024)), .ofNat (bytes % 1024)] world
  collects : function = .collectgarbage → ∀ depth (context : Context),
    world.isLive (context.keep [.text "collect"]).holds id = true →
      left (callWithin (depth + 1) context made [.text "collect"]) world =
        world.setEnvironment id
          { world.environment id with
            heap := (world.environment id).heap.reset
              (UInt64.ofNat (world.measure (world.environment id).storage)) }
  loads : function = .dofile → ∀ depth (context : Context) path rest,
    world.isLive (context.keep (.text path :: rest)).holds id = true →
      RunsFile world id (callWithin depth) ((context.keep (.text path :: rest)).enter id).holds path
        (callWithin (depth + 1) context made (.text path :: rest) world)
  gone : ∀ depth (context : Context) arguments,
    world.isLive (context.keep arguments).holds id = false →
      callWithin (depth + 1) context made arguments world =
        .error (.failed (.type (.outlived function.label))) world

/-- The function value of a core function acts in the environment that it is at home in. -/
theorem actsIn_of_bound {world : World} {id : EnvironmentId} {function : CoreFunction}
    {made : FunctionId} (bound : world.functions[made.index]? = some (function.bound id)) :
    ActsIn world id function made := by
  have called (depth : Nat) (context : Context) (arguments : List Value) :
      callWithin (depth + 1) context made arguments world =
        ((if world.isLive (context.keep arguments).holds id then
            pure ((context.keep arguments).enter id)
          else fault (.outlived function.label) : Action Context) >>= fun within =>
            function.run (callWithin depth) within arguments) world := by
    show (world.function made).run (callWithin depth) context arguments world = _
    rw [World.function, bound]
    rfl
  have runs (depth : Nat) (context : Context) (arguments : List Value)
      (live : world.isLive (context.keep arguments).holds id = true) :
      callWithin (depth + 1) context made arguments world =
        function.run (callWithin depth) ((context.keep arguments).enter id) arguments world := by
    rw [called, if_pos live, pure_bind]
  refine ⟨runs, ?_, ?_, ?_, ?_, ?_⟩
  · rintro rfl depth context arguments given live
    rw [runs depth context arguments live]
    have some : arguments.isEmpty = false := List.isEmpty_eq_false_iff.mpr given
    show Core.print ((context.keep arguments).enter id) arguments world = _
    rw [← Environment.left_printLine, Core.print, some]
    rfl
  · rintro rfl depth context live
    rw [runs depth context _ live]
    rfl
  · rintro rfl depth context live
    rw [left, runs depth context _ live]
    rfl
  · rintro rfl depth context path rest live
    rw [runs depth context _ live]
    exact Environment.doFile_runs world id _ _ path
  · intro depth context arguments lost
    rw [called, lost]
    rfl

/-! ## Look-ups along a course -/

namespace Asker

variable {asker : Asker} {world : World} {id : EnvironmentId}
  (standard : ∀ id, standardSources <+: (world.environment id).sources)
include standard

/-- Every look-up that misses the storage gives the core function's value that has been made. -/
theorem lookUp_core_of_made {function : CoreFunction} {made : FunctionId}
    (known : (world.environment id).coreMade.lookup function = some made)
    (misses : asker.Misses world id function.label) :
    outcome (asker.lookUp id function.label) world = .ok (.function made) := by
  have kept := (asker.readStorage_later id function.label world).course.remembers.core _ _ _ known
  rw [outcome, lookUp_core (standard id) misses, Environment.coreValue_of_made kept]

/-- Every look-up that misses the storage gives the library's object that has been made. -/
theorem lookUp_library_of_made {library : Library} {made : ObjectId}
    (known : (world.environment id).librariesMade.lookup library = some made)
    (misses : asker.Misses world id library.label) :
    outcome (asker.lookUp id library.label) world = .ok (.object made) := by
  have kept := (asker.readStorage_later id library.label world).course.remembers.library _ _ _ known
  rw [outcome, lookUp_library (standard id) misses, Environment.libraryValue_of_made kept]

/-- A look-up that misses the storage of one environment gives no core function's value of another
one. -/
theorem lookUp_core_apart (sound : Sound world) {other : EnvironmentId} (apart : other ≠ id)
    {function otherFunction : CoreFunction} {made : FunctionId}
    (bound : world.functions[made.index]? = some (function.bound id))
    (misses : asker.Misses world other otherFunction.label) :
    outcome (asker.lookUp other otherFunction.label) world ≠ .ok (.function made) := by
  intro same
  have later := asker.readStorage_later other otherFunction.label world
  obtain ⟨found, given, there⟩ :=
    Environment.coreValue_spec (sound.later later) other otherFunction
  rw [outcome, lookUp_core (standard other) misses] at same
  obtain rfl : found = made := by simpa using given.symm.trans same
  have kept : Later world _ := later.trans (Environment.coreValue_keeps other otherFunction _)
  have homes := (kept.course.remembers.functions _ _ bound).symm.trans there
  exact apart (Option.some.inj (congrArg Callable.home (Option.some.inj homes))).symm

end Asker

/-- Built-ins are made once and stay bound, along every course of hosts and scripts from an empty
world on. Whatever comes after a look-up that misses the storage, all other such look-ups in the
environment give the same core function value, the same library object and through that the same
values of its functions. A core function's value is none of another environment's, and acts in its
own one. -/
theorem builtins_made_once {files : Files} {first : World} (past : Course { files } first)
    {id : EnvironmentId} (there : id.index < first.environments.size) (asker : Asker) :
    (∀ function : CoreFunction, asker.Misses first id function.label →
      ∃ made, outcome (asker.lookUp id function.label) first = .ok (.function made) ∧
        ∀ later, Course (left (asker.lookUp id function.label) first) later →
          (∀ asker : Asker, asker.Misses later id function.label →
            outcome (asker.lookUp id function.label) later = .ok (.function made)) ∧
          (∀ (asker : Asker) (other : EnvironmentId) (otherFunction : CoreFunction), other ≠ id →
            asker.Misses later other otherFunction.label →
              outcome (asker.lookUp other otherFunction.label) later ≠ .ok (.function made)) ∧
          ActsIn later id function made) ∧
      ∀ library : Library, asker.Misses first id library.label →
        ∃ object, outcome (asker.lookUp id library.label) first = .ok (.object object) ∧
          ∀ later, Course (left (asker.lookUp id library.label) first) later →
            (∀ asker : Asker, asker.Misses later id library.label →
              outcome (asker.lookUp id library.label) later = .ok (.object object)) ∧
            ∀ call context name ignoreCase function,
              library.function? name ignoreCase = some function →
                ∃ made, outcome (object.readMember? call context name ignoreCase) later =
                    .ok (some (.function made)) ∧
                  ∀ last,
                    Course (left (object.readMember? call context name ignoreCase) later) last →
                      ∀ call context name ignoreCase,
                        library.function? name ignoreCase = some function →
                          outcome (object.readMember? call context name ignoreCase) last =
                            .ok (some (.function made)) := by
  obtain ⟨sound, standard⟩ := past.sound (Sound.initial files)
  have onward {later : World} (more : Course first later) (id : EnvironmentId) :
      standardSources <+: (later.environment id).sources :=
    (standard id).trans ((more.sound sound).2 id)
  constructor
  · intro function misses
    have read := asker.readStorage_later id function.label first
    have place := there
    rw [← read.kept.environments] at place
    obtain ⟨made, given, known⟩ := Environment.coreValue_makes place function
    have looked := Asker.lookUp_core (standard id) misses
    have between : Later first (left (asker.lookUp id function.label) first) :=
      Environment.getGlobal_keeps (callWithin_keeps _) _ _ _ first
    refine ⟨made, by rw [outcome, looked]; exact given, fun later course => ?_⟩
    have all : Course first later := between.course.trans course
    have laterSound := (all.sound sound).1
    have stays : (later.environment id).coreMade.lookup function = some made := by
      refine course.remembers.core _ _ _ ?_
      rw [left, looked]
      exact known
    have bound := laterSound.core id function made stays
    exact ⟨fun asker => Asker.lookUp_core_of_made (onward all) stays,
      fun asker other otherFunction apart =>
        Asker.lookUp_core_apart (onward all) laterSound apart bound,
      actsIn_of_bound bound⟩
  · intro library misses
    have read := asker.readStorage_later id library.label first
    have place := there
    rw [← read.kept.environments] at place
    obtain ⟨object, given, known⟩ := Environment.libraryValue_makes place library
    have looked := Asker.lookUp_library (standard id) misses
    have between : Later first (left (asker.lookUp id library.label) first) :=
      Environment.getGlobal_keeps (callWithin_keeps _) _ _ _ first
    refine ⟨object, by rw [outcome, looked]; exact given, fun later course => ?_⟩
    have all : Course first later := between.course.trans course
    have stays : (later.environment id).librariesMade.lookup library = some object := by
      refine course.remembers.library _ _ _ ?_
      rw [left, looked]
      exact known
    refine ⟨fun asker => Asker.lookUp_library_of_made (onward all) stays, ?_⟩
    intro call context name ignoreCase function named
    obtain ⟨members, shown⟩ := (all.sound sound).1.library id library object stays
    obtain ⟨made, more, found, holds, kept⟩ := ObjectId.readMember?_makes call context shown named
    refine ⟨made, found, fun last further call context name ignoreCase named => ?_⟩
    obtain ⟨most, remains, grown⟩ := further.remembers.members object library more holds
    rw [outcome, ObjectId.readMember?_of_made call context remains named (grown function made kept)]

/-- A file with a script that assigns one global to another. -/
def copying : Files := [("copy", "x=y".toUTF8)]

/-- Two environments with a file, a global of one name and different values. -/
def twoLaunched : World :=
  [.launch {} (.capture "") .script, .launch {} (.capture "") .script,
      .setGlobal ⟨0⟩ "y" (.ofNat 7), .setGlobal ⟨1⟩ "y" (.ofNat 8)].foldl
    (fun world (move : HostMove) => left move.perform world) { files := copying }

/-- The value under a name in the storage of an environment. -/
def World.storedUnder (world : World) (id : EnvironmentId) (name : String) : Value :=
  (world.table (world.environment id).storage).get (.text name)

/-- The `print` and the `dofile` of the first of two environments are made once. Called from the
second one or from outside of both, `print` writes to the sink of the first one, and `dofile` runs a
file that assigns `y` to `x` with the globals of the first one. -/
theorem builtins_made_once_across :
    let lookUp := Asker.lookUp ⟨1, []⟩ ⟨0⟩
    (∃ made, outcome (lookUp "print") twoLaunched = .ok (.function made) ∧
      let world := left (lookUp "print") twoLaunched
      outcome (lookUp "print") world = .ok (.function made) ∧
        ∀ environment : Option EnvironmentId,
          let later := left (callWithin 1 { environment } made [.text "hello"]) world
          (later.environment ⟨0⟩).sink = .capture "hello\n" ∧
            (later.environment ⟨1⟩).sink = .capture "") ∧
    ∃ made, outcome (lookUp "dofile") twoLaunched = .ok (.function made) ∧
      let world := left (lookUp "dofile") twoLaunched
      outcome (lookUp "dofile") world = .ok (.function made) ∧
        ∀ environment : Option EnvironmentId,
          let later := left (callWithin 1 { environment } made [.text "copy"]) world
          later.storedUnder ⟨0⟩ "x" = .ofNat 7 ∧ later.storedUnder ⟨1⟩ "x" = .nil := by
  have launch (world : World) :
      Course world (left (HostMove.launch {} (.capture "") .script).perform world) :=
    HostMove.course trivial
  have set (id : EnvironmentId) (value : Value) (world : World) :
      Course world (left (HostMove.setGlobal id "y" value).perform world) :=
    HostMove.course trivial
  have past : Course { files := copying } twoLaunched :=
    (((launch _).trans (launch _)).trans (set ⟨0⟩ (.ofNat 7) _)).trans (set ⟨1⟩ (.ofNat 8) _)
  have there : (⟨0⟩ : EnvironmentId).index < twoLaunched.environments.size := by decide
  have made := builtins_made_once past there ⟨1, []⟩
  intro lookUp
  constructor
  · obtain ⟨made, given, onward⟩ := made.1 .print rfl
    obtain ⟨again, _, acts⟩ := onward _ .refl
    refine ⟨made, given, again ⟨1, []⟩ rfl, fun environment => ?_⟩
    have printed : callWithin 1 { environment } made [.text "hello"]
        (left (lookUp "print") twoLaunched) = _ :=
      acts.prints rfl 0 { environment } _ nofun rfl
    rw [left, printed]
    exact ⟨rfl, rfl⟩
  · obtain ⟨made, given, onward⟩ := made.1 .dofile rfl
    obtain ⟨again, _, acts⟩ := onward _ .refl
    have readable : copying.text "copy" = .ok "x=y" := by cbv
    have read : readScript "x=y".toList = .ok ⟨[.assign [.name "x"] [.name "y"]], none⟩ := by cbv
    refine ⟨made, given, again ⟨1, []⟩ rfl, fun environment => ?_⟩
    have loaded : callWithin 1 { environment } made [.text "copy"]
        (left (lookUp "dofile") twoLaunched) = _ :=
      ((acts.loads rfl 0 { environment } "copy" [] rfl).script _ _ readable rfl read).1
    rw [left, loaded]
    exact ⟨rfl, rfl⟩

end ScriptHost
