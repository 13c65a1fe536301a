import ScriptHost.Proofs.Environment.HookChain
import ScriptHost.Proofs.Evaluation.Effects
import ScriptHost.Proofs.TypeTree.Learning
import ScriptHost.Proofs.World.Kept

/-!
# Expressions without calls

Evaluating an expression in which nothing is called makes additions only, as long as no
hook is a function and what the host answers and computes for names and fields makes
additions only: a hook that is a table is read and nothing else. Additions leave
everything alone that was there: they make new tables, new values of built-in functions,
libraries and methods, and what the type tree learns.
-/

namespace ScriptHost

open ScriptHost.Action Script World

/-! ## What additions leave alone -/

/-- An environment later on: it remembers more values of built-in functions and libraries. -/
def Environment.Remembers (old new : Environment) : Prop :=
  ∃ functions libraries, new = { old with
    coreMade := old.coreMade ++ functions
    librariesMade := old.librariesMade ++ libraries }

/-- An object later on: a library remembers more values of its functions. -/
inductive HostObject.Remembers : HostObject → HostObject → Prop where
  | same (object : HostObject) : Remembers object object
  | more (library : Library) (made further : List (LibraryFunction × FunctionId)) :
    Remembers (.library library made) (.library library (made ++ further))

/-- An environment remembers what it remembered before it remembered more. -/
theorem Environment.Remembers.trans {old middle new : Environment} (first : old.Remembers middle)
    (second : middle.Remembers new) : old.Remembers new := by
  obtain ⟨functions, libraries, rfl⟩ := first
  obtain ⟨otherFunctions, otherLibraries, rfl⟩ := second
  exact ⟨functions ++ otherFunctions, libraries ++ otherLibraries, by
    simp only [List.append_assoc]⟩

/-- An object remembers what it remembered before it remembered more. -/
theorem HostObject.Remembers.trans {old middle new : HostObject} (first : old.Remembers middle)
    (second : middle.Remembers new) : old.Remembers new := by
  cases first with
  | same => exact second
  | more library made further =>
    cases second with
    | same => exact .more library made further
    | more _ _ others =>
      rw [List.append_assoc]
      exact .more library made (further ++ others)

namespace World

/-- A later world in which nothing has changed that was there. Every table has its entries and its
hook. Every environment has its storage, its heap, its sink, its compiler and its sources. The types
are the same, and the host has what it had and remembers what it remembered. Only what environments,
libraries and the type tree remember has grown. -/
structure Undisturbed (old new : World) : Prop where
  tables : ∀ (place : Nat) (table : Table), old.tables[place]? = some table →
    new.tables[place]? = some table
  functions : ∀ (place : Nat) (function : Callable), old.functions[place]? = some function →
    new.functions[place]? = some function
  objects : ∀ (place : Nat) (object : HostObject), old.objects[place]? = some object →
    ∃ later, new.objects[place]? = some later ∧ object.Remembers later
  environments : ∀ (place : Nat) (environment : Environment),
    old.environments[place]? = some environment →
      ∃ later, new.environments[place]? = some later ∧ environment.Remembers later
  environmentCount : new.environments.size = old.environments.size
  hostTypes : new.hostTypes = old.hostTypes
  registry : new.registry = old.registry
  tree : old.tree.Learned new.tree
  files : new.files = old.files
  memory : new.memory = old.memory
  held : new.held = old.held

namespace Undisturbed

/-- A world can stay as it is. -/
theorem refl (world : World) : Undisturbed world world where
  tables := fun _ _ found => found
  functions := fun _ _ found => found
  objects := fun _ object found => ⟨object, found, .same object⟩
  environments := fun _ environment found =>
    ⟨environment, found, [], [], by simp only [List.append_nil]⟩
  environmentCount := rfl
  hostTypes := rfl
  registry := rfl
  tree := .refl _
  files := rfl
  memory := rfl
  held := rfl

/-- What is left undisturbed twice is left undisturbed. -/
theorem trans {old middle new : World} (first : Undisturbed old middle)
    (second : Undisturbed middle new) : Undisturbed old new where
  tables := fun place table found => second.tables place table (first.tables place table found)
  functions := fun place function found =>
    second.functions place function (first.functions place function found)
  objects := by
    intro place object found
    obtain ⟨between, there, before⟩ := first.objects place object found
    obtain ⟨later, known, after⟩ := second.objects place between there
    exact ⟨later, known, before.trans after⟩
  environments := by
    intro place environment found
    obtain ⟨between, there, before⟩ := first.environments place environment found
    obtain ⟨later, known, after⟩ := second.environments place between there
    exact ⟨later, known, before.trans after⟩
  environmentCount := second.environmentCount.trans first.environmentCount
  hostTypes := second.hostTypes.trans first.hostTypes
  registry := second.registry.trans first.registry
  tree := first.tree.trans second.tree
  files := second.files.trans first.files
  memory := second.memory.trans first.memory
  held := second.held.trans first.held

/-- A new function disturbs nothing. -/
theorem pushFunction (world : World) (function : Callable) :
    Undisturbed world { world with functions := world.functions.push function } :=
  { refl world with
    functions := fun _ _ found => Array.getElem?_push_of_some found function }

/-- A new object disturbs nothing. -/
theorem pushObject (world : World) (object : HostObject) :
    Undisturbed world { world with objects := world.objects.push object } :=
  { refl world with
    objects := fun _ known found =>
      ⟨known, Array.getElem?_push_of_some found object, .same known⟩ }

/-- An environment that remembers more disturbs nothing. -/
theorem setEnvironment {world : World} {id : EnvironmentId} {environment : Environment}
    (more : (world.environment id).Remembers environment) :
    Undisturbed world (world.setEnvironment id environment) :=
  { refl world with
    environments := by
      intro place known found
      have inside := (Array.getElem?_eq_some_iff.mp found).1
      show ∃ later, (world.environments.setIfInBounds id.index environment)[place]? = some later ∧ _
      rw [Array.getElem?_setIfInBounds]
      split
      · next here =>
        subst here
        have same : world.environment id = known := by
          unfold World.environment
          rw [found]
          rfl
        exact ⟨environment, if_pos inside, same ▸ more⟩
      · exact (refl world).environments place known found
    environmentCount := Array.size_setIfInBounds }

/-- A library that remembers more disturbs nothing. -/
theorem setMade {world : World} {id : ObjectId} {library : Library}
    {made : List (LibraryFunction × FunctionId)} (known : world.object id = .library library made)
    (further : List (LibraryFunction × FunctionId)) :
    Undisturbed world { world with
      objects := world.objects.setIfInBounds id.index (.library library (made ++ further)) } :=
  { refl world with
    objects := by
      intro place object found
      have inside := (Array.getElem?_eq_some_iff.mp found).1
      rw [Array.getElem?_setIfInBounds]
      split
      · next here =>
        subst here
        obtain rfl : object = .library library made := by
          unfold World.object at known
          rw [found] at known
          exact known
        exact ⟨_, if_pos inside, .more library made further⟩
      · exact ⟨object, found, .same object⟩ }

/-- What a tree learns disturbs nothing. -/
theorem setTree {world : World} {tree : TypeTree} (learned : world.tree.Learned tree) :
    Undisturbed world { world with tree } :=
  { refl world with tree := learned }

end Undisturbed

/-- An addition disturbs nothing. -/
theorem Addition.undisturbed {old new : World} (addition : Addition old new) :
    Undisturbed old new := by
  cases addition with
  | table table written =>
    exact { Undisturbed.refl old with
      tables := fun _ _ found => Array.getElem?_push_of_some found table }
  | methods group => exact .pushFunction old _
  | core id function missing =>
    refine (Undisturbed.pushFunction old (function.bound id)).trans (.setEnvironment ?_)
    exact ⟨[(function, ⟨old.functions.size⟩)], [], by simp only [List.append_nil]; rfl⟩
  | library id library missing =>
    refine (Undisturbed.pushObject old (.library library [])).trans (.setEnvironment ?_)
    exact ⟨[], [(library, ⟨old.objects.size⟩)], by simp only [List.append_nil]; rfl⟩
  | member id library made function known missing =>
    let grown : World :=
      { old with functions := old.functions.push (Builtin.library function).callable }
    have same : grown.object id = .library library made := known
    exact (Undisturbed.pushFunction old _).trans (Undisturbed.setMade same _)
  | resolve id => exact .setTree (TypeTree.learned_resolve old.registry id)
  | visit id name ignoreCase =>
    exact .setTree (TypeTree.learned_visit old.registry id name ignoreCase)

/-- Additions disturb nothing. -/
theorem Grown.undisturbed {old new : World} (grown : Grown old new) : Undisturbed old new := by
  induction grown with
  | refl => exact .refl old
  | tail _ addition ih => exact ih.trans addition.undisturbed

/-! ## Reading without effects -/

/-- No hook of a table is a function. -/
def Unhooked (world : World) : Prop :=
  ∀ id function, (world.table id).hook ≠ some (.function function)

/-- A world that grows if none of its hooks is a function. -/
def Explored (old new : World) : Prop := old.Unhooked → Grown old new

/-- A world that can be read without effects. No hook of a table is a function, and as long as that
is so, the replies of sources and the getters of fields make additions at most. -/
structure Readable (call : Caller) (world : World) : Prop where
  unhooked : world.Unhooked
  sources : ∀ id, ∀ source ∈ (world.environment id).sources, source.RepliesKeep Explored call
  getters : ∀ id name getter setter, (name, Member.field getter setter) ∈
    (world.hostType id).members → ∀ context, Keeps Explored (getter.read call context)

/-- A world that grows if it can be read without effects. -/
def ExploredBy (call : Caller) (old new : World) : Prop := old.Readable call → Grown old new

variable {call : Caller}

/-- Additions hook no table, add no source and change no type. -/
theorem Grown.readable {old new : World} (grown : Grown old new) (readable : old.Readable call) :
    new.Readable call where
  unhooked := by
    intro id function
    rw [grown.later.kept.hook]
    exact readable.unhooked id function
  sources := by
    intro id source listed
    rw [grown.later.kept.sources] at listed
    exact readable.sources id source listed
  getters := by
    intro id name getter setter listed
    have same : new.hostType id = old.hostType id := by
      rw [hostType, grown.later.kept.hostTypes, hostType]
    rw [same] at listed
    exact readable.getters id name getter setter listed

instance : IsPreorder World (ExploredBy call) where
  refl := fun _ _ => .refl
  trans := fun _ _ _ first second readable =>
    (first readable).trans (second ((first readable).readable readable))

/-- What explores a world without hooks explores one that can be read. -/
theorem Explored.by {old new : World} (explored : Explored old new) : ExploredBy call old new :=
  fun readable => explored readable.unhooked

end World

/-- Binding a member of a world that can be read makes additions only. -/
theorem World.Readable.bind? {call : Caller} {world : World} (readable : world.Readable call)
    (context : Context) (id : HostTypeId) (name : String) (ignoreCase : Bool) :
    Grown world (left ((world.hostType id).bind? call context name ignoreCase) world) := by
  unfold HostType.bind?
  split
  · next key getter setter found =>
    have reads := readable.getters id key getter setter (HostType.mem_of_find? found) context
    have read : Keeps Explored (do return some (Bound.value (← getter.read call context))) := by
      intro old
      rw [left_bind]
      cases outcome (getter.read call context) old with
      | ok value => exact reads old
      | error interrupt => exact reads old
    exact read world readable.unhooked
  · exact .refl
  · exact .refl

/-- A hooked read leaves a world alone that can be read. -/
theorem hookedGet_explored (call : Caller) (context : Context) (table : TableId) (key : Value) :
    Keeps (ExploredBy call) (hookedGet call context table key) := by
  intro world readable
  rw [left_hookedGet fun _ _ id function _ => readable.unhooked id function]

/-- Looking a name up explores a world. -/
theorem getGlobal_explored (call : Caller) (held : List Reference) (id : EnvironmentId)
    (name : String) : Keeps (ExploredBy call) (Environment.getGlobal call held id name) := by
  intro world readable
  unfold Environment.getGlobal
  rw [left_view_bind]
  -- The sources are those of this world, and their replies explore every world.
  have replies (source : Source) (listed : source ∈ (world.environment id).sources) :
      source.RepliesKeep (ExploredBy call) call := by
    have explored := readable.sources id source listed
    cases source with
    | host label kept reply => exact fun held id name old => (explored held id name old).by
    | _ => trivial
  have additions (old new : World) (grown : Grown old new) : ExploredBy call old new :=
    fun _ => grown
  have resolves := Environment.resolve_keeps_of
    (fun function => (Environment.coreValue_grows id function).mono additions)
    (fun library => (Environment.libraryValue_grows id library).mono additions)
    (fun context table => hookedGet_explored call context table (.text name)) held
    (Environment.replies_keep_of replies held)
  exact Keeps.bind resolves (fun _ => keeps_pure _) world readable

/-- Reading explores a world. -/
theorem Caller.reads_explored (call : Caller) : call.Reads (ExploredBy call) where
  grown := fun _ _ grown _ => grown
  hooked := hookedGet_explored call
  bound := by
    intro context id name ignoreCase world readable
    rw [left_view_bind]
    exact readable.bind? context id name ignoreCase
  named := getGlobal_explored call

/-- Evaluating an expression without calls has no side effects, for every such expression, frame
and world in which no hook is a function and the sources and getters of the host make additions at
most, whatever calls would do, and whether the evaluation succeeds or fails. The world it leaves
comes about by additions only, and nothing in it is disturbed that was there. The tables that are
new have no hooks, and a statement that evaluates such an expression leaves its frame as it is. -/
theorem evaluate_undisturbing (call : Caller) (frame : Frame) (expression : Expression)
    (free : expression.CallFree) (world : World)
    (unhooked : ∀ id function, (world.table id).hook ≠ some (.function function))
    (sources : ∀ id, ∀ source ∈ (world.environment id).sources,
      source.RepliesKeep Explored call)
    (getters : ∀ id name getter setter, (name, Member.field getter setter) ∈
      (world.hostType id).members → ∀ context, Keeps Explored (getter.read call context)) :
    let later := left (evaluate call frame expression) world
    Grown world later ∧ Undisturbed world later ∧
      (∀ id, (later.table id).hook = (world.table id).hook) ∧
      ∀ final, outcome (execute call frame (.run expression)) world = .ok final →
        final = frame := by
  intro later
  have grown : Grown world later :=
    evaluate_keeps_of call.reads_explored frame expression (.inl free) world
      ⟨unhooked, sources, getters⟩
  refine ⟨grown, grown.undisturbed, grown.later.kept.hook, fun final ran => ?_⟩
  unfold execute at ran
  rw [outcome_bind] at ran
  cases given : outcome (evaluate call frame expression) world with
  | ok values =>
    rw [given] at ran
    exact (Except.ok.inj ran).symm
  | error interrupt =>
    rw [given] at ran
    contradiction

/-- A source of the host that has one answer to every name. -/
def answers : Source := .host "answers" [] fun _ _ => .done (.ok (some (.ofNat 5)))

/-- A getter that asks for the length of a table. -/
def measuring : Getter := .fetch (.length ⟨2⟩)

/-- An environment with a source of the host, a table whose hook is another table, and a type with
a field. -/
def hookedWorld : World where
  tables := #[{}, { hook := some (.table ⟨2⟩) }, { entries := [(.text "two", .text "second")] }]
  environments :=
    #[{ storage := ⟨0⟩, heap := ⟨none, 0⟩, sink := .capture "", compiler := .script
        sources := standardSources ++ [answers] }]
  hostTypes := #[.build "Box" [.field "size" measuring]]
  objects := #[.package ⟨0⟩]

/-- A constructor that reads a table through its hook, names a built-in function, asks a source of
the host and reads a field makes a table and disturbs nothing. -/
theorem evaluate_undisturbing_constructor :
    let fields : List Field :=
      [.positional (.index (.name "t") (.text "two")), .keyed (.text "f") (.name "print"),
        .keyed (.text "n") (.name "answer"), .keyed (.text "s") (.index (.name "box") (.text "size"))]
    let frame : Frame :=
      { environment := ⟨0⟩, locals := [("t", .table ⟨1⟩), ("box", .object ⟨0⟩)] }
    let made := evaluate (callWithin 1) frame (.table fields)
    outcome made hookedWorld = .ok [.table ⟨3⟩] ∧
      Undisturbed hookedWorld (left made hookedWorld) := by
  intro fields frame made
  have free : (Expression.table fields).CallFree :=
    ⟨⟨trivial, trivial⟩, ⟨trivial, trivial⟩, ⟨trivial, trivial⟩, ⟨trivial, trivial, trivial⟩, trivial⟩
  have unhooked (id : TableId) (function : FunctionId) :
      (hookedWorld.table id).hook ≠ some (.function function) := by
    obtain ⟨_ | _ | _ | index⟩ := id <;> simp [hookedWorld, World.table]
  have sources (id : EnvironmentId) (source : Source)
      (listed : source ∈ (hookedWorld.environment id).sources) :
      source.RepliesKeep Explored (callWithin 1) := by
    have known : (hookedWorld.environment id).sources = standardSources ++ [answers] ∨
        (hookedWorld.environment id).sources = standardSources := by
      obtain ⟨_ | index⟩ := id
      · exact .inl rfl
      · exact .inr rfl
    have each : source ∈ standardSources ∨ source = answers := by
      rcases known with known | known
      · rw [known] at listed
        simpa using listed
      · rw [known] at listed
        exact .inl listed
    rcases each with standard | rfl
    · simp only [standardSources, List.mem_cons, List.not_mem_nil, or_false] at standard
      rcases standard with rfl | rfl | rfl | rfl <;> trivial
    · exact fun _ _ _ world _ => .refl
  have getters (id : HostTypeId) (name : String) (getter : Getter) (setter : Option Setter)
      (listed : (name, Member.field getter setter) ∈ (hookedWorld.hostType id).members)
      (context : Context) : Keeps Explored (getter.read (callWithin 1) context) := by
    obtain ⟨_ | index⟩ := id
    · have same : (name, Member.field getter setter) = ("size", .field measuring none) :=
        List.mem_singleton.mp listed
      obtain ⟨rfl, rfl, rfl⟩ : name = "size" ∧ getter = measuring ∧ setter = none := by
        simpa using same
      exact fun world _ => .refl
    · exact absurd listed List.not_mem_nil
  exact ⟨rfl, (evaluate_undisturbing _ frame (.table fields) free hookedWorld unhooked sources
    getters).2.1⟩

end ScriptHost
