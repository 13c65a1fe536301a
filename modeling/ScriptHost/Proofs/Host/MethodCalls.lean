import ScriptHost.Proofs.Environment.Builtins
import ScriptHost.Proofs.Host.Twins
import ScriptHost.Proofs.Identity.Moves

/-!
# Method calls and calls of members

Calling a method of a host value runs the overloads or the library function of the name
directly. Reading the member first and calling what it gives comes to the same, except that
the reading hands out a function value for them, which the library objects keep for the next
time. Functions and objects that are made after that are other ones than without it, so from the
same world the two calls come to the same up to which functions and objects they make.
-/

namespace ScriptHost

open ScriptHost.Action World

/-! ## What library objects have handed out -/

namespace World

/-- Function values that a library object has handed out for functions of its library do what
these do. -/
def Genuine (world : World) (given : List (LibraryFunction × FunctionId)) : Prop :=
  ∀ function made, given.lookup function = some made →
    world.functions[made.index]? = some (Builtin.library function).callable

/-- Every library object that an environment has made is there, with genuine function values. -/
def GenuineLibraries (world : World) : Prop :=
  ∀ id library made, (world.environment id).librariesMade.lookup library = some made →
    ∃ given, world.object made = .library library given ∧ world.Genuine given

/-- What a library object has handed out after a change it had handed out before, or it is
genuine. -/
theorem Change.members {old new : World} (change : Change old new) {id : ObjectId}
    {library : Library} {given : List (LibraryFunction × FunctionId)}
    (known : old.object id = .library library given) :
    ∃ more, new.object id = .library library more ∧
      ∀ function made, more.lookup function = some made →
        given.lookup function = some made ∨
          new.functions[made.index]? = some (Builtin.library function).callable := by
  cases change with
  | library other fresh missing =>
    have inside := old.index_lt_of_library known
    have same := old.object_push (.library fresh []) id
    rw [if_neg (Nat.ne_of_lt inside)] at same
    exact ⟨given, same.trans known, fun _ _ found => .inl found⟩
  | member other name made function there missing =>
    let grown : World :=
      { old with functions := old.functions.push (Builtin.library function).callable }
    let more := made ++ [(function, ⟨old.functions.size⟩)]
    have read := grown.object_setIfInBounds other id (.library name more)
    split at read
    · next here =>
      obtain rfl : id = other := by
        cases id
        cases other
        exact congrArg ObjectId.mk here.1
      obtain ⟨rfl, rfl⟩ := HostObject.library.inj (known.symm.trans there)
      refine ⟨more, read, fun wanted entry found => ?_⟩
      rcases lookup_append_singleton found with before | ⟨rfl, rfl⟩
      · exact .inl before
      · exact .inr Array.getElem?_push_size
    · exact ⟨given, read.trans known, fun _ _ found => .inl found⟩
  | _ => exact ⟨given, known, fun _ _ found => .inl found⟩

/-- A change leaves libraries genuine. -/
theorem GenuineLibraries.change {old new : World} (genuine : old.GenuineLibraries)
    (change : Change old new) : new.GenuineLibraries := by
  intro id library made known
  rcases change.librariesMade known with before | fresh
  · obtain ⟨given, there, right⟩ := genuine id library made before
    obtain ⟨more, later, handed⟩ := change.members there
    refine ⟨more, later, fun function value found => ?_⟩
    rcases handed function value found with earlier | now
    · exact change.kept.functions _ _ (right function value earlier)
    · exact now
  · exact ⟨[], fresh, fun _ _ found => nomatch found⟩

/-- An environment changed in other ways than the libraries it has made leaves libraries
genuine. -/
theorem GenuineLibraries.setEnvironment {world : World} (genuine : world.GenuineLibraries)
    {id : EnvironmentId} {environment : Environment}
    (same : environment.librariesMade = (world.environment id).librariesMade) :
    (world.setEnvironment id environment).GenuineLibraries := by
  intro other library made known
  rw [world.environment_common Environment.librariesMade same] at known
  exact genuine other library made known

/-- A deed leaves libraries genuine. -/
theorem GenuineLibraries.deed {old new : World} (genuine : old.GenuineLibraries)
    (deed : Deed old new) : new.GenuineLibraries := by
  cases deed with
  | function function =>
    intro id library made known
    obtain ⟨given, there, right⟩ := genuine id library made known
    exact ⟨given, there, fun wanted value found =>
      (Kept.pushFunction old function).functions _ _ (right wanted value found)⟩
  | object object =>
    intro id library made known
    obtain ⟨given, there, right⟩ := genuine id library made known
    have same := old.object_push object made
    rw [if_neg (Nat.ne_of_lt (old.index_lt_of_library there))] at same
    exact ⟨given, same.trans there, right⟩
  | environment heap sink compiler =>
    intro id library made known
    rw [environment_push { old with tables := old.tables.push {} }] at known
    split at known
    · contradiction
    · exact genuine id library made known
  | drop id => exact genuine.setEnvironment rfl
  | output id => exact genuine.setEnvironment rfl
  | _ => exact genuine

/-- Every course from a world without environments leaves libraries genuine. -/
theorem Course.genuineLibraries {files : Files} {world : World} (course : Course { files } world) :
    world.GenuineLibraries := by
  induction course with
  | refl =>
    intro id library made known
    contradiction
  | tail _ step ih =>
    cases step with
    | change change => exact ih.change change
    | deed deed => exact ih.deed deed
    | source id source => exact ih.setEnvironment rfl

end World

/-! ## What reading a member hands out -/

/-- The worlds that reading a member leads to: the same, or one with one more function value
handed out. -/
inductive World.HandsOut (world : World) : World → Prop where
  | nothing : HandsOut world world
  | methods (group : MethodGroup) :
    HandsOut world { world with
      functions := world.functions.push { name := group.label, body := .methods group } }
  | member (id : ObjectId) (library : Library) (made : List (LibraryFunction × FunctionId))
    (function : LibraryFunction) (known : world.object id = .library library made)
    (missing : made.lookup function = none) :
    HandsOut world (world.addMember id library made function)

/-- A method call and a call of the member come to the same in a world, in which the member call
perhaps hands out a function value first: from the world with that value, the method call has the
same results or both fail, and they leave the same world. -/
def MethodAgrees (method member : Action (List Value)) (world : World) : Prop :=
  ∃ later, world.HandsOut later ∧
    Agree (outcome method later) (outcome member world) ∧ left method later = left member world

/-- Outcomes that match: matching results, or none on both sides. -/
inductive AgreeUpTo (pairing : Pairing) :
    Except Interrupt (List Value) → Except Interrupt (List Value) → Prop where
  | result {results others : List Value} (matched : AllMatch pairing results others) :
    AgreeUpTo pairing (.ok results) (.ok others)
  | failure (first second : Interrupt) : AgreeUpTo pairing (.error first) (.error second)

/-- Two calls come to the same from one world up to which functions and objects they make: they give
matching results or fail both, and leave matching worlds. -/
def SameUpTo (pairing : Pairing) (method member : Action (List Value)) (world : World) : Prop :=
  ∃ large, pairing ≤ large ∧ AgreeUpTo large (outcome method world) (outcome member world) ∧
    World.Matches large (left method world) (left member world)

/-- Handing out a function value leaves the contents of a world. -/
theorem World.HandsOut.fills {world later : World} (handed : world.HandsOut later) :
    world.Fills later := by
  cases handed with
  | nothing => exact .refl
  | methods group =>
    exact .single ⟨.methods group, .of_made world _ world.objects⟩
  | member id library made function known missing =>
    exact .single ⟨.member id library made function known missing, .of_made world _ _⟩

namespace MethodAgrees

variable {method member : Action (List Value)} {world : World}

/-- Calls that agree come to the same from one world up to which functions and objects they make, if
in the world itself nothing hangs on that. -/
theorem sameUpTo (agrees : MethodAgrees method member world) {pairing : Pairing}
    (matched : World.Matches pairing world world)
    (blind : Action.Matches AllMatch pairing method method) :
    SameUpTo pairing method member world := by
  obtain ⟨later, handed, agree, same⟩ := agrees
  have run := blind pairing (le_refl _) world later (matched.fills handed.fills)
  unfold SameUpTo
  rw [← same]
  unfold outcome left at *
  generalize method world = ended at run ⊢
  generalize method later = otherEnded at run agree ⊢
  cases run with
  | ok grows worlds results =>
    refine ⟨_, grows, ?_, worlds⟩
    generalize member world = called at agree ⊢
    cases called with
    | ok others last =>
      cases agree with
      | result _ => exact .result results
    | error interrupt last => cases agree
  | error grows worlds interrupt =>
    refine ⟨_, grows, ?_, worlds⟩
    generalize member world = called at agree ⊢
    cases called with
    | ok others last => cases agree
    | error other last => exact .failure _ _

/-- Calls agree if the member call comes to what the method call does from the world with the value
handed out. -/
theorem of_run {later : World} {rest : Action (List Value)} (handed : world.HandsOut later)
    (run : member world = rest later) (alike : Alike method rest later) :
    MethodAgrees method member world := by
  obtain ⟨given, still⟩ := alike
  refine ⟨later, handed, ?_, ?_⟩
  · unfold outcome at given ⊢
    rw [run]
    exact given
  · unfold left at still ⊢
    rw [run]
    exact still

/-- Calls that are alike agree without anything handed out. -/
theorem of_alike (alike : Alike method member world) : MethodAgrees method member world :=
  of_run .nothing rfl alike

end MethodAgrees

/-! ## Members of host types -/

/-- A getter does nothing to a world and gives the same whatever the code around it holds. -/
structure Getter.PureIn (call : Caller) (world : World) (getter : Getter) : Prop where
  still : ∀ context, left (getter.read call context) world = world
  same : ∀ context other,
    outcome (getter.read call context) world = outcome (getter.read call other) world

/-- A getter that gives what the host remembers is pure. -/
theorem Getter.pureIn_remembered (depth : Nat) (world : World) (key : Value) :
    Getter.PureIn (callWithin (depth + 1)) world (.fetch (.remembered key)) := by
  have run (context : Context) : Getter.read (callWithin (depth + 1)) context
      (.fetch (.remembered key)) world = .ok (world.memory.get key) world := by
    unfold Getter.read callWithin
    rfl
  exact ⟨fun context => by rw [left, run], fun context other => by rw [outcome, outcome, run, run]⟩

/-- The fields of every host type have pure getters. -/
def World.PureFields (call : Caller) (world : World) : Prop :=
  ∀ (type : HostTypeId) name getter setter,
    (name, Member.field getter setter) ∈ (world.hostType type).members → getter.PureIn call world

namespace HostType

variable {type : HostType} {call : Caller} {context : Context} {name : String}

/-- A method call runs the overloads of the name. -/
theorem callMember_of_methods (other : name ≠ constructorName) {key : String}
    {overloads : List Overload}
    (found : type.find? name false = some (key, .methods overloads)) (arguments : List Value)
    (absent : Action Value) (refused : Action (List Value)) :
    type.callMember call context name arguments absent refused =
      call context (.body (.methods (type.group key overloads))) arguments := by
  unfold callMember methodGroup? bind?
  rw [if_neg other, found]
  rfl

/-- Calling a field with a pure getter and calling what reading it gives are alike. -/
theorem callMember_alike_of_field (other : name ≠ constructorName) {key : String}
    {getter : Getter} {setter : Option Setter} {world : World}
    (found : type.find? name false = some (key, .field getter setter))
    (unchanging : getter.PureIn call world) (arguments : List Value) (absent : Action Value)
    {refused : Action (List Value)} (refuses : Refuses refused) :
    Alike (type.callMember call context name arguments absent refused)
      (type.read call context name absent >>= fun value => value.apply call context arguments)
      world := by
  let busy := context.keep arguments
  have reads (context : Context) : type.read call context name absent =
      getter.read call context := by
    unfold read bind?
    rw [found]
    simp only [bind_assoc, pure_bind, Bound.toValue, bind_pure]
  -- A method call reads the field twice: to see that it is no method, and for its value.
  have twice : type.callMember call context name arguments absent refused =
      getter.read call busy >>= fun _ =>
        getter.read call busy >>= Value.callOr call context arguments refused := by
    unfold callMember methodGroup? bind?
    rw [if_neg other, found, reads]
    simp only [bind_assoc, pure_bind]
    rfl
  rw [twice, reads]
  cases given : outcome (getter.read call busy) world with
  | error interrupt =>
    obtain ⟨fails, still⟩ := bind_of_error (getter.read call busy)
      (fun _ => getter.read call busy >>= Value.callOr call context arguments refused) world given
    obtain ⟨otherFails, otherStill⟩ := bind_of_error (getter.read call context)
      (fun value => value.apply call context arguments) world
      ((unchanging.same context busy).trans given)
    constructor
    · rw [fails, otherFails]
      exact Agree.refl _
    · rw [still, otherStill, unchanging.still, unchanging.still]
  | ok value =>
    have run (context : Context) : getter.read call context world = .ok value world := by
      rw [eq_outcome_left (getter.read call context), unchanging.still,
        unchanging.same context busy, given]
    have alike : Alike (value.callOr call context arguments refused)
        (value.apply call context arguments) world :=
      Value.callOr_alike_apply refuses value world
    apply alike.of_run_eq
    · rw [bind_of_run_ok (run busy), bind_of_run_ok (run busy)]
    · rw [bind_of_run_ok (run context)]

end HostType

/-- Calling a method of a value agrees with calling the member that reading gives, if reading it and
calling its methods go by a host type, unless the name stands for the constructors. -/
theorem HostType.methodAgrees {type : HostType} {name : String} (other : name ≠ constructorName)
    {depth : Nat} {context : Context} {arguments : List Value} {method : Action (List Value)}
    {index absent : Action Value} {refused : Action (List Value)} (refuses : Refuses refused)
    {world : World}
    (unchanging : ∀ name getter setter, (name, Member.field getter setter) ∈ type.members →
      getter.PureIn (callWithin (depth + 1)) world)
    (reads : index world = type.read (callWithin (depth + 1)) context name absent world)
    (calls : ∀ later, world.HandsOut later → method later =
      type.callMember (callWithin (depth + 1)) context name arguments absent refused later) :
    MethodAgrees method
      (do Value.apply (callWithin (depth + 1)) context (← index) arguments) world := by
  have member := bind_of_run_eq reads fun value =>
    value.apply (callWithin (depth + 1)) context arguments
  have method' := calls world .nothing
  cases found : type.find? name false with
  | none =>
    rw [callMember_of_missing found, if_neg other] at method'
    rw [read_of_missing found] at member
    exact .of_alike ((Alike.after absent fun value _ =>
      Value.callOr_alike_apply refuses value _).of_run_eq method' member)
  | some entry =>
    obtain ⟨key, kind⟩ := entry
    cases kind with
    | field getter setter =>
      have pure' := unchanging key getter setter (mem_of_find? found)
      exact .of_alike ((callMember_alike_of_field other found pure' arguments absent
        refuses).of_run_eq method' member)
    | methods overloads =>
      let group := type.group key overloads
      let callable : Callable := { name := group.label, body := .methods group }
      let grown : World := { world with functions := world.functions.push callable }
      have handed : world.HandsOut grown := .methods group
      have made : grown.function ⟨world.functions.size⟩ = callable := by
        rw [function_push, if_pos rfl]
      have called : method grown =
          callWithin (depth + 1) context (.body (.methods group)) arguments grown := by
        rw [calls grown handed, callMember_of_methods other found]
      refine .of_run handed ?_ ((Alike.refl _ grown).of_run_eq called rfl)
      rw [member, bind_of_run_ok (read_of_methods found absent world)]
      exact callWithin_of_function made depth context arguments

/-! ## Members of libraries -/

namespace LibraryFunction

/-- Repetition looks at the heap of the environment that it runs in, and at nothing else. -/
theorem outcome_rep (arguments : List Value) {context entered : Context}
    (inside : entered.environment = context.environment) {first second : World}
    (environments : second.environments = first.environments) :
    outcome (TextLibrary.rep entered arguments) second =
      outcome (TextLibrary.rep context arguments) first := by
  have text := Arguments.text_plain arguments 0 "rep"
  have count := Arguments.integer_plain arguments 1 "rep" 1
  have heap (id : EnvironmentId) : second.environment id = first.environment id := by
    unfold World.environment
    rw [environments]
  unfold TextLibrary.rep
  rw [outcome_bind, outcome_bind, text.still, text.still, text.blind second first]
  split
  · rw [outcome_bind, outcome_bind, count.still, count.still, count.blind second first]
    split
    · dsimp only
      split
      · rfl
      · split
        · rfl
        · rw [outcome_view_bind, outcome_view_bind, inside]
          simp only [heap]
          split <;> rfl
    · rfl
  · rfl

/-- What a library function gives is up to the environment that it runs in and what the
environments are. -/
theorem outcome_run (function : LibraryFunction) (arguments : List Value)
    {context entered : Context} (inside : entered.environment = context.environment)
    {first second : World} (environments : second.environments = first.environments) :
    outcome (function.run entered arguments) second =
      outcome (function.run context arguments) first := by
  by_cases repeats : function = .rep
  · rw [repeats]
    exact outcome_rep arguments inside environments
  · have same : function.run entered arguments = function.run context arguments := by
      cases function <;> first | rfl | contradiction
    rw [same]
    exact (function.run_plain context arguments repeats).blind second first

/-- A library function changes nothing. -/
theorem left_run (context : Context) (arguments : List Value) (function : LibraryFunction)
    (world : World) : left (function.run context arguments) world = world := by
  have keeps : Keeps Eq (function.run context arguments) := function.run_keeps context arguments
  exact (keeps world).symm

end LibraryFunction

namespace ObjectId

variable {world : World} {id : ObjectId} {library : Library}
  {given : List (LibraryFunction × FunctionId)}

/-- A method call on a library runs the function of the name. -/
theorem applyMethod_of_function (known : world.object id = .library library given) {name : String}
    {function : LibraryFunction} (named : library.function? name false = some function)
    (call : Caller) (context : Context) (arguments : List Value) :
    Value.applyMethod call context (.object id) name arguments world =
      function.run context arguments world := by
  unfold Value.applyMethod callMember?
  dsimp only
  rw [bind_assoc, run_view_bind, known]
  dsimp only
  rw [named]
  simp only [bind_assoc, pure_bind, bind_pure]

/-- A library that has no function of a name gives its constant, or nothing. -/
theorem readMember?_of_no_function (known : world.object id = .library library given)
    {name : String} (unnamed : library.function? name false = none) (call : Caller)
    (context : Context) :
    id.readMember? call context name false world = .ok (library.constant? name false) world := by
  unfold readMember?
  rw [run_view_bind, known]
  dsimp only
  rw [unnamed]
  cases library.constant? name false <;> rfl

/-- A method call on a library calls the constant of the name where it has no function of it. -/
theorem applyMethod_of_no_function (known : world.object id = .library library given)
    {name : String} (unnamed : library.function? name false = none) (call : Caller)
    (context : Context) (arguments : List Value) :
    Value.applyMethod call context (.object id) name arguments world =
      ((library.constant? name false).getD .nil).callOr call context arguments (do
        let typeName ← view fun world => (world.object id).typeName world
        fault (.noCallableMember (.object typeName) name)) world := by
  unfold Value.applyMethod callMember?
  dsimp only
  rw [bind_assoc, run_view_bind, known]
  dsimp only
  rw [unnamed]
  dsimp only
  rw [pure_bind]
  dsimp only
  rw [bind_of_run_ok (readMember?_of_no_function known unnamed call (context.keep arguments))]
  cases library.constant? name false with
  | none => rfl
  | some value =>
    cases value with
    | reference target => cases target <;> rfl
    | _ => rfl

/-- Calling what is read of a host object is reading it first. -/
theorem apply_index (id : ObjectId) (call : Caller) (context : Context) (name : String)
    (arguments : List Value) :
    (do Value.apply call context (← Value.index call context (.object id) (.text name)) arguments) =
      id.readMember? call context name false >>= fun found =>
        (found.getD .nil).apply call context arguments := by
  show (id.readMember? call context name false >>= fun found => pure (found.getD .nil)) >>= _ = _
  simp only [bind_assoc, pure_bind]

/-- The value of a library function that a genuine library object gives stands for the function. -/
theorem libraryMember_spec (known : world.object id = .library library given)
    (genuine : world.Genuine given) (function : LibraryFunction) :
    ∃ made later more, id.libraryMember library given function world = .ok (.function made) later ∧
      world.HandsOut later ∧ later.object id = .library library more ∧
      later.function made = (Builtin.library function).callable := by
  cases before : given.lookup function with
  | some made =>
    refine ⟨made, world, given, by rw [libraryMember, before]; rfl, .nothing, known, ?_⟩
    unfold World.function
    rw [genuine function made before]
    rfl
  | none =>
    refine ⟨⟨world.functions.size⟩, world.addMember id library given function, _,
      by rw [libraryMember, before]; rfl, .member id library given function known before,
      (World.object_setIfInBounds
        { world with functions := world.functions.push (Builtin.library function).callable } id id
        _).trans (if_pos ⟨rfl, world.index_lt_of_library known⟩), ?_⟩
    exact (world.function_push (Builtin.library function).callable _).trans (if_pos rfl)

/-- Calling a method of a library agrees with calling the member that reading it gives. -/
theorem library_methodAgrees (known : world.object id = .library library given)
    (genuine : world.Genuine given) (depth : Nat) (context : Context) (name : String)
    (arguments : List Value) :
    let call := callWithin (depth + 1)
    MethodAgrees (Value.applyMethod call context (.object id) name arguments)
      (do Value.apply call context (← Value.index call context (.object id) (.text name)) arguments)
      world := by
  intro call
  rw [apply_index]
  cases named : library.function? name false with
  | some function =>
    -- Reading hands out the value of the function that the method call runs by itself.
    obtain ⟨made, later, more, gives, handed, there, stands⟩ :=
      libraryMember_spec known genuine function
    have member : (id.readMember? call context name false >>= fun found =>
        (found.getD .nil).apply call context arguments) world =
          function.run (context.keep arguments) arguments later := by
      rw [bind_of_run_eq (readMember?_library call context known named), bind_assoc]
      show EStateM.bind (id.libraryMember library given function) _ world = _
      unfold EStateM.bind
      rw [gives]
      exact callWithin_of_function stands depth context arguments
    have method := applyMethod_of_function there named call context arguments
    have alike : Alike (function.run context arguments)
        (function.run (context.keep arguments) arguments) later := by
      constructor
      · rw [function.outcome_run arguments rfl rfl]
        exact Agree.refl _
      · rw [function.left_run, function.left_run]
    exact .of_run handed member (alike.of_run_eq method rfl)
  | none =>
    -- Both read the member, a constant or none, and neither can call it.
    have run := bind_of_run_ok (readMember?_of_no_function known named call context)
      fun found => (found.getD .nil).apply call context arguments
    exact .of_alike ((Value.callOr_alike_apply (refuses_of_view _ _) _ world).of_run_eq
      (applyMethod_of_no_function known named call context arguments) run)

end ObjectId

/-! ## Method calls -/

/-- A value that has the members of a host type or of a library: a node that holds a type, a
package, or a library object that an environment has made. -/
inductive World.Offers (world : World) : Value → Prop where
  | node {id : NodeId} {type : HostTypeId} (resolved : world.tree.resolved? id = some type) :
    Offers world (.node id)
  | package {id : ObjectId} {type : HostTypeId} (proxy : world.object id = .package type) :
    Offers world (.object id)
  | library {environment : EnvironmentId} {library : Library} {id : ObjectId}
    (made : (world.environment environment).librariesMade.lookup library = some id) :
    Offers world (.object id)

/-- Handing out a function value leaves packages, host types and the tree alone. -/
theorem World.HandsOut.leaves {world later : World} (handed : world.HandsOut later) :
    (∀ id type, world.object id = .package type → later.object id = .package type) ∧
      later.hostTypes = world.hostTypes ∧ later.tree = world.tree := by
  cases handed with
  | nothing => exact ⟨fun _ _ known => known, rfl, rfl⟩
  | methods group => exact ⟨fun _ _ known => known, rfl, rfl⟩
  | member id library made function known missing =>
    have kept := (Change.member id library made function known missing).kept
    exact ⟨kept.packages, kept.hostTypes, rfl⟩

/-- A method call agrees with the call of the member, in the world in which reading the member has
handed out its function value. -/
theorem methodAgrees_of_offers {files : Files} {world : World} (past : Course { files } world)
    {object : Value} (offers : world.Offers object) {name : String}
    (other : name ≠ HostType.constructorName) (depth : Nat)
    (unchanging : world.PureFields (callWithin (depth + 1))) (context : Context)
    (arguments : List Value) :
    let call := callWithin (depth + 1)
    MethodAgrees (Value.applyMethod call context object name arguments)
      (do Value.apply call context (← Value.index call context object (.text name)) arguments)
      world := by
  intro call
  have keeps := callWithin_keeps (depth + 1)
  cases offers with
  | @node id type resolved =>
    have refuses : Refuses (fault (.noCallableMember (.type (world.hostType type).fullName) name) :
        Action (List Value)) := refuses_fault _
    refine HostType.methodAgrees other refuses (unchanging type)
      (id.index_of_resolved resolved call context name) fun later handed => ?_
    obtain ⟨_, hostTypes, tree⟩ := handed.leaves
    have same : later.hostType type = world.hostType type := by
      unfold World.hostType
      rw [hostTypes]
    have still : later.tree.resolved? id = some type := tree ▸ resolved
    rw [← same]
    exact id.applyMethod_of_resolved still keeps context name arguments
  | @package id type proxy =>
    have refuses : Refuses (do
        let typeName ← view fun world => (world.object id).typeName world
        fault (.noCallableMember (.object typeName) name) : Action (List Value)) :=
      refuses_of_view _ _
    refine HostType.methodAgrees other refuses (unchanging type)
      (id.index_of_package proxy call context name) fun later handed => ?_
    obtain ⟨packages, hostTypes, _⟩ := handed.leaves
    have same : later.hostType type = world.hostType type := by
      unfold World.hostType
      rw [hostTypes]
    rw [← same]
    exact id.applyMethod_of_package (packages id type proxy) keeps context name arguments
  | @library environment library id made =>
    obtain ⟨given, known, genuine⟩ := past.genuineLibraries environment library id made
    exact ObjectId.library_methodAgrees known genuine depth context name arguments

/-- A method call agrees with the call of a member. In every world that hosts and scripts bring
about, on a value that has the members of a host type or of a library, whatever code the host has put
behind them with nothing but getters that are pure, for every name but that of the constructors, in
every context and with any arguments: calling the method and calling what reading the member gives
have the same results, or both fail, and leave the same world. The reading may hand out a function
value for overloads or a library function first, and the method call starts from the world that has
it. Both from the same world, they have the same results or both fail and leave the same world up to
which functions and objects they make, as long as the code of the host takes functions and objects for
what they are: the world, the object and the arguments match themselves. -/
theorem method_calls_agree {files : Files} {world : World} (past : Course { files } world)
    {object : Value} (offers : world.Offers object) {name : String}
    (other : name ≠ HostType.constructorName) (depth : Nat)
    (unchanging : world.PureFields (callWithin (depth + 1))) (context : Context)
    (arguments : List Value) :
    let call := callWithin (depth + 1)
    let method := Value.applyMethod call context object name arguments
    let member := do
      Value.apply call context (← Value.index call context object (.text name)) arguments
    MethodAgrees method member world ∧
      ∀ pairing, World.Matches pairing world world → object.Matches pairing object →
        AllMatch pairing arguments arguments → SameUpTo pairing method member world := by
  intro call method member
  have agrees : MethodAgrees method member world :=
    methodAgrees_of_offers past offers other depth unchanging context arguments
  refine ⟨agrees, fun pairing worlds objects given => agrees.sameUpTo worlds ?_⟩
  exact Value.applyMethod_matches (callWithin_blind (depth + 1)) context objects name given

/-- Moves that fit any world run a course. -/
theorem course_of_fits (moves : List HostMove)
    (fits : ∀ move ∈ moves, ∀ world, move.Fits world) (world : World) :
    Course world (moves.foldl (fun world move => left move.perform world) world) := by
  induction moves generalizing world with
  | nil => exact .refl
  | cons move rest ih =>
    have first := move.course (fits move List.mem_cons_self world)
    exact first.trans (ih (fun other listed => fits other (List.mem_cons_of_mem _ listed)) _)

/-- Moves of a host that has a package of the register, the function value for printing as its
property, and a library. -/
def registerMoves : List HostMove :=
  [.launch {} (.capture "") .script, .register register, .makeObject (.package ⟨0⟩),
    .lookUp [] ⟨0⟩ "math", .lookUp [] ⟨0⟩ "print", .remember (.text "level") (.function ⟨0⟩)]

/-- The host after these moves. -/
def registerHost : World := registerMoves.foldl (fun world move => left move.perform world) {}

/-- The code of the register takes functions and objects for what they are. -/
theorem register_matches (pairing : Pairing) : register.Matches pairing register := by
  have kept : Routine.Matches pairing
      (fun arguments => .ask (.remember (.text "content") (arguments.headD .nil)))
      (fun arguments => .ask (.remember (.text "content") (arguments.headD .nil))) :=
    fun large _ arguments others given =>
      .step (.remember (.text "content") (AllMatch.headD given)) fun _ _ _ _ replies =>
        .done replies
  have level : Getter.Matches pairing (.fetch (.remembered (.text "level")))
      (.fetch (.remembered (.text "level"))) := by
    refine .step (.remembered (.text "level")) fun _ _ _ _ replies => ?_
    cases replies with
    | ok values => exact .done (AllMatch.headD values)
    | error failure => exact .done .nil
  have set : Setter.Matches pairing
      (fun value => (HostCode.ask (.remember (.text "level") value)).bind fun reply =>
        .done (reply.map fun _ => ()))
      (fun value => (HostCode.ask (.remember (.text "level") value)).bind fun reply =>
        .done (reply.map fun _ => ())) := by
    intro large _ value other values
    refine .step (.remember (.text "level") values) fun _ _ _ _ replies => ?_
    cases replies with
    | ok _ => exact .done (.ok rfl)
    | error failure => exact .done (.error failure)
  exact ⟨rfl, .cons ⟨rfl, .methods (.cons ⟨rfl, kept⟩ .nil)⟩
    (.cons ⟨rfl, .field level (.some set)⟩ .nil), .nil⟩

/-- In the host nothing hangs on which functions and objects there are. -/
theorem registerHost_matches :
    ∃ pairing, World.Matches pairing registerHost registerHost ∧
      (Value.object ⟨0⟩).Matches pairing (.object ⟨0⟩) ∧
      (Value.object ⟨1⟩).Matches pairing (.object ⟨1⟩) := by
  let launched : World := left (HostMove.launch {} (.capture "") .script).perform {}
  let registered : World := left (HostMove.register register).perform launched
  let packed : World := left (newObject (.package ⟨0⟩)) registered
  let counted : World := left (Environment.getGlobal caller [] ⟨0⟩ "math") packed
  obtain ⟨first, _, worlds⟩ := ((HostMove.Matches.launch {} (.capture "") .script).perform _
    (le_refl _) _ _ (World.matches_start [])).worlds
  obtain ⟨second, _, worlds⟩ := ((HostMove.Matches.register (register_matches first)).perform _
    (le_refl _) _ _ worlds).worlds
  have packs : Action.Matches Pairing.objects second (newObject (.package ⟨0⟩))
      (newObject (.package ⟨0⟩)) :=
    matches_newObject rfl (fun _ => rfl) fun _ => rfl
  have package : outcome (newObject (.package ⟨0⟩)) registered = .ok ⟨0⟩ := by decide +kernel
  obtain ⟨third, _, worlds, packages⟩ := (packs _ (le_refl _) _ _ worlds).results package package
  have library : outcome (Environment.getGlobal caller [] ⟨0⟩ "math") packed = .ok (.object ⟨1⟩) := by
    decide +kernel
  obtain ⟨fourth, grows, worlds, libraries⟩ := (Environment.getGlobal_matches caller_blind [] ⟨0⟩
    "math" _ (le_refl third) _ _ worlds).results library library
  have prints : outcome (Environment.getGlobal caller [] ⟨0⟩ "print") counted =
      .ok (.function ⟨0⟩) := by
    decide +kernel
  obtain ⟨fifth, more, worlds, functions⟩ := (Environment.getGlobal_matches caller_blind [] ⟨0⟩
    "print" _ (le_refl fourth) _ _ worlds).results prints prints
  obtain ⟨last, most, worlds⟩ := ((HostMove.Matches.remember (.text "level") functions).perform _
    (le_refl _) _ _ worlds).worlds
  exact ⟨last, worlds,
    .reference (.object (most.2 _ _ (more.2 _ _ (grows.2 _ _ packages)))),
    libraries.mono (le_trans more most)⟩

/-- Methods of the register, the function that its property has, and functions of the library are
called as methods and as members, from the same world up to which functions and objects are made. -/
theorem method_calls_agree_register :
    let call := callWithin 3
    let package := Value.object ⟨0⟩
    let math := Value.object ⟨1⟩
    let method (object : Value) (name : String) (arguments : List Value) :=
      Value.applyMethod call {} object name arguments
    let member (object : Value) (name : String) (arguments : List Value) := do
      Value.apply call {} (← Value.index call {} object (.text name)) arguments
    let agree (pairing : Pairing) (object : Value) (name : String) (arguments : List Value) :=
      MethodAgrees (method object name arguments) (member object name arguments) registerHost ∧
        SameUpTo pairing (method object name arguments) (member object name arguments) registerHost
    registerHost.PureFields call ∧
      ∃ pairing, World.Matches pairing registerHost registerHost ∧
        agree pairing package "exchange" [.ofNat 3] ∧ agree pairing package "level" [.text "on"] ∧
        agree pairing math "abs" [.ofNat 3] := by
  intro call package math method member agree
  have past : Course {} registerHost := by
    have fits : ∀ move ∈ registerMoves, ∀ world, move.Fits world := by
      simp [registerMoves, HostMove.Fits]
    exact course_of_fits registerMoves fits {}
  have unchanging : registerHost.PureFields call := by
    intro type name getter setter declared
    let registered : World := left (HostMove.makeObject (.package ⟨0⟩)).perform
      (left (HostMove.register register).perform
        (left (HostMove.launch {} (.capture "") .script).perform {}))
    have later : Later registered registerHost :=
      (((Environment.getGlobal_keeps caller_keeps [] ⟨0⟩ "math").discard _).trans
        ((Environment.getGlobal_keeps caller_keeps [] ⟨0⟩ "print").discard _)).trans
          ((remember_keeps (.text "level") (.function ⟨0⟩)).discard _)
    have types : registerHost.hostTypes = #[register] := later.kept.hostTypes
    have level : getter = .fetch (.remembered (.text "level")) := by
      unfold World.hostType at declared
      rw [types] at declared
      rcases type with ⟨_ | place⟩
      · simp [register, HostType.build, HostType.declare, findMember, putMember] at declared
        exact declared.2.1
      · simp at declared
        contradiction
    rw [level]
    exact Getter.pureIn_remembered 2 registerHost (.text "level")
  have proxy : registerHost.object ⟨0⟩ = .package ⟨0⟩ := by decide +kernel
  have made : (registerHost.environment ⟨0⟩).librariesMade.lookup .math = some ⟨1⟩ := by
    decide +kernel
  obtain ⟨pairing, worlds, packages, libraries⟩ := registerHost_matches
  obtain ⟨exchanges, exchanged⟩ :=
    method_calls_agree past (.package proxy) (by decide : "exchange" ≠ _) 2 unchanging {} [.ofNat 3]
  obtain ⟨levels, levelled⟩ :=
    method_calls_agree past (.package proxy) (by decide : "level" ≠ _) 2 unchanging {} [.text "on"]
  obtain ⟨computes, computed⟩ :=
    method_calls_agree past (.library made) (by decide : "abs" ≠ _) 2 unchanging {} [.ofNat 3]
  exact ⟨unchanging, pairing, worlds,
    ⟨exchanges, exchanged pairing worlds packages (AllMatch.singleton (.ofNat 3))⟩,
    ⟨levels, levelled pairing worlds packages (AllMatch.singleton (.text "on"))⟩,
    ⟨computes, computed pairing worlds libraries (AllMatch.singleton (.ofNat 3))⟩⟩

end ScriptHost
