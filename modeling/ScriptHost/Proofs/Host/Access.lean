import ScriptHost.Proofs.Evaluation.Effects
import ScriptHost.Proofs.TypeTree.Learning

/-!
# Access to the members of a host type

A node that holds a host type and a package of it get at its members on ways of their own:
the node makes a child where there is no member, the package gives nothing. In terms of the
host type both read and call its members alike, up to what they do where there is no such
member and how they refuse a member that cannot be called.
-/

namespace ScriptHost

open ScriptHost.Action World

namespace Action

variable {First Second : Type}

/-- Two outcomes are the same result, or both are none. -/
inductive Agree : Except Interrupt First → Except Interrupt First → Prop where
  | result (result : First) : Agree (.ok result) (.ok result)
  | failure (first second : Interrupt) : Agree (.error first) (.error second)

/-- An outcome agrees with itself. -/
theorem Agree.refl (outcome : Except Interrupt First) : Agree outcome outcome := by
  cases outcome with
  | ok result => exact .result result
  | error interrupt => exact .failure interrupt interrupt

/-- Two actions have outcomes in a world that agree, and leave the same world. -/
structure Alike (first second : Action First) (world : World) : Prop where
  outcome : Agree (outcome first world) (outcome second world)
  left : left first world = left second world

/-- An action is like itself. -/
theorem Alike.refl (action : Action First) (world : World) : Alike action action world :=
  ⟨Agree.refl _, rfl⟩

/-- Actions that start with the same step are alike if their second steps are for what the first one
gives. -/
theorem Alike.after (step : Action First) {first second : First → Action Second} {world : World}
    (alike : ∀ result, Action.outcome step world = .ok result →
      Alike (first result) (second result) (Action.left step world)) :
    Alike (step >>= first) (step >>= second) world := by
  cases given : Action.outcome step world with
  | ok result =>
    obtain ⟨firstGiven, firstLeft⟩ := bind_of_ok step first world given
    obtain ⟨secondGiven, secondLeft⟩ := bind_of_ok step second world given
    have rest := alike result given
    exact ⟨by rw [firstGiven, secondGiven]; exact rest.outcome,
      by rw [firstLeft, secondLeft]; exact rest.left⟩
  | error interrupt =>
    obtain ⟨firstGiven, firstLeft⟩ := bind_of_error step first world given
    obtain ⟨secondGiven, secondLeft⟩ := bind_of_error step second world given
    exact ⟨by rw [firstGiven, secondGiven]; exact Agree.refl _, by rw [firstLeft, secondLeft]⟩

/-- Whether two actions are alike is up to how they run. -/
theorem Alike.of_run_eq {first second other third : Action First} {world : World}
    (alike : Alike other third world) (firstRun : first world = other world)
    (secondRun : second world = third world) : Alike first second world := by
  obtain ⟨outcome, left⟩ := alike
  constructor
  · unfold Action.outcome at outcome ⊢
    rw [firstRun, secondRun]
    exact outcome
  · unfold Action.left at left ⊢
    rw [firstRun, secondRun]
    exact left

/-- An action gives nothing and changes nothing. -/
def Refuses (action : Action First) : Prop :=
  ∀ world, ∃ interrupt, action world = .error interrupt world

/-- A fault that names something of the world refuses. -/
theorem refuses_of_view {Seen : Type} (look : World → Seen) (cause : Seen → TypeFault) :
    Refuses (do let seen ← view look; fault (cause seen) : Action First) :=
  fun _ => ⟨_, rfl⟩

/-- A fault refuses. -/
theorem refuses_fault (cause : TypeFault) : Refuses (fault cause : Action First) :=
  fun _ => ⟨_, rfl⟩

/-- Actions that refuse are alike. -/
theorem Refuses.alike {first second : Action First} (refuses : Refuses first)
    (otherRefuses : Refuses second) (world : World) : Alike first second world := by
  obtain ⟨interrupt, given⟩ := refuses world
  obtain ⟨other, otherGiven⟩ := otherRefuses world
  constructor
  · unfold Action.outcome
    rw [given, otherGiven]
    exact .failure interrupt other
  · unfold Action.left
    rw [given, otherGiven]

end Action

/-- Call a value that is a function, and do something else with any other value. -/
def Value.callOr (call : Caller) (context : Context) (arguments : List Value)
    (refused : Action (List Value)) : Value → Action (List Value)
  | .reference (.function function) => call context function arguments
  | _ => refused

namespace Value

variable {call : Caller} {context : Context} {arguments : List Value}
  {refused otherRefused : Action (List Value)}

/-- Calling a value is alike whatever is refused if it is no function. -/
theorem callOr_alike (refuses : Refuses refused) (otherRefuses : Refuses otherRefused)
    (value : Value) (world : World) :
    Alike (value.callOr call context arguments refused)
      (value.callOr call context arguments otherRefused) world := by
  unfold callOr
  split
  · exact Alike.refl _ world
  · exact refuses.alike otherRefuses world

/-- A call of a value is one that refuses what is no function. -/
theorem apply_eq_callOr (value : Value) :
    value.apply call context arguments =
      value.callOr call context arguments (fault (.notCallable value.kind)) := by
  cases value with
  | reference target => cases target <;> rfl
  | _ => rfl

/-- A call of a value is like one that refuses what is no function in another way. -/
theorem callOr_alike_apply (refuses : Refuses refused) (value : Value) (world : World) :
    Alike (value.callOr call context arguments refused) (value.apply call context arguments)
      world := by
  rw [apply_eq_callOr]
  exact callOr_alike refuses (refuses_fault _) value world

end Value

/-! ## Calls -/

/-- A call runs the function that the value stands for. -/
theorem callWithin_of_function {world : World} {id : FunctionId} {callable : Callable}
    (known : world.function id = callable) (depth : Nat) (context : Context)
    (arguments : List Value) :
    callWithin (depth + 1) context id arguments world =
      callable.run (callWithin depth) context arguments world := by
  have stands : world.callable (.function id) = callable := known
  unfold callWithin
  rw [run_view_bind, stands]

/-! ## Members of host types -/

namespace HostType

variable (type : HostType) (call : Caller) (context : Context) (name : String)

/-- Read a member of a host type, and do something else where there is none of the name. -/
def read (absent : Action Value) : Action Value := do
  match ← type.bind? call context name false with
  | some bound => bound.toValue
  | none => absent

/-- Call a member of a host type: its overloads, or else the function that reading it gives. -/
def callMember (arguments : List Value) (absent : Action Value) (refused : Action (List Value)) :
    Action (List Value) := do
  match ← type.methodGroup? call (context.keep arguments) name false with
  | some group => call context (.body (.methods group)) arguments
  | none =>
    type.read call (context.keep arguments) name absent >>=
      Value.callOr call context arguments refused

/-- Assign to a field of a host type, and refuse where there is none of the name. -/
def store (value : Value) (refused : Action Unit) : Action Unit := do
  if ← type.assign call context name value false then return () else refused

section Members

variable {type : HostType} {call : Caller} {context : Context} {name : String}

/-- Reading a member that there is does not come to what is done where there is none. -/
theorem read_of_found {entry : String × Member} (found : type.find? name false = some entry)
    (absent otherAbsent : Action Value) :
    type.read call context name absent = type.read call context name otherAbsent := by
  obtain ⟨key, member⟩ := entry
  unfold read bind?
  rw [found]
  cases member with
  | field getter setter => simp only [bind_assoc, pure_bind]
  | methods overloads => rfl

/-- Reading a member that there is not comes to what is done then. -/
theorem read_of_missing (missing : type.find? name false = none) (absent : Action Value) :
    type.read call context name absent = absent := by
  unfold read bind?
  rw [missing]
  rfl

/-- Reading a method gives a new function value of its overloads. -/
theorem read_of_methods {key : String} {overloads : List Overload}
    (found : type.find? name false = some (key, .methods overloads)) (absent : Action Value)
    (world : World) :
    let group := type.group key overloads
    type.read call context name absent world =
      .ok (.function ⟨world.functions.size⟩)
        { world with
          functions := world.functions.push { name := group.label, body := .methods group } } := by
  unfold read bind?
  rw [found]
  rfl

/-- Calling a member that there is not runs the constructors, or calls what is done then gives. -/
theorem callMember_of_missing (missing : type.find? name false = none) (arguments : List Value)
    (absent : Action Value) (refused : Action (List Value)) :
    type.callMember call context name arguments absent refused =
      match if name = constructorName then type.constructorGroup? else none with
      | some group => call context (.body (.methods group)) arguments
      | none => absent >>= Value.callOr call context arguments refused := by
  have chosen : type.methodGroup? call (context.keep arguments) name false =
      pure (if name = constructorName then type.constructorGroup? else none) := by
    unfold methodGroup? bind?
    rw [missing]
    split <;> rfl
  unfold callMember
  rw [chosen, read_of_missing missing, pure_bind]

end Members

end HostType

/-! ## Nodes -/

namespace NodeId

variable {world : World} {id : NodeId} {type : HostTypeId}
  (resolved : world.tree.resolved? id = some type)
include resolved

/-- A node that holds a type gives it and learns nothing. -/
theorem knownType_of_resolved : id.knownType world = .ok (some type) world := by
  obtain ⟨node, found, held⟩ := Option.bind_eq_some_iff.mp resolved
  have answer : world.tree.resolve world.registry id = (some type, world.tree) := by
    unfold TypeTree.resolve
    rw [found]
    dsimp only
    rw [held]
  show EStateM.Result.ok (world.tree.resolve world.registry id).1
    { world with tree := (world.tree.resolve world.registry id).2 } = _
  rw [answer]

/-- A node that holds a type has the one that is required. -/
theorem requiredType_of_resolved : id.requiredType world = .ok type world := by
  unfold requiredType
  rw [bind_of_run_ok (knownType_of_resolved resolved)]
  rfl

/-- A node that holds a type reads a member of the type, or makes a child. -/
theorem readMember_of_resolved (call : Caller) (context : Context) (name : String) :
    id.readMember call context name false world =
      (world.hostType type).read call context name
        (do return .node (← id.child name false).1) world := by
  unfold readMember
  rw [bind_of_run_ok (knownType_of_resolved resolved)]
  dsimp only
  rw [run_view_bind]
  rfl

/-- A node that holds a type is indexed by reading a member of the type, or a child. -/
theorem index_of_resolved (call : Caller) (context : Context) (name : String) :
    Value.index call context (.node id) (.text name) world =
      (world.hostType type).read call context name
        (do return .node (← id.child name false).1) world :=
  readMember_of_resolved resolved call context name

/-- A node that holds a type calls a member of the type, and makes a child where there is none. -/
theorem applyMethod_of_resolved {call : Caller} (keeps : call.Keeps) (context : Context)
    (name : String) (arguments : List Value) :
    Value.applyMethod call context (.node id) name arguments world =
      (world.hostType type).callMember call context name arguments
        (do return .node (← id.child name false).1)
        (fault (.noCallableMember (.type (world.hostType type).fullName) name)) world := by
  show id.callMember call context name arguments false world = _
  unfold callMember
  rw [bind_of_run_ok (requiredType_of_resolved resolved), run_view_bind]
  unfold HostType.callMember
  refine bind_congr_run fun group _ => ?_
  cases group with
  | some group => rfl
  | none =>
    -- What has run to find the method leaves the type with the node, and as it was.
    let step := (world.hostType type).methodGroup? call (context.keep arguments) name false
    have later : Later world (left step world) :=
      (world.hostType type).methodGroup?_keeps keeps _ name false world
    have still := later.learned.resolved? resolved
    have same : (left step world).hostType type = world.hostType type := by
      unfold World.hostType
      rw [later.kept.hostTypes]
    have read := readMember_of_resolved still call (context.keep arguments) name
    rw [same] at read
    exact bind_of_run_eq read _

/-- A node that holds a type assigns to a field of the type. -/
theorem store_of_resolved (call : Caller) (held : List Reference) (environment : EnvironmentId)
    (name : String) (value : Value) :
    Value.store call held environment (.node id) (.text name) value world =
      (world.hostType type).store call { held } name value
        (fault (.noSettableMember (.type (world.hostType type).fullName) name)) world := by
  show id.writeMember call { held } name value false world = _
  unfold writeMember
  rw [bind_of_run_ok (requiredType_of_resolved resolved), run_view_bind]
  rfl

end NodeId

/-! ## Packages -/

namespace ObjectId

variable {world : World} {id : ObjectId} {type : HostTypeId}
  (known : world.object id = .package type)
include known

/-- A package has the members of its type. -/
theorem readMember?_of_package (call : Caller) (context : Context) (name : String)
    (ignoreCase : Bool) :
    id.readMember? call context name ignoreCase world =
      (do
        match ← (world.hostType type).bind? call context name ignoreCase with
        | some bound => return some (← bound.toValue)
        | none => return none : Action (Option Value)) world := by
  unfold readMember?
  rw [run_view_bind, known]
  rfl

/-- A package reads a member of its type, or gives nothing. -/
theorem index_of_package (call : Caller) (context : Context) (name : String) :
    Value.index call context (.object id) (.text name) world =
      (world.hostType type).read call context name (pure .nil) world := by
  show (do return (← id.readMember? call context name false).getD .nil : Action Value) world = _
  rw [bind_of_run_eq (readMember?_of_package known call context name false)]
  unfold HostType.read
  rw [bind_assoc]
  refine bind_congr_run fun bound _ => ?_
  cases bound with
  | none => rfl
  | some bound =>
    dsimp only
    rw [bind_assoc]
    simp only [pure_bind, Option.getD_some, bind_pure]

/-- A package calls a member of its type, and refuses where there is none. -/
theorem applyMethod_of_package {call : Caller} (keeps : call.Keeps) (context : Context)
    (name : String) (arguments : List Value) :
    Value.applyMethod call context (.object id) name arguments world =
      (world.hostType type).callMember call context name arguments (pure .nil)
        (do
          let typeName ← view fun world => (world.object id).typeName world
          fault (.noCallableMember (.object typeName) name)) world := by
  unfold Value.applyMethod callMember? HostType.callMember
  dsimp only
  rw [bind_assoc, run_view_bind, known]
  dsimp only
  rw [bind_assoc, run_view_bind, bind_assoc]
  refine bind_congr_run fun group _ => ?_
  cases group with
  | some group =>
    dsimp only
    rw [bind_assoc]
    simp only [pure_bind, bind_pure]
  | none =>
    -- What has run to find the method leaves the package one of the type, and that as it was.
    let step := (world.hostType type).methodGroup? call (context.keep arguments) name false
    have later : Later world (left step world) :=
      (world.hostType type).methodGroup?_keeps keeps _ name false world
    have still := later.kept.packages id type known
    have same : (left step world).hostType type = world.hostType type := by
      unfold World.hostType
      rw [later.kept.hostTypes]
    have read := readMember?_of_package still call (context.keep arguments) name false
    rw [same] at read
    show (id.readMember? call (context.keep arguments) name false >>= _) (left step world) = _
    rw [bind_of_run_eq read]
    unfold HostType.read
    rw [bind_assoc, bind_assoc]
    refine bind_congr_run fun bound _ => ?_
    cases bound with
    | none => rfl
    | some bound =>
      dsimp only
      rw [bind_assoc]
      refine bind_congr_run fun value _ => ?_
      cases value with
      | reference target => cases target <;> rfl
      | _ => rfl

/-- A package assigns to a field of its type. -/
theorem store_of_package (call : Caller) (held : List Reference) (environment : EnvironmentId)
    (name : String) (value : Value) :
    Value.store call held environment (.object id) (.text name) value world =
      (world.hostType type).store call { held } name value
        (do
          let typeName ← view fun world => (world.object id).typeName world
          fault (.noSettableMember (.object typeName) name)) world := by
  have written : id.writeMember call { held } name value world =
      (world.hostType type).assign call { held } name value false world := by
    unfold writeMember
    rw [run_view_bind, known]
    rfl
  unfold Value.store HostType.store keyName
  dsimp only
  rw [pure_bind, bind_of_run_eq written]

end ObjectId

end ScriptHost
