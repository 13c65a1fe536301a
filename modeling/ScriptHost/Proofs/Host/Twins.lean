import ScriptHost.Proofs.Environment.Remembered
import ScriptHost.Proofs.Host.Access

/-!
# Packages and nodes of one host type

A package of a host type and a node that holds the type are twins: scripts cannot tell them
apart by the members of the type. Reading a member of either runs the same code of the host and
gives the same field value or functions that do the same, assigning to either has the same
effect, and calling a member of either gives the same results or fails on both.
-/

namespace ScriptHost

open ScriptHost.Action World

/-! ## Functions that do the same -/

/-- Function values of a world do the same: whatever happens to the world from then on, calling the
one and calling the other is the same run, with its results or its failure and with all that it
changes. -/
def DoSame (world : World) (function other : FunctionId) : Prop :=
  ∀ last, Remembers world last → ∀ depth context arguments,
    callWithin depth context function arguments last = callWithin depth context other arguments last

/-- Function values of the same overloads do the same. -/
theorem doSame_of_methods {world : World} {function other : FunctionId} {name : String}
    {group : MethodGroup}
    (known : world.functions[function.index]? = some { name, body := .methods group })
    (otherKnown : world.functions[other.index]? = some { name, body := .methods group }) :
    DoSame world function other := by
  intro last remembers depth context arguments
  have stands {id : FunctionId}
      (found : world.functions[id.index]? = some { name, body := .methods group }) :
      last.function id = { name, body := .methods group } := by
    unfold World.function
    rw [remembers.functions _ _ found]
    rfl
  cases depth with
  | zero => rfl
  | succ depth =>
    rw [callWithin_of_function (stands known), callWithin_of_function (stands otherKnown)]

/-! ## Twins -/

/-- A package and a node of one host type. -/
structure World.Twins (world : World) (package : ObjectId) (node : NodeId) (type : HostTypeId) :
    Prop where
  proxy : world.object package = .package type
  resolved : world.tree.resolved? node = some type

/-- Two ways of reading a member of a host type come to the same. Where the type has the member,
they are the same run, and of a method, read in the one way and then in the other, they give
functions that do the same. Where it has none, the first one gives `nil` and changes nothing, and
the second one gives a node and changes nothing but the tree. -/
def ReadAlike (type : HostType) (name : String) (read otherRead : Action Value) (world : World) :
    Prop :=
  match type.find? name false with
  | some (_, .field _ _) => otherRead world = read world
  | some (_, .methods _) =>
    otherRead world = read world ∧
      ∃ function other, outcome read world = .ok (.function function) ∧
        outcome otherRead (left read world) = .ok (.function other) ∧
        DoSame (left otherRead (left read world)) function other
  | none =>
    read world = .ok .nil world ∧
      ∃ child tree, otherRead world = .ok (.node child) { world with tree }

/-- Two calls give the same results, or both fail. They leave the same world, but for the tree where
the host type has no member of the name. -/
def CallAlike (type : HostType) (name : String) (calls otherCalls : Action (List Value))
    (world : World) : Prop :=
  Agree (outcome calls world) (outcome otherCalls world) ∧
    ∃ tree, left otherCalls world = { left calls world with tree } ∧
      ((type.find? name false).isSome → tree = (left calls world).tree)

/-- Calls that come to the same and leave the same world are alike. -/
theorem Action.Alike.callAlike {type : HostType} {name : String}
    {calls otherCalls : Action (List Value)} {world : World}
    (alike : Alike calls otherCalls world) : CallAlike type name calls otherCalls world :=
  ⟨alike.outcome, (Action.left calls world).tree, alike.left.symm, fun _ => rfl⟩

/-- Calls of a member are alike however they are refused, and whether or not a child is made where
there is no such member. -/
theorem HostType.callMember_alike (type : HostType) (call : Caller) (context : Context)
    (name : String) (arguments : List Value) {refused otherRefused : Action (List Value)}
    (refuses : Refuses refused) (otherRefuses : Refuses otherRefused) (node : NodeId)
    (world : World) :
    CallAlike type name
      (type.callMember call context name arguments (pure .nil) refused)
      (type.callMember call context name arguments
        (do return .node (← node.child name false).1) otherRefused) world := by
  let calls := type.callMember call context name arguments (pure .nil) refused
  let otherCalls := type.callMember call context name arguments
    (do return .node (← node.child name false).1) otherRefused
  show CallAlike type name calls otherCalls world
  cases found : type.find? name false with
  | some entry =>
    -- The same code runs up to the value of the member, which only the refusals treat apart.
    apply Alike.callAlike
    apply Alike.after
    intro group _
    cases group with
    | some group => exact Alike.refl _ _
    | none =>
      dsimp only
      rw [read_of_found found (do return .node (← node.child name false).1) (pure .nil)]
      exact Alike.after _ fun value _ => Value.callOr_alike refuses otherRefuses value _
  | none =>
    unfold calls otherCalls
    rw [callMember_of_missing found, callMember_of_missing found]
    cases if name = constructorName then type.constructorGroup? else none with
    | some group => exact (Alike.refl _ world).callAlike
    | none =>
      dsimp only
      let grown : World := left (node.child name false) world
      obtain ⟨interrupt, given⟩ := refuses world
      obtain ⟨other, otherGiven⟩ := otherRefuses grown
      have fails : (pure Value.nil >>= Value.callOr call context arguments refused) world =
          .error interrupt world := given
      have otherFails :
          ((do return Value.node (← node.child name false).1) >>=
            Value.callOr call context arguments otherRefused) world = .error other grown :=
        otherGiven
      constructor
      · rw [outcome, outcome, fails, otherFails]
        exact .failure interrupt other
      · rw [left, left, fails, otherFails, found]
        exact ⟨grown.tree, rfl, nofun⟩

/-- Assignments to a host type are alike however they are refused. -/
theorem HostType.store_alike (type : HostType) (call : Caller) (context : Context) (name : String)
    (value : Value) {refused otherRefused : Action Unit} (refuses : Refuses refused)
    (otherRefuses : Refuses otherRefused) (world : World) :
    Alike (type.store call context name value refused)
      (type.store call context name value otherRefused) world := by
  apply Alike.after
  intro assigned _
  split
  · exact Alike.refl _ _
  · exact refuses.alike otherRefuses _

namespace World.Twins

variable {world : World} {package : ObjectId} {node : NodeId} {type : HostTypeId}
  (twins : world.Twins package node type)
include twins

/-- Twins stay twins in every later world. -/
theorem later {new : World} (later : Later world new) : new.Twins package node type where
  proxy := later.kept.packages package type twins.proxy
  resolved := later.learned.resolved? twins.resolved

/-- Twins read alike. -/
theorem readAlike (call : Caller) (context : Context) (name : String) :
    ReadAlike (world.hostType type) name (Value.index call context (.object package) (.text name))
      (Value.index call context (.node node) (.text name)) world := by
  have run := ObjectId.index_of_package twins.proxy call context name
  have otherRun := NodeId.index_of_resolved twins.resolved call context name
  unfold ReadAlike
  cases found : (world.hostType type).find? name false with
  | none =>
    rw [HostType.read_of_missing found] at run otherRun
    exact ⟨run, _, _, otherRun⟩
  | some entry =>
    have same : Value.index call context (.node node) (.text name) world =
        Value.index call context (.object package) (.text name) world := by
      rw [run, otherRun, HostType.read_of_found found]
    obtain ⟨key, member⟩ := entry
    cases member with
    | field getter setter => exact same
    | methods overloads =>
      let group := (world.hostType type).group key overloads
      let callable : Callable := { name := group.label, body := .methods group }
      let grown : World := { world with functions := world.functions.push callable }
      rw [HostType.read_of_methods found] at run
      have resolved : grown.tree.resolved? node = some type := twins.resolved
      have again := NodeId.index_of_resolved resolved call context name
      have still : (grown.hostType type).find? name false = some (key, .methods overloads) := found
      rw [HostType.read_of_methods still] at again
      refine ⟨same, ⟨world.functions.size⟩, ⟨grown.functions.size⟩, ?_, ?_, ?_⟩
      · rw [outcome, run]
      · rw [left, run, outcome, again]
      · rw [left, left, run, again]
        have made : grown.functions[world.functions.size]? = some callable :=
          Array.getElem?_push_size
        exact doSame_of_methods (Array.getElem?_push_of_some made _) Array.getElem?_push_size

/-- Twins are assigned to alike. -/
theorem storeAlike (call : Caller) (held : List Reference) (environment : EnvironmentId)
    (name : String) (value : Value) :
    Alike (Value.store call held environment (.object package) (.text name) value)
      (Value.store call held environment (.node node) (.text name) value) world :=
  ((world.hostType type).store_alike call { held } name value (refuses_of_view _ _)
    (refuses_fault _) world).of_run_eq
      (ObjectId.store_of_package twins.proxy call held environment name value)
      (NodeId.store_of_resolved twins.resolved call held environment name value)

/-- Methods of twins are called alike. -/
theorem callAlike {call : Caller} (keeps : call.Keeps) (context : Context) (name : String)
    (arguments : List Value) :
    CallAlike (world.hostType type) name
      (Value.applyMethod call context (.object package) name arguments)
      (Value.applyMethod call context (.node node) name arguments) world := by
  have run := ObjectId.applyMethod_of_package twins.proxy keeps context name arguments
  have otherRun := NodeId.applyMethod_of_resolved twins.resolved keeps context name arguments
  have alike := (world.hostType type).callMember_alike call context name arguments
    (refuses_of_view (fun world => (world.object package).typeName world) fun typeName =>
      .noCallableMember (.object typeName) name)
    (refuses_fault (.noCallableMember (.type (world.hostType type).fullName) name)) node world
  unfold CallAlike outcome left at alike ⊢
  rw [run, otherRun]
  exact alike

end World.Twins

/-- Twins behave alike, whatever code the host has put behind the members of their type. From one
world, reading a member of either is the same run and gives the same field value or functions that
do the same, assigning any value to any name of either succeeds with the same effect or fails on
both, and calling any name, that of the constructors among them, gives the same results or fails on
both and has the same effect. Where the type has no member of a name, the package gives `nil` and
the node a child. -/
theorem twins_behave_alike {world : World} {package : ObjectId} {node : NodeId}
    {type : HostTypeId} (twins : world.Twins package node type) (depth : Nat) :
    let call := callWithin depth
    (∀ (context : Context) (name : String),
      ReadAlike (world.hostType type) name
        (Value.index call context (.object package) (.text name))
        (Value.index call context (.node node) (.text name)) world) ∧
    (∀ (held : List Reference) (environment : EnvironmentId) (name : String) (value : Value),
      Alike (Value.store call held environment (.object package) (.text name) value)
        (Value.store call held environment (.node node) (.text name) value) world) ∧
    ∀ (context : Context) (name : String) (arguments : List Value),
      CallAlike (world.hostType type) name
        (Value.applyMethod call context (.object package) name arguments)
        (Value.applyMethod call context (.node node) name arguments) world :=
  ⟨twins.readAlike (callWithin depth), twins.storeAlike (callWithin depth),
    twins.callAlike (callWithin_keeps depth)⟩

/-- A host type whose method and property keep what they are given, and without constructors. -/
def register : HostType :=
  .build "Register"
    [.method "exchange" ⟨some 1, fun arguments =>
        .ask (.remember (.text "content") (arguments.headD .nil))⟩,
      .property "level" (.fetch (.remembered (.text "level"))) fun value =>
        (HostCode.ask (.remember (.text "level") value)).bind fun reply =>
          .done (reply.map fun _ => ())]

/-- A world with a package of the register and a node that has been asked for its type. -/
def registerTwins : World :=
  left (do (← NodeId.child TypeTree.root "Register" false).1.knownType)
    { hostTypes := #[register]
      objects := #[.package ⟨0⟩]
      registry := Registry.register {} "Register" ⟨0⟩ }

/-- Of twins both give the method as functions that do the same, both take values for the property,
both exchange what the method has been given before, and neither constructs. -/
theorem twins_behave_alike_register :
    let call := callWithin 2
    let package := Value.object ⟨0⟩
    let node := Value.node ⟨1⟩
    let exchange (object : Value) := Value.applyMethod call {} object "exchange" [.ofNat 2]
    let construct (object : Value) := Value.applyMethod call {} object HostType.constructorName []
    let world := left (Value.applyMethod call {} package "exchange" [.ofNat 1]) registerTwins
    world.Twins ⟨0⟩ ⟨1⟩ ⟨0⟩ ∧ outcome (exchange package) world = .ok [.ofNat 1] ∧
      CallAlike register "exchange" (exchange package) (exchange node) world ∧
      CallAlike register HostType.constructorName (construct package) (construct node) world ∧
      ReadAlike register "exchange" (Value.index call {} package (.text "exchange"))
        (Value.index call {} node (.text "exchange")) world ∧
      Alike (Value.store call [] ⟨0⟩ package (.text "level") (.ofNat 3))
        (Value.store call [] ⟨0⟩ node (.text "level") (.ofNat 3)) world := by
  intro call package node exchange construct world
  have twins : world.Twins ⟨0⟩ ⟨1⟩ ⟨0⟩ := ⟨rfl, by decide +kernel⟩
  obtain ⟨reads, stores, calls⟩ := twins_behave_alike twins 2
  exact ⟨twins, rfl, calls {} "exchange" [.ofNat 2], calls {} HostType.constructorName [],
    reads {} "exchange", stores [] ⟨0⟩ "level" (.ofNat 3)⟩

end ScriptHost
