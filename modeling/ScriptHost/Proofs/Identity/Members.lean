import ScriptHost.Proofs.Identity.Libraries
import ScriptHost.Proofs.Identity.Lookups

/-!
# Members match

Reading, assigning and calling members of nodes and host objects match when what they are given
does, given that calls do. A library object hands out the function value that it has, or a new
one, which is paired with what the other side hands out.
-/

namespace ScriptHost

open ScriptHost.Action World

variable {pairing : Pairing}

/-! ## Host types -/

/-- Members that are bound to matching values or groups. -/
inductive Bound.Matches (pairing : Pairing) : Bound → Bound → Prop where
  | value {content other : Value} (values : content.Matches pairing other) :
    Matches pairing (.value content) (.value other)
  | methods {group other : MethodGroup} (groups : group.Matches pairing other) :
    Matches pairing (.methods group) (.methods other)

instance Bound.lasting : Lasting Bound.Matches := by
  constructor
  intro small large left right grows matched
  cases matched with
  | value values => exact .value (values.mono grows)
  | methods groups => exact .methods (Lasting.mono grows groups)

/-- The values of matching members match. -/
theorem Bound.toValue_matches {bound other : Bound} (matched : bound.Matches pairing other) :
    Action.Matches Value.Matches pairing bound.toValue other.toValue := by
  cases matched with
  | value values => exact matches_pure values
  | @methods group other groups =>
    have callables : Callable.Matches pairing { name := group.label, body := .methods group }
        { name := other.label, body := .methods other } :=
      ⟨groups.label, rfl, .methods groups⟩
    exact (matches_newFunction callables).map fun _ _ _ _ paired => .reference (.function paired)

section Types

variable {call : Caller} (blind : call.Blind) (context : Context)
include blind

/-- Reading matching getters matches. -/
theorem Getter.read_matches {getter other : Getter} (getters : getter.Matches pairing other) :
    Action.Matches Value.Matches pairing (getter.read call context) (other.read call context) :=
  (blind pairing context _ _ [] [] getters.routine.callee .nil).map
    fun _ _ _ _ given => AllMatch.headD given

namespace HostType

variable {type other : HostType} (types : type.Matches pairing other) (name : String)
  (ignoreCase : Bool)
include types

/-- Members of matching types are bound alike. -/
theorem bind?_matches :
    Action.Matches (OptionMatches Bound.Matches) pairing (type.bind? call context name ignoreCase)
      (other.bind? call context name ignoreCase) := by
  unfold bind?
  rcases rel_cases (types.find? name ignoreCase) with
    ⟨none, absent⟩ | ⟨⟨key, member⟩, ⟨further, last⟩, known, there, same, members⟩
  · rw [none, absent]
    exact matches_pure .none
  · dsimp only at same members
    subst same
    rw [known, there]
    cases members with
    | field getters setters =>
      exact (Getter.read_matches blind context getters).map fun _ _ _ _ values =>
        .some (.value values)
    | methods overloads =>
      exact matches_pure (.some (.methods ⟨by rw [group, group, types.fullName], overloads⟩))

/-- Method calls on matching types run matching groups. -/
theorem methodGroup?_matches :
    Action.Matches (OptionMatches MethodGroup.Matches) pairing
      (type.methodGroup? call context name ignoreCase)
      (other.methodGroup? call context name ignoreCase) := by
  unfold methodGroup?
  split
  · exact matches_pure types.constructorGroup?
  · refine (bind?_matches blind context types name ignoreCase).bind fun _ _ bound further bounds => ?_
    cases bounds with
    | none => exact matches_pure .none
    | some bounds =>
      cases bounds with
      | value values => exact matches_pure .none
      | methods groups => exact matches_pure (.some groups)

/-- Assigning matching values to members of matching types matches. -/
theorem assign_matches {value further : Value} (values : value.Matches pairing further) :
    Action.Matches Exactly pairing (type.assign call context name value ignoreCase)
      (other.assign call context name further ignoreCase) := by
  unfold assign
  rcases rel_cases (types.find? name ignoreCase) with
    ⟨none, absent⟩ | ⟨⟨key, member⟩, ⟨further, last⟩, known, there, same, members⟩
  · rw [none, absent]
    exact matches_pure rfl
  · dsimp only at same members
    subst same
    rw [known, there]
    cases members with
    | field getters setters =>
      cases setters with
      | none =>
        rw [types.fullName]
        exact matches_throw _
      | some setters =>
        exact (blind pairing context _ _ _ _ setters.routine.callee (AllMatch.singleton values)).bind
          fun _ _ _ _ _ => matches_pure rfl
    | methods overloads => exact matches_pure rfl

end HostType

end Types

/-! ## Nodes -/

namespace NodeId

/-- The type of a node is the same in matching worlds. -/
theorem knownType_matches (id : NodeId) :
    Action.Matches Exactly pairing id.knownType id.knownType := by
  intro large grows left right worlds
  have run (world : World) : id.knownType world =
      .ok (world.tree.resolve world.registry id).1
        { world with tree := (world.tree.resolve world.registry id).2 } := rfl
  have same : left.tree.resolve left.registry id = right.tree.resolve right.registry id := by
    rw [worlds.tree, worlds.registry]
  rw [run, run, same]
  exact .ok (le_refl _) (worlds.changeRest worlds.memory worlds.held rfl worlds.registry) rfl

/-- The child of a node is the same in matching worlds. -/
theorem child_matches (id : NodeId) (name : String) (ignoreCase : Bool) :
    Action.Matches Exactly pairing (id.child name ignoreCase) (id.child name ignoreCase) := by
  intro large grows left right worlds
  have run (world : World) : id.child name ignoreCase world =
      .ok (world.tree.visit world.registry id name ignoreCase).1
        { world with tree := (world.tree.visit world.registry id name ignoreCase).2 } := rfl
  have same : left.tree.visit left.registry id name ignoreCase =
      right.tree.visit right.registry id name ignoreCase := by
    rw [worlds.tree, worlds.registry]
  rw [run, run, same]
  exact .ok (le_refl _) (worlds.changeRest worlds.memory worlds.held rfl worlds.registry) rfl

/-- Insisting on a type matches. -/
theorem requiredType_matches (id : NodeId) :
    Action.Matches Exactly pairing id.requiredType id.requiredType := by
  unfold requiredType
  refine id.knownType_matches.bind fun _ _ type _ same => ?_
  subst same
  split
  · exact matches_pure rfl
  · exact matches_view_same (fun _ _ _ worlds => by rw [worlds.tree]) fun _ => matches_throw _

variable {call : Caller} (blind : call.Blind) (context : Context)
include blind

/-- Reading a member of a node matches. -/
theorem readMember_matches (id : NodeId) (name : String) (ignoreCase : Bool) :
    Action.Matches Value.Matches pairing (id.readMember call context name ignoreCase)
      (id.readMember call context name ignoreCase) := by
  have value {pairing : Pairing} {bound other : Option Bound}
      (bounds : OptionMatches Bound.Matches pairing bound other) :
      Action.Matches Value.Matches pairing (id.boundOrChild name ignoreCase bound)
        (id.boundOrChild name ignoreCase other) := by
    cases bounds with
    | some bounds => exact Bound.toValue_matches bounds
    | none =>
      refine (id.child_matches name ignoreCase).map fun _ _ found _ same => ?_
      subst same
      exact .node found.1
  unfold readMember
  refine id.knownType_matches.bind fun _ _ type _ same => ?_
  subst same
  cases type with
  | some type =>
    refine (matches_view fun _ _ _ _ worlds => worlds.hostType type).bind fun _ _ _ _ types => ?_
    exact (HostType.bind?_matches blind context types name ignoreCase).bind
      fun _ _ _ _ bounds => value bounds
  | none => exact value .none

/-- Writing a member of a node matches. -/
theorem writeMember_matches (id : NodeId) (name : String) {value other : Value}
    (values : value.Matches pairing other) (ignoreCase : Bool) :
    Action.Matches Exactly pairing (id.writeMember call context name value ignoreCase)
      (id.writeMember call context name other ignoreCase) := by
  unfold writeMember
  refine id.requiredType_matches.bind fun _ grows type _ same => ?_
  subst same
  refine (matches_view fun _ _ _ _ worlds => worlds.hostType type).bind fun _ more _ _ types => ?_
  refine (HostType.assign_matches blind context types name ignoreCase
    (values.mono (le_trans grows more))).bind fun _ _ assigned _ same => ?_
  subst same
  split
  · exact matches_pure rfl
  · rw [types.fullName]
    exact matches_throw _

/-- Calling a member of a node matches. -/
theorem callMember_matches (id : NodeId) (name : String) {arguments others : List Value}
    (given : AllMatch pairing arguments others) (ignoreCase : Bool) :
    Action.Matches AllMatch pairing (id.callMember call context name arguments ignoreCase)
      (id.callMember call context name others ignoreCase) := by
  unfold callMember
  rw [context.keep_matches given]
  refine id.requiredType_matches.bind fun _ grows type _ same => ?_
  subst same
  refine (matches_view fun _ _ _ _ worlds => worlds.hostType type).bind fun _ more _ _ types => ?_
  have given := AllMatch.mono given (le_trans grows more)
  refine (HostType.methodGroup?_matches blind _ types name ignoreCase).bind fun _ grows _ _ groups => ?_
  have given := AllMatch.mono given grows
  cases groups with
  | some groups => exact blind _ context _ _ _ _ (.body (.methods groups)) given
  | none =>
    refine (id.readMember_matches blind _ name ignoreCase).bind fun _ grows value _ values => ?_
    have given := AllMatch.mono given grows
    cases values with
    | content scalar =>
      cases value with
      | reference target => exact absurd rfl (scalar target)
      | _ =>
        rw [types.fullName]
        exact matches_throw _
    | reference matched =>
      cases matched with
      | function paired => exact blind.function context paired given
      | _ =>
        rw [types.fullName]
        exact matches_throw _

end NodeId

/-! ## Host objects -/

/-- The constants of libraries match themselves. -/
theorem Library.constant?_matches (library : Library) (name : String) (ignoreCase : Bool) :
    OptionMatches Value.Matches pairing (library.constant? name ignoreCase)
      (library.constant? name ignoreCase) := by
  have contents : ∀ entry ∈ library.constants, entry.2.kind.isByContent = true := by
    cases library <;> decide
  cases named : library.constant? name ignoreCase with
  | none => exact .none
  | some value =>
    obtain ⟨entry, found, rfl⟩ := Option.map_eq_some_iff.mp named
    have content := contents entry (List.mem_of_find?_eq_some found)
    refine .some (.content fun target same => ?_)
    rw [same] at content
    cases target <;> contradiction

namespace ObjectId

/-- Paired objects have the same type name. -/
theorem typeName_matches {id other : ObjectId} (paired : pairing.objects id other) :
    Action.Matches Exactly pairing (view fun world => (world.object id).typeName world)
      (view fun world => (world.object other).typeName world) :=
  matches_view fun _ grows _ _ worlds => (worlds.texts (worlds.alike (grows.2 _ _ paired))).1

/-- A library object gives the function value that it has handed out, or a new one. -/
theorem libraryMember_demands {world : World} {id : ObjectId} {library : Library}
    {made : List (LibraryFunction × FunctionId)} (known : world.object id = .library library made)
    (function : LibraryFunction) :
    world.Demands (.member id function) (id.libraryMember library made function) := by
  unfold libraryMember
  cases given : made.lookup function with
  | some before =>
    exact ⟨.function before, world, rfl, .refl world, .refl world,
      by rw [madeIn, known]; exact congrArg _ given⟩
  | none =>
    exact ⟨.function ⟨world.functions.size⟩, world.addMember id library made function, rfl,
      .addMember world known given, .of_made world _ _,
      MadeMore.madeIn_addMember world known given⟩

variable {call : Caller} (blind : call.Blind) (context : Context)
include blind

/-- Reading a member of paired host objects matches. -/
theorem readMember?_matches {id other : ObjectId} (paired : pairing.objects id other)
    (name : String) (ignoreCase : Bool) :
    Action.Matches (OptionMatches Value.Matches) pairing
      (id.readMember? call context name ignoreCase)
      (other.readMember? call context name ignoreCase) := by
  intro large grows left right worlds
  have paired := grows.2 _ _ paired
  have alike := worlds.alike paired
  unfold readMember?
  rw [run_view_bind, run_view_bind]
  generalize known : left.object id = object at alike ⊢
  generalize there : right.object other = further at alike ⊢
  have go {first second : Action (Option Value)}
      (matched : Action.Matches (OptionMatches Value.Matches) large first second) :
      RunMatches (OptionMatches Value.Matches) large (first left) (second right) :=
    matched large (le_refl _) left right worlds
  cases alike with
  | handle label length => exact go (matches_pure .none)
  | library library made given =>
    have constants : OptionMatches Value.Matches large _ _ :=
      library.constant?_matches name ignoreCase
    dsimp only
    generalize library.constant? name ignoreCase = constant at constants ⊢
    cases constants with
    | some values => exact go (matches_pure (.some values))
    | none =>
      cases library.function? name ignoreCase with
      | none => exact go (matches_pure .none)
      | some function =>
        exact (worlds.demands (.member paired function) (libraryMember_demands known function)
          (libraryMember_demands there function)).bind fun _ _ _ _ values =>
            matches_pure (.some values)
  | package type =>
    refine go ((matches_view fun _ _ _ _ worlds => worlds.hostType type).bind fun _ _ _ _ types => ?_)
    refine (HostType.bind?_matches blind context types name ignoreCase).bind fun _ _ _ _ bounds => ?_
    cases bounds with
    | none => exact matches_pure .none
    | some bounds => exact (Bound.toValue_matches bounds).map fun _ _ _ _ values => .some values

/-- Writing a member of paired host objects matches. -/
theorem writeMember_matches {id other : ObjectId} (paired : pairing.objects id other)
    (name : String) {value further : Value} (values : value.Matches pairing further) :
    Action.Matches Exactly pairing (id.writeMember call context name value)
      (other.writeMember call context name further) := by
  refine matches_view_object paired fun object last alike => ?_
  cases alike with
  | handle label length => exact matches_pure rfl
  | library library made given => exact matches_pure rfl
  | package type =>
    exact (matches_view fun _ _ _ _ worlds => worlds.hostType type).bind fun _ grows _ _ types =>
      HostType.assign_matches blind context types name false (values.mono grows)

/-- Calling a member of paired host objects matches. -/
theorem callMember?_matches {id other : ObjectId} (paired : pairing.objects id other)
    (name : String) {arguments others : List Value} (given : AllMatch pairing arguments others)
    (ignoreCase : Bool) :
    Action.Matches (OptionMatches AllMatch) pairing
      (id.callMember? call context name arguments ignoreCase)
      (other.callMember? call context name others ignoreCase) := by
  refine matches_view_object paired fun object last alike => ?_
  cases alike with
  | handle label length => exact matches_pure .none
  | library library made handed =>
    dsimp only
    split
    · exact (LibraryFunction.run_matches context given _).map fun _ _ _ _ results => .some results
    · exact matches_pure .none
  | package type =>
    dsimp only
    rw [context.keep_matches given]
    refine (matches_view fun _ _ _ _ worlds => worlds.hostType type).bind fun _ grows _ _ types => ?_
    have given := AllMatch.mono given grows
    refine (HostType.methodGroup?_matches blind _ types name ignoreCase).bind
      fun _ grows _ _ groups => ?_
    have given := AllMatch.mono given grows
    cases groups with
    | none => exact matches_pure .none
    | some groups =>
      exact (blind _ context _ _ _ _ (.body (.methods groups)) given).map fun _ _ _ _ results =>
        .some results

end ObjectId

/-! ## Members of values -/

section Values

variable {call : Caller} (blind : call.Blind) (context : Context)
include blind

/-- Calling matching values matches. -/
theorem Value.apply_matches {callee other : Value} (callees : callee.Matches pairing other)
    {arguments others : List Value} (given : AllMatch pairing arguments others) :
    Action.Matches AllMatch pairing (Value.apply call context callee arguments)
      (Value.apply call context other others) := by
  unfold Value.apply
  cases callees with
  | content scalar =>
    cases callee with
    | reference target => exact absurd rfl (scalar target)
    | _ => exact matches_throw _
  | reference matched =>
    cases matched with
    | function paired => exact blind.function context paired given
    | _ => exact matches_throw _

omit blind in
/-- Matching keys stand for the same member names. -/
theorem keyName_matches {object other key further : Value} (objects : object.Matches pairing other)
    (keys : key.Matches pairing further) :
    Action.Matches Exactly pairing (keyName object key) (keyName other further) := by
  unfold keyName
  rw [objects.kind]
  cases keys with
  | content scalar =>
    split
    · exact matches_pure rfl
    · exact matches_throw _
  | reference matched => cases matched <;> exact matches_throw _

/-- Reading members of matching values matches. -/
theorem Value.index_matches {object other key further : Value}
    (objects : object.Matches pairing other) (keys : key.Matches pairing further) :
    Action.Matches Value.Matches pairing (Value.index call context object key)
      (Value.index call context other further) := by
  have named := keyName_matches objects keys
  unfold Value.index
  cases objects with
  | content scalar =>
    cases object with
    | reference target => exact absurd rfl (scalar target)
    | _ => exact matches_throw _
  | reference matched =>
    cases matched with
    | table id => exact hookedGet_matches blind context id keys
    | function paired => exact matches_throw _
    | node id =>
      refine named.bind fun _ _ name _ same => ?_
      subst same
      exact id.readMember_matches blind context name false
    | object paired =>
      refine named.bind fun _ grows name _ same => ?_
      subst same
      refine (ObjectId.readMember?_matches blind context (grows.2 _ _ paired) name false).map
        fun _ _ _ _ answers => ?_
      cases answers with
      | none => exact .nil
      | some values => exact values
    | environment id =>
      refine named.bind fun _ _ name _ same => ?_
      subst same
      exact Environment.getGlobal_matches blind _ id name

/-- Writing matching members of matching values matches. -/
theorem Value.store_matches (held : List Reference) (environment : EnvironmentId)
    {object other key further value last : Value} (objects : object.Matches pairing other)
    (keys : key.Matches pairing further) (values : value.Matches pairing last) :
    Action.Matches Exactly pairing (Value.store call held environment object key value)
      (Value.store call held environment other further last) := by
  have named := keyName_matches objects keys
  unfold Value.store
  cases objects with
  | content scalar =>
    cases object with
    | reference target => exact absurd rfl (scalar target)
    | _ => exact matches_throw _
  | reference matched =>
    cases matched with
    | table id => exact Environment.storeInTable_matches environment id keys values
    | function paired => exact matches_throw _
    | node id =>
      refine named.bind fun _ grows name _ same => ?_
      subst same
      exact id.writeMember_matches blind _ name (values.mono grows) false
    | object paired =>
      refine named.bind fun _ grows name _ same => ?_
      subst same
      have paired := grows.2 _ _ paired
      refine (ObjectId.writeMember_matches blind _ paired name (values.mono grows)).bind
        fun _ more written _ same => ?_
      subst same
      split
      · exact matches_pure rfl
      · exact (ObjectId.typeName_matches (more.2 _ _ paired)).refuses fun typeName =>
          .noSettableMember (.object typeName) name
    | environment id =>
      refine named.bind fun _ grows name _ same => ?_
      subst same
      exact Environment.setGlobal_matches id name (values.mono grows)

/-- Calling methods of matching values matches. -/
theorem Value.applyMethod_matches {object other : Value} (objects : object.Matches pairing other)
    (name : String) {arguments others : List Value} (given : AllMatch pairing arguments others) :
    Action.Matches AllMatch pairing (Value.applyMethod call context object name arguments)
      (Value.applyMethod call context other name others) := by
  have all : AllMatch pairing (object :: arguments) (other :: others) := .cons objects given
  have member : Action.Matches AllMatch pairing
      (do
        let method ← Value.index call (context.keep (object :: arguments)) object (.text name)
        Value.apply call context method (object :: arguments))
      (do
        let method ← Value.index call (context.keep (other :: others)) other (.text name)
        Value.apply call context method (other :: others)) := by
    rw [context.keep_matches all]
    exact (Value.index_matches blind _ objects (.text name)).bind fun _ grows _ _ methods =>
      Value.apply_matches blind context methods (AllMatch.mono all grows)
  unfold Value.applyMethod
  cases objects with
  | content scalar =>
    cases object with
    | reference target => exact absurd rfl (scalar target)
    | _ => exact member
  | reference matched =>
    cases matched with
    | table id => exact member
    | function paired => exact member
    | node id => exact id.callMember_matches blind context name given false
    | object paired =>
      rw [context.keep_matches given]
      refine (ObjectId.callMember?_matches blind context paired name given false).bind
        fun _ grows _ _ called => ?_
      cases called with
      | some results => exact matches_pure results
      | none =>
        have paired := grows.2 _ _ paired
        refine (ObjectId.readMember?_matches blind _ paired name false).bind
          fun _ more _ _ members => ?_
        have given := AllMatch.mono given (le_trans grows more)
        have refused : Action.Matches AllMatch _ _ _ :=
          (ObjectId.typeName_matches (more.2 _ _ paired)).refuses fun typeName =>
            .noCallableMember (.object typeName) name
        cases members with
        | none => exact refused
        | @some found _ members =>
          cases members with
          | content scalar =>
            cases found with
            | reference target => exact absurd rfl (scalar target)
            | _ => exact refused
          | reference matched =>
            cases matched with
            | function paired => exact blind.function context paired given
            | _ => exact refused
    | environment id => exact member

end Values

end ScriptHost
