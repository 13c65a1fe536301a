import ScriptHost.Proofs.Host.Effects
import ScriptHost.Proofs.Isolation.Environment

/-!
# Libraries and members are confined

The functions of the libraries give contents or one of their arguments. Reading, assigning and
calling the members of nodes and host objects stays with what is safe, given that calls do: what
is called there are functions and code that the host types declare.
-/

namespace ScriptHost

open ScriptHost.Action ScriptHost.Binary World

variable {safe : Reference → Prop}

/-! ## Libraries -/

section Libraries

/-- The argument at a place is safe where all arguments are. -/
theorem Arguments.value_within {arguments : List Value} (within : AllWithin safe arguments)
    (place : Nat) : (Arguments.value arguments place).Within safe :=
  within.getElem? place

/-- A whole result is safe. -/
theorem Math.integral_within (result : Double) : (Math.integral result).Within safe := by
  unfold Math.integral
  split
  · exact within_ofInt64 _
  · exact within_number _

/-- Picking among safe arguments gives a safe one. -/
theorem Math.pickFrom_confined (function : String) (wanted : Ordering) (arguments : List Value)
    {rest : List Value} (within : AllWithin safe rest) (index : Nat) {best : Value}
    (bestSafe : best.Within safe) (double : Double) :
    Confines safe Value.Within
      (Math.pickFrom function wanted arguments rest index best double) := by
  induction rest generalizing index best double with
  | nil => exact confines_pure bestSafe
  | cons candidate rest ih =>
    obtain ⟨first, others⟩ := allWithin_cons.mp within
    unfold Math.pickFrom
    refine (Arguments.double_plain _ _ _).confines_bind fun datum _ => ?_
    split
    · exact ih others _ first _
    · exact ih others _ bestSafe _

/-- Picking the best of safe arguments is confined. -/
theorem Math.pick_confined (function : String) (wanted : Ordering) {arguments : List Value}
    (within : AllWithin safe arguments) :
    Confines safe AllWithin (Math.pick function wanted arguments) := by
  unfold Math.pick
  refine (Arguments.double_plain _ _ _).confines_bind fun first _ => ?_
  refine (Math.pickFrom_confined _ _ _ (within.subset (List.drop_subset _ _)) _
    (Arguments.value_within within 0) _).bind fun _ _ best bestSafe => confines_pure ?_
  simp [bestSafe]

/-- A library function is confined for safe arguments. -/
theorem LibraryFunction.run_confined (context : Context) {arguments : List Value}
    (within : AllWithin safe arguments) (function : LibraryFunction) :
    Confines safe AllWithin (function.run context arguments) := by
  have double (name : String) {next : Double → Value}
      (result : ∀ datum, (next datum).Within safe) :
      Confines safe AllWithin (do
        let datum ← Arguments.double arguments 0 name
        return [next datum]) :=
    (Arguments.double_plain _ _ _).confines_bind fun datum _ => confines_pure (by simp [result])
  have text (name : String) {next : String → Value}
      (result : ∀ content, (next content).Within safe) :
      Confines safe AllWithin (do
        let content ← Arguments.text arguments 0 name
        return [next content]) :=
    (Arguments.text_plain _ _ _).confines_bind fun content _ => confines_pure (by simp [result])
  cases function with
  | abs =>
    refine (Arguments.double_plain _ _ _).confines_bind fun datum _ => confines_pure ?_
    split <;> simp [Math.integral_within]
  | ceil => exact double _ fun _ => Math.integral_within _
  | floor => exact double _ fun _ => Math.integral_within _
  | sqrt => exact double _ fun _ => within_number _
  | max => exact Math.pick_confined _ _ within
  | min => exact Math.pick_confined _ _ within
  | len => exact text _ fun _ => within_ofNat _
  | lower => exact text _ fun _ => within_text _
  | upper => exact text _ fun _ => within_text _
  | sub =>
    refine (Arguments.text_plain _ _ _).confines_bind fun content _ => ?_
    refine (Arguments.integer_plain _ _ _ _).confines_bind fun first _ => ?_
    refine (Arguments.integer_plain _ _ _ _).confines_bind fun last _ => ?_
    split
    · exact confines_pure (by simp)
    · exact confines_throw _
  | rep =>
    unfold LibraryFunction.run TextLibrary.rep
    refine (Arguments.text_plain _ _ _).confines_bind fun content _ => ?_
    refine (Arguments.integer_plain _ _ _ _).confines_bind fun count _ => ?_
    dsimp only
    split
    · exact confines_pure (by simp)
    · split
      · exact confines_throw _
      · refine Confines.of_view fun heaps => ?_
        split
        · exact confines_pure (by simp)
        · exact confines_throw _

end Libraries

/-! ## Host types -/

/-- What a member is bound to is safe. -/
def Bound.Within (safe : Reference → Prop) : Bound → Prop
  | .value content => content.Within safe
  | .methods group => group.Refers ≤ safe

/-- What a name is bound to, if it is, is safe. -/
def BoundWithin (safe : Reference → Prop) (bound : Option Bound) : Prop :=
  ∀ content, bound = some content → content.Within safe

/-- What a method call runs, if there is something, refers to safe things. -/
def GroupWithin (safe : Reference → Prop) (group : Option MethodGroup) : Prop :=
  ∀ content, group = some content → content.Refers ≤ safe

/-- The value of a safe member is confined. -/
theorem Bound.toValue_confined {bound : Bound} (within : bound.Within safe) :
    Confines safe Value.Within bound.toValue := by
  cases bound with
  | value content => exact confines_pure within
  | methods group =>
    unfold Bound.toValue
    refine (confines_newFunction ?_).bind fun _ _ made madeSafe =>
      confines_pure (within_reference.mpr madeSafe)
    rintro target (⟨⟨⟩⟩ | refers)
    exact within target refers

namespace HostType

variable {type : HostType}

/-- What a method call on a type with constructors runs for its reserved name the type refers to. -/
theorem constructorGroup?_within (known : type.Refers ≤ safe) :
    GroupWithin safe type.constructorGroup? := by
  intro group given
  unfold constructorGroup? at given
  split at given
  · contradiction
  · obtain rfl := Option.some.inj given
    rintro target ⟨overload, among, refers⟩
    exact known target (.constructor among refers)

end HostType

section Types

variable {call : Caller} (confined : call.Confines) {context : Context}
  (inside : context.Within safe)
include confined inside

/-- Reading a field whose getter refers to safe things is confined. -/
theorem Getter.read_confined {getter : Getter}
    (known : getter.routine.Refers ≤ safe) :
    Confines safe Value.Within (getter.read call context) :=
  (confined _ context _ [] inside (Routine.callee_within known) allWithin_nil).bind
    fun _ _ _ within => confines_pure within.headD

namespace HostType

variable {type : HostType} (known : type.Refers ≤ safe)
include known

/-- Binding a member of a type that refers to safe things is confined. -/
theorem bind?_confined (name : String) (ignoreCase : Bool) :
    Confines safe BoundWithin (type.bind? call context name ignoreCase) := by
  unfold bind?
  split
  · next key getter setter found =>
    refine (Getter.read_confined confined inside fun target refers =>
      known target (.getter (mem_of_find? found) refers)).bind fun _ _ value within => ?_
    exact confines_pure fun bound same => Option.some.inj same ▸ within
  · next key overloads found =>
    refine confines_pure fun bound same => Option.some.inj same ▸ ?_
    rintro target ⟨overload, among, refers⟩
    exact known target (.method (mem_of_find? found) among refers)
  · exact confines_pure fun bound same => nomatch same

/-- Finding what a method call runs is confined. -/
theorem methodGroup?_confined (name : String) (ignoreCase : Bool) :
    Confines safe GroupWithin (type.methodGroup? call context name ignoreCase) := by
  unfold methodGroup?
  split
  · exact confines_pure (constructorGroup?_within known)
  · refine (bind?_confined confined inside known name ignoreCase).bind fun _ _ bound within => ?_
    split
    · next group => exact confines_pure fun found same => Option.some.inj same ▸ within _ rfl
    · exact confines_pure fun found same => nomatch same

/-- Assigning a safe value to a field is confined. -/
theorem assign_confined (name : String) {value : Value} (within : value.Within safe)
    (ignoreCase : Bool) :
    Confines safe (fun _ _ => True) (type.assign call context name value ignoreCase) := by
  unfold assign
  split
  · next key getter setter found =>
    have setting : setter.routine.Refers ≤ safe :=
      fun target refers => known target (.setter (mem_of_find? found) refers)
    exact (confined _ context _ [value] inside (Routine.callee_within setting)
      (allWithin_cons.mpr ⟨within, allWithin_nil⟩)).bind fun _ _ _ _ => confines_any _
  · exact confines_throw _
  · exact confines_any _

end HostType

omit confined inside in
/-- A look at a host type goes before a step that is confined for types that refer to safe
things. -/
theorem Confines.view_hostType {Result : Type} {property : (Reference → Prop) → Result → Prop}
    (id : HostTypeId) {next : HostType → Action Result}
    (rest : ∀ type : HostType, type.Refers ≤ safe → Confines safe property (next type)) :
    Confines safe property (view (·.hostType id) >>= next) :=
  Confines.view_bind (fun type => type.Refers ≤ safe)
    (fun _ guards => guards.types id) rest

end Types

/-! ## Nodes -/

namespace NodeId

/-- Looking up the type of a node is confined. -/
theorem knownType_confined (id : NodeId) : Confines safe (fun _ _ => True) id.knownType :=
  fun world guards =>
    ⟨safe, .of_same rfl { guards with } { Spares.refl safe world with }, fun _ _ => trivial⟩

/-- Visiting a child is confined, and the child is safe. -/
theorem child_confined (id : NodeId) (name : String) (ignoreCase : Bool) :
    Confines safe (fun wide found => wide (.node found.1)) (id.child name ignoreCase) :=
  fun world guards =>
    ⟨safe, .of_same rfl { guards with } { Spares.refl safe world with }, fun _ _ => guards.nodes _⟩

/-- Insisting on a type is confined. -/
theorem requiredType_confined (id : NodeId) : Confines safe (fun _ _ => True) id.requiredType := by
  unfold requiredType
  refine id.knownType_confined.bind fun _ _ type _ => ?_
  split
  · exact confines_any _
  · exact Confines.of_view fun _ => confines_throw _

variable {call : Caller} (confined : call.Confines) {context : Context}
  (inside : context.Within safe)
include confined inside

/-- Reading a member of a node is confined. -/
theorem readMember_confined (id : NodeId) (name : String) (ignoreCase : Bool) :
    Confines safe Value.Within (id.readMember call context name ignoreCase) := by
  have child {wide : Reference → Prop} : Confines wide Value.Within
      (do return Value.node (← id.child name ignoreCase).1) :=
    (id.child_confined name ignoreCase).bind fun _ _ found holds =>
      confines_pure (within_reference.mpr holds)
  have value {wide : Reference → Prop} (bound : Option Bound) (within : BoundWithin wide bound) :
      Confines wide Value.Within (id.boundOrChild name ignoreCase bound) := by
    cases bound with
    | some bound => exact Bound.toValue_confined (within bound rfl)
    | none => exact child
  unfold readMember
  refine id.knownType_confined.bind fun _ grows type _ => ?_
  cases type with
  | some type =>
    refine Confines.view_hostType type fun type known => ?_
    exact (type.bind?_confined confined (inside.mono grows) known name ignoreCase).bind
      fun _ _ => value
  | none => exact value none fun _ same => nomatch same

/-- Writing a member of a node is confined. -/
theorem writeMember_confined (id : NodeId) (name : String) {value : Value}
    (within : value.Within safe) (ignoreCase : Bool) :
    Confines safe (fun _ _ => True) (id.writeMember call context name value ignoreCase) := by
  unfold writeMember
  refine id.requiredType_confined.bind fun _ grows type _ => ?_
  refine Confines.view_hostType type fun type known => ?_
  refine (type.assign_confined confined (inside.mono grows) known name (within.mono grows)
    ignoreCase).bind fun _ _ assigned _ => ?_
  split
  · exact confines_any _
  · exact confines_throw _

/-- Calling a member of a node is confined for safe arguments. -/
theorem callMember_confined (id : NodeId) (name : String) {arguments : List Value}
    (within : AllWithin safe arguments) (ignoreCase : Bool) :
    Confines safe AllWithin (id.callMember call context name arguments ignoreCase) := by
  unfold callMember
  refine id.requiredType_confined.bind fun _ grows type _ => ?_
  refine Confines.view_hostType type fun type known => ?_
  have kept : (context.keep arguments).Within _ := inside.mono grows
  refine (type.methodGroup?_confined confined kept known name ignoreCase).bind
    fun _ more found refers => ?_
  have grown := le_trans grows more
  split
  · next group => exact confined _ _ _ _ (inside.mono grown) (refers group rfl) (within.mono grown)
  · refine (id.readMember_confined confined (kept.mono more) name ignoreCase).bind
      fun _ most member memberSafe => ?_
    have grown := le_trans grown most
    split
    · exact confined _ _ _ _ (inside.mono grown) (within_reference.mp memberSafe)
        (within.mono grown)
    · exact confines_throw _

end NodeId

/-! ## Host objects -/

/-- The constants of libraries are contents. -/
theorem Library.constant?_within {library : Library} {name : String} {ignoreCase : Bool}
    {value : Value} (named : library.constant? name ignoreCase = some value) :
    value.Within safe := by
  have contents : ∀ entry ∈ library.constants, entry.2.kind.isByContent = true := by
    cases library <;> decide
  obtain ⟨entry, found, rfl⟩ := Option.map_eq_some_iff.mp named
  exact within_of_kind (contents entry (List.mem_of_find?_eq_some found))

namespace ObjectId

/-- The value of a library function is confined, given that those handed out before are safe. -/
theorem libraryMember_confined (id : ObjectId) (library : Library)
    {made : List (LibraryFunction × FunctionId)}
    (known : ∀ entry ∈ made, safe (.function entry.2)) (function : LibraryFunction) :
    Confines safe Value.Within (id.libraryMember library made function) := by
  unfold libraryMember
  split
  · next found given =>
    exact confines_pure (within_reference.mpr (known _ (mem_of_lookup given)))
  · have bare : (Builtin.library function).callable.Refers ≤ safe := by
      rintro target (⟨⟨⟩⟩ | refers)
      exact False.elim refers
    refine (confines_newFunction bare).bind fun wide grows fresh freshSafe => ?_
    have all : ∀ entry ∈ made ++ [(function, fresh)], wide (.function entry.2) := by
      intro entry member
      rcases List.mem_append.mp member with before | added
      · exact grows _ (known entry before)
      · obtain rfl := List.mem_singleton.mp added
        exact freshSafe
    exact Confines.bind (confines_putLibrary all) fun _ more _ _ =>
      confines_pure (within_reference.mpr (more _ freshSafe))

variable {call : Caller} (confined : call.Confines) {context : Context}
  (inside : context.Within safe)
include confined inside

/-- Reading a member of a safe host object is confined. -/
theorem readMember?_confined {id : ObjectId} (holds : safe (.object id)) (name : String)
    (ignoreCase : Bool) :
    Confines safe AnswerWithin (id.readMember? call context name ignoreCase) := by
  unfold readMember?
  refine Confines.view_bind
    (fun object => ∀ library made, object = .library library made →
      ∀ entry ∈ made, safe (.function entry.2))
    (fun world guards library made => guards.libraries id library made holds) fun object shown => ?_
  cases object with
  | handle label length => exact confines_pure answerWithin_none
  | library library made =>
    dsimp only
    split
    · next value constant =>
      exact confines_pure (answerWithin_some (Library.constant?_within constant))
    · exact (libraryMember_confined id library (shown library made rfl) _).bind
        fun _ _ value within => confines_pure (answerWithin_some within)
    · exact confines_pure answerWithin_none
  | package type =>
    refine Confines.view_hostType type fun type known => ?_
    refine (type.bind?_confined confined inside known name ignoreCase).bind
      fun _ _ bound within => ?_
    cases bound with
    | some bound =>
      exact (Bound.toValue_confined (within bound rfl)).bind fun _ _ value valueSafe =>
        confines_pure (answerWithin_some valueSafe)
    | none => exact confines_pure answerWithin_none

/-- Writing a member of a host object is confined. -/
theorem writeMember_confined (id : ObjectId) (name : String) {value : Value}
    (within : value.Within safe) :
    Confines safe (fun _ _ => True) (id.writeMember call context name value) := by
  unfold writeMember
  refine Confines.of_view fun object => ?_
  split
  · next type =>
    exact Confines.view_hostType type fun type known =>
      type.assign_confined confined inside known name within false
  · exact confines_any _

/-- Calling a member of a host object is confined for safe arguments. -/
theorem callMember?_confined (id : ObjectId) (name : String) {arguments : List Value}
    (within : AllWithin safe arguments) (ignoreCase : Bool) :
    Confines safe (fun wide results => ∀ values, results = some values → AllWithin wide values)
      (id.callMember? call context name arguments ignoreCase) := by
  have none {wide : Reference → Prop} :
      Confines wide (fun wide results => ∀ values, results = some values → AllWithin wide values)
        (pure none : Action (Option (List Value))) :=
    confines_pure fun _ same => nomatch same
  have some {wide : Reference → Prop} {action : Action (List Value)}
      (confined : Confines wide AllWithin action) :
      Confines wide (fun wide results => ∀ values, results = some values → AllWithin wide values)
        (do return some (← action)) :=
    confined.bind fun _ _ values within =>
      confines_pure fun _ same => Option.some.inj same ▸ within
  unfold callMember?
  refine Confines.of_view fun object => ?_
  cases object with
  | handle label length => exact none
  | library library made =>
    dsimp only
    split
    · exact some (LibraryFunction.run_confined context within _)
    · exact none
  | package type =>
    refine Confines.view_hostType type fun type known => ?_
    have kept : (context.keep arguments).Within safe := inside
    refine (type.methodGroup?_confined confined kept known name ignoreCase).bind
      fun _ grows found refers => ?_
    cases found with
    | some group =>
      exact some (confined _ _ _ _ (inside.mono grows) (refers group rfl) (within.mono grows))
    | none => exact none

end ObjectId

end ScriptHost
