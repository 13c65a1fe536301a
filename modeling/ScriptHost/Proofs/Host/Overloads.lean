import Mathlib.Data.List.DropRight
import Mathlib.Data.List.Induction
import ScriptHost.Evaluation.Call

/-!
# Overloads in declaration order

The declarations of a host type decide by their order what a name is bound to. The last one of the
name says whether that is a field or a group of methods. A field is the last one and is read by its
getter, and a group holds the methods since the last field. Among the overloads of a group the
earliest with the right number of parameters is run, else the earliest that takes any number, else
none.
-/

namespace ScriptHost

open ScriptHost.Action

/-! ## What declarations say -/

/-- The overloads of a member that is a group of methods. -/
def Member.overloadsOf : Option Member → List Overload
  | some (.methods overloads) => overloads
  | _ => []

namespace Declaration

/-- The name of the member that is declared. A constructor has none. -/
def name? : Declaration → Option String
  | .field name _ | .property name _ _ | .method name _ => some name
  | .constructor _ => none

/-- The field that a field or a property declares. -/
def field? : Declaration → Option Member
  | .field _ getter => some (.field getter none)
  | .property _ getter setter => some (.field getter (some setter))
  | .method .. | .constructor _ => none

/-- The overload that a method declares. -/
def method? : Declaration → Option Overload
  | .method _ overload => some overload
  | .field .. | .property .. | .constructor _ => none

/-- The overload that a constructor declares. -/
def constructor? : Declaration → Option Overload
  | .constructor overload => some overload
  | .field .. | .property .. | .method .. => none

/-- The declarations of a name, in order. -/
def ofName (name : String) (declarations : List Declaration) : List Declaration :=
  declarations.filter (·.name? == some name)

/-- The last declaration of a name. -/
def lastOf? (name : String) (declarations : List Declaration) : Option Declaration :=
  (ofName name declarations).getLast?

/-- The methods of a name since its last field or property, in order. -/
def methodsOf (name : String) (declarations : List Declaration) : List Overload :=
  ((ofName name declarations).rtakeWhile (·.method?.isSome)).filterMap method?

/-- The member that the declarations of a name come to. -/
def memberOf? (name : String) (declarations : List Declaration) : Option Member :=
  (lastOf? name declarations).map fun last =>
    last.field?.getD (.methods (methodsOf name declarations))

variable {name : String} {declarations : List Declaration} {declaration : Declaration}

/-- A declaration of the name is one more of them. -/
theorem ofName_append_of_eq (same : declaration.name? = some name) :
    ofName name (declarations ++ [declaration]) = ofName name declarations ++ [declaration] := by
  simp [ofName, same]

/-- Another declaration does not count. -/
theorem ofName_append_of_ne (other : declaration.name? ≠ some name) :
    ofName name (declarations ++ [declaration]) = ofName name declarations := by
  simp [ofName, other]

/-- Another declaration does not change what a name comes to. -/
theorem memberOf?_append_of_ne (other : declaration.name? ≠ some name) :
    memberOf? name (declarations ++ [declaration]) = memberOf? name declarations := by
  rw [memberOf?, memberOf?, lastOf?, methodsOf, ofName_append_of_ne other]
  rfl

/-- A field replaces whatever was declared. -/
theorem memberOf?_append_field {field : Member} (same : declaration.name? = some name)
    (declared : declaration.field? = some field) :
    memberOf? name (declarations ++ [declaration]) = some field := by
  rw [memberOf?, lastOf?, ofName_append_of_eq same, List.getLast?_concat, Option.map_some, declared,
    Option.getD_some]

/-- The methods since the last field, with one more method. -/
theorem methodsOf_append_method {overload : Overload} (same : declaration.name? = some name)
    (declared : declaration.method? = some overload) :
    methodsOf name (declarations ++ [declaration]) = methodsOf name declarations ++ [overload] := by
  rw [methodsOf, ofName_append_of_eq same, List.rtakeWhile_concat_pos _ _ _ (by simp [declared]),
    List.filterMap_append]
  simp [methodsOf, declared]

/-- A method is no field. -/
theorem field?_of_method? {overload : Overload} (declared : declaration.method? = some overload) :
    declaration.field? = none := by
  cases declaration <;> first | rfl | contradiction

/-- A method is added to those since the last field. -/
theorem memberOf?_append_method {overload : Overload} (same : declaration.name? = some name)
    (declared : declaration.method? = some overload) :
    memberOf? name (declarations ++ [declaration]) =
      some (.methods (methodsOf name declarations ++ [overload])) := by
  rw [memberOf?, lastOf?, ofName_append_of_eq same, List.getLast?_concat, Option.map_some,
    field?_of_method? declared, Option.getD_none, methodsOf_append_method same declared]

/-- There are no methods since the last field where the last declaration is one. -/
theorem methodsOf_of_field {last : Declaration} (final : lastOf? name declarations = some last)
    (field : last.method? = none) : methodsOf name declarations = [] := by
  obtain ⟨earlier, spelled⟩ := List.getLast?_eq_some_iff.mp final
  rw [methodsOf, spelled, List.rtakeWhile_concat_neg _ _ _ (by simp [field])]
  rfl

/-- A declaration of a name is a field or a method. -/
theorem field_or_method (named : declaration.name? = some name) :
    (∃ getter setter, declaration.field? = some (.field getter setter) ∧
        declaration.method? = none) ∨
      ∃ overload, declaration = .method name overload := by
  cases declaration with
  | field _ getter => exact .inl ⟨getter, none, rfl, rfl⟩
  | property _ getter setter => exact .inl ⟨getter, some setter, rfl, rfl⟩
  | method other overload =>
    obtain rfl : other = name := Option.some.inj named
    exact .inr ⟨overload, rfl⟩
  | constructor _ => contradiction

/-- The last declaration of a name is one of the name. -/
theorem name?_of_lastOf? {last : Declaration} (final : lastOf? name declarations = some last) :
    last.name? = some name := by
  have among := List.mem_of_getLast? final
  exact eq_of_beq (List.mem_filter.mp among).2

/-- The overloads that a name has come to are the methods since its last field. -/
theorem overloadsOf_memberOf? (name : String) (declarations : List Declaration) :
    Member.overloadsOf (memberOf? name declarations) = methodsOf name declarations := by
  cases final : lastOf? name declarations with
  | none =>
    have undeclared : ofName name declarations = [] := List.getLast?_eq_none_iff.mp final
    rw [memberOf?, final, methodsOf, undeclared]
    rfl
  | some last =>
    rw [memberOf?, final, Option.map_some]
    rcases field_or_method (name?_of_lastOf? final) with ⟨getter, setter, held, other⟩ | ⟨_, rfl⟩
    · rw [held, methodsOf_of_field final other]
      rfl
    · rfl

end Declaration

/-! ## Members of a host type -/

/-- The member that is put under a name is found under it. -/
theorem findMember_putMember_self (name : String) (member : Member)
    (members : List (String × Member)) :
    findMember name (putMember name member members) = some member := by
  induction members with
  | nil => simp [putMember, findMember]
  | cons entry rest ih =>
    obtain ⟨other, old⟩ := entry
    by_cases same : other = name
    · simp [putMember, findMember, same]
    · simp [putMember, findMember, same, ih]

/-- Putting a member under a name leaves the other names as they are. -/
theorem findMember_putMember_of_ne {name key : String} (apart : key ≠ name) (member : Member)
    (members : List (String × Member)) :
    findMember name (putMember key member members) = findMember name members := by
  induction members with
  | nil => simp [putMember, findMember, apart]
  | cons entry rest ih =>
    obtain ⟨other, old⟩ := entry
    by_cases same : other = key
    · subst same
      simp [putMember, findMember, apart]
    · rw [putMember, if_neg same, findMember, findMember, ih]

namespace HostType

open Declaration

variable {name : String} {type : HostType} {declaration : Declaration}

/-- A declaration does not change the members of other names. -/
theorem findMember_declare_of_ne (other : declaration.name? ≠ some name) :
    findMember name (type.declare declaration).members = findMember name type.members := by
  have apart {key : String} (named : declaration.name? = some key) : key ≠ name :=
    fun same => other (same ▸ named)
  cases declaration with
  | field key getter => exact findMember_putMember_of_ne (apart rfl) _ _
  | property key getter setter => exact findMember_putMember_of_ne (apart rfl) _ _
  | method key overload => exact findMember_putMember_of_ne (apart rfl) _ _
  | constructor overload => rfl

/-- A field is the member of its name. -/
theorem findMember_declare_field {field : Member} (same : declaration.name? = some name)
    (declared : declaration.field? = some field) :
    findMember name (type.declare declaration).members = some field := by
  cases declaration with
  | field key getter =>
    obtain rfl : key = name := Option.some.inj same
    obtain rfl := Option.some.inj declared
    exact findMember_putMember_self _ _ _
  | property key getter setter =>
    obtain rfl : key = name := Option.some.inj same
    obtain rfl := Option.some.inj declared
    exact findMember_putMember_self _ _ _
  | method | constructor => contradiction

/-- A method is added to the group of its name, and replaces a field. -/
theorem findMember_declare_method (type : HostType) (name : String) (overload : Overload) :
    findMember name (type.declare (.method name overload)).members =
      some (.methods (Member.overloadsOf (findMember name type.members) ++ [overload])) := by
  refine (findMember_putMember_self _ _ _).trans ?_
  rcases findMember name type.members with _ | ⟨_ | _⟩ <;> rfl

/-- One more declaration. -/
theorem build_append (fullName : String) (declarations : List Declaration)
    (declaration : Declaration) :
    build fullName (declarations ++ [declaration]) =
      (build fullName declarations).declare declaration := by
  rw [build, List.foldl_append]
  rfl

/-- Declarations do not change the full name. -/
@[simp]
theorem fullName_build (fullName : String) (declarations : List Declaration) :
    (build fullName declarations).fullName = fullName := by
  induction declarations using List.reverseRecOn with
  | nil => rfl
  | append_singleton declarations declaration ih =>
    rw [build_append]
    cases declaration <;> exact ih

/-- The member of a name is what the declarations of the name come to. -/
theorem findMember_build (fullName name : String) (declarations : List Declaration) :
    findMember name (build fullName declarations).members = memberOf? name declarations := by
  induction declarations using List.reverseRecOn with
  | nil => rfl
  | append_singleton declarations declaration ih =>
    rw [build_append]
    by_cases same : declaration.name? = some name
    case neg => rw [findMember_declare_of_ne same, ih, memberOf?_append_of_ne same]
    case pos =>
      rcases field_or_method same with ⟨getter, setter, declared, -⟩ | ⟨overload, rfl⟩
      · rw [findMember_declare_field same declared, memberOf?_append_field same declared]
      · rw [findMember_declare_method, ih, overloadsOf_memberOf?, memberOf?_append_method rfl rfl]

/-- The constructors are those that are declared, in order. -/
theorem constructors_build (fullName : String) (declarations : List Declaration) :
    (build fullName declarations).constructors = declarations.filterMap constructor? := by
  induction declarations using List.reverseRecOn with
  | nil => rfl
  | append_singleton declarations declaration ih =>
    rw [build_append, List.filterMap_append, ← ih]
    cases declaration <;> simp [declare, constructor?]

/-- The member of a name is found whether case counts or not. -/
theorem find?_of_findMember {member : Member} (found : findMember name type.members = some member)
    (ignoreCase : Bool) : type.find? name ignoreCase = some (name, member) := by
  rw [find?, found]

end HostType

/-! ## Invocation -/

namespace MethodGroup

/-- What a number of arguments selects among overloads: the earliest with that number of parameters,
else the earliest that takes any number, else none. -/
inductive Selects (overloads : List Overload) (count : Nat) : Option Overload → Prop
  | fixed {before after : List Overload} {overload : Overload}
    (listed : overloads = before ++ overload :: after) (fits : overload.arity = some count)
    (earliest : ∀ other ∈ before, other.arity ≠ some count) :
    Selects overloads count (some overload)
  | variadic {before after : List Overload} {overload : Overload}
    (unfit : ∀ other ∈ overloads, other.arity ≠ some count)
    (listed : overloads = before ++ overload :: after) (any : overload.arity = none)
    (earliest : ∀ other ∈ before, other.arity ≠ none) :
    Selects overloads count (some overload)
  | nothing (unfit : ∀ other ∈ overloads, other.arity ≠ some count)
    (closed : ∀ other ∈ overloads, other.arity ≠ none) :
    Selects overloads count none

variable {group : MethodGroup} {count : Nat} {chosen : Option Overload} {overloads : List Overload}

/-- No overload has the number of parameters. -/
theorem find?_fixed_eq_none_iff :
    overloads.find? (·.arity == some count) = none ↔
      ∀ other ∈ overloads, other.arity ≠ some count := by
  simp

/-- No overload takes any number of arguments. -/
theorem find?_variadic_eq_none_iff :
    overloads.find? (·.arity.isNone) = none ↔ ∀ other ∈ overloads, other.arity ≠ none := by
  simp

/-- A group selects what the number of arguments selects among its overloads. -/
theorem select_eq_iff : group.select count = chosen ↔ Selects group.overloads count chosen := by
  unfold select
  constructor
  · rintro rfl
    cases fixed : group.overloads.find? (·.arity == some count) with
    | some overload =>
      obtain ⟨fits, before, after, listed, earliest⟩ := List.find?_eq_some_iff_append.mp fixed
      exact .fixed listed (eq_of_beq fits) (by simpa using earliest)
    | none =>
      have unfit := find?_fixed_eq_none_iff.mp fixed
      show Selects _ _ (group.overloads.find? (·.arity.isNone))
      cases variadic : group.overloads.find? (·.arity.isNone) with
      | some overload =>
        obtain ⟨taken, before, after, listed, earliest⟩ := List.find?_eq_some_iff_append.mp variadic
        exact .variadic unfit listed (Option.isNone_iff_eq_none.mp taken)
          (by simpa [Option.isSome_iff_ne_none] using earliest)
      | none => exact .nothing unfit (find?_variadic_eq_none_iff.mp variadic)
  · intro selects
    cases selects with
    | @fixed before after overload listed fits earliest =>
      have found : group.overloads.find? (·.arity == some count) = some overload :=
        List.find?_eq_some_iff_append.mpr
          ⟨beq_iff_eq.mpr fits, before, after, listed, by simpa using earliest⟩
      rw [found]
    | variadic unfit listed any earliest =>
      rw [find?_fixed_eq_none_iff.mpr unfit]
      exact List.find?_eq_some_iff_append.mpr ⟨Option.isNone_iff_eq_none.mpr any, _, _, listed,
        by simpa [Option.isSome_iff_ne_none] using earliest⟩
    | nothing unfit closed =>
      rw [find?_fixed_eq_none_iff.mpr unfit]
      exact find?_variadic_eq_none_iff.mpr closed

/-- A group of overloads in order, which runs the one that the number of arguments selects and
nothing where it selects none. -/
structure Follows (group : MethodGroup) (overloads : List Overload) : Prop where
  holds : group.overloads = overloads
  selects : ∀ count, ∃ chosen, Selects overloads count chosen
  runs : ∀ call held arguments overload, Selects overloads arguments.length (some overload) →
    group.invoke call held arguments = overload.routine.run call held arguments
  fails : ∀ call held arguments world, Selects overloads arguments.length none →
    group.invoke call held arguments world =
      .error (.failed (.type (.noOverload group.label arguments.length))) world

/-- Every group follows its overloads. -/
theorem follows (group : MethodGroup) : group.Follows group.overloads where
  holds := rfl
  selects count := ⟨group.select count, select_eq_iff.mp rfl⟩
  runs call held arguments overload selects := by rw [invoke, select_eq_iff.mpr selects]
  fails call held arguments world selects := by
    rw [invoke, select_eq_iff.mpr selects]
    rfl

end MethodGroup

open Declaration in
/-- Overloads follow the order of declarations, for every list of declarations and every name. If
the last declaration of the name is a field or a property, the name is bound to what its getter
gives. If it is a method, the name is bound to the group of the methods since the last field or
property of the name, in order. If there is none, an exact name is bound to nothing. The
constructors are a group of those that are declared, in order, whatever members there are. A group
runs the earliest overload with as many parameters as there are arguments, else the earliest that
takes any number, and fails and runs nothing where there is neither. -/
theorem overloads_follow_declarations (fullName name : String) (declarations : List Declaration)
    (call : Caller) (context : Context) :
    let type := HostType.build fullName declarations
    (∀ last getter setter, lastOf? name declarations = some last →
      last.field? = some (.field getter setter) →
        ∀ ignoreCase, type.bind? call context name ignoreCase = (do
          return some (.value (← getter.read call context)))) ∧
    (∀ last overload, lastOf? name declarations = some last → last.method? = some overload →
      ∃ group : MethodGroup,
        (∀ ignoreCase, type.bind? call context name ignoreCase = pure (some (.methods group))) ∧
        group.label = fullName ++ "." ++ name ∧ group.Follows (methodsOf name declarations)) ∧
    (lastOf? name declarations = none → type.bind? call context name false = pure none) ∧
    (declarations.filterMap constructor? = [] → type.constructorGroup? = none) ∧
    (declarations.filterMap constructor? ≠ [] →
      ∃ group : MethodGroup, type.constructorGroup? = some group ∧
        group.label = fullName ++ "." ++ HostType.constructorName ∧
        group.Follows (declarations.filterMap constructor?)) := by
  intro type
  have member := HostType.findMember_build fullName name declarations
  refine ⟨fun last getter setter final held ignoreCase => ?_,
    fun last overload final added => ?_, fun none => ?_, fun none => ?_, fun some => ?_⟩
  · rw [memberOf?, final, Option.map_some, held, Option.getD_some] at member
    rw [HostType.bind?, HostType.find?_of_findMember member]
  · rw [memberOf?, final, Option.map_some, field?_of_method? added, Option.getD_none] at member
    refine ⟨type.group name (methodsOf name declarations), fun ignoreCase => ?_, ?_,
      MethodGroup.follows _⟩
    · rw [HostType.bind?, HostType.find?_of_findMember member]
    · rw [HostType.group, HostType.fullName_build]
  · rw [memberOf?, none] at member
    rw [HostType.bind?, HostType.find?, member]
    rfl
  · rw [HostType.constructorGroup?, HostType.constructors_build, none]
    rfl
  · refine ⟨type.group HostType.constructorName (declarations.filterMap constructor?), ?_, ?_,
      MethodGroup.follows _⟩
    · rw [HostType.constructorGroup?, HostType.constructors_build, if_neg (by simpa using some)]
    · rw [HostType.group, HostType.fullName_build]

/-- A field between methods of one name: only the methods behind it are left. -/
example :
    let method (arity : Option Nat) := Declaration.method "f" ⟨arity, fun given => .done (.ok given)⟩
    let type := HostType.build "T"
      [method (some 1), .field "f" (.done .nil), method none, method (some 2)]
    (Member.overloadsOf (findMember "f" type.members)).map (·.arity) = [none, some 2] := by
  rfl

end ScriptHost
