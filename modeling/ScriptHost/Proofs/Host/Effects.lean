import ScriptHost.Proofs.Environment.Operations
import ScriptHost.Proofs.Library.Effects

/-!
# Effects of host members

Reading, assigning and calling members of host types and host objects makes function
values and grows the type tree, runs code of the host, and does nothing else to the world.
-/

namespace ScriptHost

open ScriptHost.Action World

/-! ## Reading members -/

namespace HostType

variable {type : HostType}

/-- A member that is found is there. -/
theorem mem_of_findMember {name : String} {member : Member} {members : List (String × Member)}
    (found : findMember name members = some member) : (name, member) ∈ members := by
  induction members with
  | nil => contradiction
  | cons entry rest ih =>
    obtain ⟨other, first⟩ := entry
    unfold findMember at found
    split at found
    · next same =>
      obtain rfl := Option.some.inj found
      exact same ▸ List.mem_cons_self
    · exact List.mem_cons_of_mem _ (ih found)

/-- A member that a name stands for is there. -/
theorem mem_of_find? {name : String} {ignoreCase : Bool} {found : String × Member}
    (named : type.find? name ignoreCase = some found) : found ∈ type.members := by
  unfold find? at named
  split at named
  · next member exact' =>
    obtain rfl := Option.some.inj named
    exact mem_of_findMember exact'
  · split at named
    · exact List.mem_of_find?_eq_some named
    · contradiction

end HostType

/-- The value of a member is made at most. -/
theorem Bound.toValue_grows (bound : Bound) : Keeps Grown bound.toValue := by
  cases bound with
  | value content => exact keeps_pure _
  | methods group => exact fun _ => .single (.methods group)

namespace NodeId

/-- Asking a node for its type makes the tree remember the answer. -/
theorem knownType_grows (id : NodeId) : Keeps Grown id.knownType :=
  fun _ => .single (.resolve id)

/-- Asking a node for its type makes changes only. -/
theorem knownType_keeps (id : NodeId) : Keeps Later id.knownType :=
  id.knownType_grows.mono fun _ _ => Grown.later

/-- Visiting a child makes the tree grow at most. -/
theorem child_grows (id : NodeId) (name : String) (ignoreCase : Bool) :
    Keeps Grown (id.child name ignoreCase) :=
  fun _ => .single (.visit id name ignoreCase)

/-- Insisting on a type makes the tree remember the answer. -/
theorem requiredType_keeps (id : NodeId) : Keeps Later id.requiredType := by
  unfold requiredType
  refine Keeps.bind id.knownType_keeps fun type => ?_
  split
  · exact keeps_pure _
  · exact Keeps.bind (keeps_view _) fun _ => keeps_throw _

/-- Reading a member keeps what asking for the type, visiting the child, binding a member of the
type and making its value keep. -/
theorem readMember_keeps_of {relates : World → World → Prop} [IsPreorder World relates]
    {call : Caller} {context : Context} {id : NodeId} {name : String} {ignoreCase : Bool}
    (asked : Keeps relates id.knownType) (visited : Keeps relates (id.child name ignoreCase))
    (bound : ∀ type : HostTypeId, Keeps relates (do
      let type ← view (·.hostType type)
      type.bind? call context name ignoreCase))
    (made : ∀ bound : Bound, Keeps relates bound.toValue) :
    Keeps relates (id.readMember call context name ignoreCase) := by
  have rest (bound : Option Bound) : Keeps relates (id.boundOrChild name ignoreCase bound) := by
    cases bound with
    | some bound => exact made bound
    | none => exact Keeps.bind visited fun _ => keeps_pure _
  unfold readMember
  apply Keeps.bind asked
  intro type
  cases type with
  | some type =>
    dsimp only
    rw [← bind_assoc]
    exact Keeps.bind (bound type) rest
  | none => exact Keeps.bind (keeps_pure _) rest

/-- Reading a member keeps what reading keeps. -/
theorem readMember_keeps {relates : World → World → Prop} [IsPreorder World relates]
    {call : Caller} (reads : call.Reads relates) (context : Context) (id : NodeId) (name : String)
    (ignoreCase : Bool) : Keeps relates (id.readMember call context name ignoreCase) :=
  readMember_keeps_of (id.knownType_grows.mono reads.grown)
    ((id.child_grows name ignoreCase).mono reads.grown)
    (fun type => reads.bound context type name ignoreCase)
    fun bound => bound.toValue_grows.mono reads.grown

end NodeId

namespace ObjectId

/-- Reading a member keeps what reading keeps. -/
theorem readMember?_keeps {relates : World → World → Prop} [IsPreorder World relates]
    {call : Caller} (reads : call.Reads relates) (context : Context) (id : ObjectId) (name : String)
    (ignoreCase : Bool) : Keeps relates (id.readMember? call context name ignoreCase) := by
  intro world
  unfold readMember?
  rw [left_view_bind]
  -- The function values that a library object has handed out are known from the object itself.
  cases known : world.object id with
  | handle label length => exact refl_of relates world
  | library library made =>
    dsimp only
    split
    · exact refl_of relates world
    · next function _ _ =>
      rw [left_bind]
      have member : relates world (left (id.libraryMember library made function) world) := by
        apply reads.grown
        unfold libraryMember
        cases missing : made.lookup function with
        | some fresh => exact .refl
        | none => exact .single (.member id library made function known missing)
      split
      · exact member
      · exact member
    · exact refl_of relates world
  | package type =>
    dsimp only
    rw [← bind_assoc]
    refine Keeps.bind (reads.bound context type name ignoreCase) (fun bound => ?_) world
    cases bound with
    | some bound => exact Keeps.bind (bound.toValue_grows.mono reads.grown) fun _ => keeps_pure _
    | none => exact keeps_pure _

end ObjectId

/-! ## Writing and calling members -/

section Calls

variable {call : Caller} (keeps : call.Keeps)
include keeps

/-- Finding what a method call runs makes changes only. -/
theorem HostType.methodGroup?_keeps (context : Context) (type : HostType) (name : String)
    (ignoreCase : Bool) : Keeps Later (type.methodGroup? call context name ignoreCase) := by
  unfold methodGroup?
  split
  · exact keeps_pure _
  · refine Keeps.bind (type.bind?_keeps keeps context name ignoreCase) fun bound => ?_
    split
    · exact keeps_pure _
    · exact keeps_pure _

/-- Assigning to a field makes changes only. -/
theorem HostType.assign_keeps (context : Context) (type : HostType) (name : String) (value : Value)
    (ignoreCase : Bool) : Keeps Later (type.assign call context name value ignoreCase) := by
  unfold assign
  split
  · exact Keeps.bind (keeps _ _ _) fun _ => keeps_pure _
  · exact keeps_throw _
  · exact keeps_pure _

/-- Writing a member of a node makes changes only. -/
theorem NodeId.writeMember_keeps (context : Context) (id : NodeId) (name : String) (value : Value)
    (ignoreCase : Bool) : Keeps Later (id.writeMember call context name value ignoreCase) := by
  unfold writeMember
  refine Keeps.bind id.requiredType_keeps fun known => ?_
  refine Keeps.bind (keeps_view _) fun type => ?_
  refine Keeps.bind (type.assign_keeps keeps context name value ignoreCase) fun assigned => ?_
  split
  · exact keeps_pure _
  · exact keeps_throw _

/-- Calling a member of a node makes changes only. -/
theorem NodeId.callMember_keeps (context : Context) (id : NodeId) (name : String)
    (arguments : List Value) (ignoreCase : Bool) :
    Keeps Later (id.callMember call context name arguments ignoreCase) := by
  unfold callMember
  refine Keeps.bind id.requiredType_keeps fun known => ?_
  refine Keeps.bind (keeps_view _) fun type => ?_
  refine Keeps.bind (type.methodGroup?_keeps keeps _ name ignoreCase) fun group => ?_
  split
  · exact keeps _ _ _
  · refine Keeps.bind (readMember_keeps keeps.reads _ id name ignoreCase) fun member => ?_
    split
    · exact keeps _ _ _
    · exact keeps_throw _

/-- Writing a member of an object makes changes only. -/
theorem ObjectId.writeMember_keeps (context : Context) (id : ObjectId) (name : String)
    (value : Value) : Keeps Later (id.writeMember call context name value) := by
  unfold writeMember
  refine Keeps.bind (keeps_view _) fun object => ?_
  split
  · exact Keeps.bind (keeps_view _) fun type => type.assign_keeps keeps context name value false
  · exact keeps_pure _

/-- Calling a member of an object makes changes only. -/
theorem ObjectId.callMember?_keeps (context : Context) (id : ObjectId) (name : String)
    (arguments : List Value) (ignoreCase : Bool) :
    Keeps Later (id.callMember? call context name arguments ignoreCase) := by
  unfold callMember?
  refine Keeps.bind (keeps_view _) fun object => ?_
  split
  · exact keeps_pure _
  · split
    · exact Keeps.bind (LibraryFunction.run_keeps _ _ _) fun _ => keeps_pure _
    · exact keeps_pure _
  · refine Keeps.bind (keeps_view _) fun type => ?_
    refine Keeps.bind (type.methodGroup?_keeps keeps _ name ignoreCase) fun group => ?_
    split
    · exact Keeps.bind (keeps _ _ _) fun _ => keeps_pure _
    · exact keeps_pure _

end Calls

end ScriptHost
