import ScriptHost.Environment.Launch
import ScriptHost.Proofs.Evaluation.Effects
import ScriptHost.Proofs.World.Kept
import ScriptHost.Proofs.TypeTree.Naming

/-!
# Browsing the type tree

Children are visited, nodes are asked for their types, and members are read, on a fresh tree and
in any order. As long as the registry stays as it is, the order does not show: what a node is called
and what it answers follow from the names on its path and from the registry. Getters of fields that
are read on the way can browse the tree themselves.
-/

namespace ScriptHost

open ScriptHost.Action TypeTree

/-- A call on a node of the type tree. Reading a member can run the getter of a field. -/
inductive NodeCall where
  | child (id : NodeId) (name : String) (ignoreCase : Bool)
  | knownType (id : NodeId)
  | member (call : Caller) (context : Context) (id : NodeId) (name : String) (ignoreCase : Bool)

namespace NodeCall

/-- The node that is called. -/
def node : NodeCall → NodeId
  | .child id _ _ | .knownType id | .member _ _ id _ _ => id

/-- The world that a call leaves. -/
def leaves (world : World) : NodeCall → World
  | .child id name ignoreCase => left (id.child name ignoreCase) world
  | .knownType id => left id.knownType world
  | .member call context id name ignoreCase =>
    left (id.readMember call context name ignoreCase) world

end NodeCall

/-- What a call on a node makes of a world: the registry and the node stay, and so does what is
known of a tree that has only been walked. -/
structure Browses (id : NodeId) (old new : World) : Prop where
  registry : new.registry = old.registry
  there : id.index < old.tree.nodes.size → id.index < new.tree.nodes.size
  informed : id.index < old.tree.nodes.size → Interop.Informed ⟨old.tree, old.registry⟩ →
    Interop.Informed ⟨new.tree, new.registry⟩

/-- The getters that a call can run browse the tree at most. -/
def NodeCall.Quiet (world : World) : NodeCall → Prop
  | .member call context id name ignoreCase => ∀ type : HostTypeId,
    Keeps (Browses id) ((world.hostType type).bind? call context name ignoreCase)
  | _ => True

/-- Calls one after another, each on a node that is there. -/
inductive Browsed (start : World) : World → Prop where
  | refl : Browsed start start
  | call {world : World} (browsed : Browsed start world) (call : NodeCall)
      (there : call.node.index < world.tree.nodes.size) (quiet : call.Quiet world) :
      Browsed start (call.leaves world)

instance (id : NodeId) : IsPreorder World (Browses id) where
  refl := fun _ => ⟨rfl, fun there => there, fun _ informed => informed⟩
  trans := by
    intro old middle new first second
    refine ⟨second.registry.trans first.registry, fun there => second.there (first.there there), ?_⟩
    intro there informed
    exact second.informed (first.there there) (first.informed there informed)

namespace NodeId

variable (id : NodeId)

/-- Asking a node for its type is browsing. -/
theorem knownType_browses : Keeps (Browses id) id.knownType := by
  intro world
  refine ⟨rfl, ?_, fun _ informed => informed.after_resolve id⟩
  intro there
  have same := (resolve_sameShape world.tree world.registry id).size
  exact Nat.lt_of_lt_of_eq there same.symm

/-- Visiting a child is browsing. -/
theorem child_browses (name : String) (ignoreCase : Bool) :
    Keeps (Browses id) (id.child name ignoreCase) := by
  intro world
  refine ⟨rfl, ?_, fun there informed => informed.after_visit there name ignoreCase⟩
  intro there
  have extended := visit_extends there world.registry name ignoreCase
  exact Nat.lt_of_lt_of_le there extended.size

/-- Reading a member is browsing where the getters browse at most. -/
theorem readMember_browses {call : Caller} {context : Context} {name : String} {ignoreCase : Bool}
    {world : World} (quiet : ∀ type : HostTypeId,
      Keeps (Browses id) ((world.hostType type).bind? call context name ignoreCase)) :
    Browses id world (left (id.readMember call context name ignoreCase) world) := by
  have made (bound : Option Bound) :
      Keeps (Browses id) (id.boundOrChild name ignoreCase bound) := by
    rcases bound with _ | ⟨content | group⟩
    · exact Keeps.bind (id.child_browses name ignoreCase) fun _ => keeps_pure _
    · exact keeps_pure _
    · exact fun world => ⟨rfl, fun there => there, fun _ informed => informed⟩
  -- Asking for the type leaves the host types alone, so what is bound next is quiet still.
  have asked := id.knownType_browses world
  have types (type : HostTypeId) : (left id.knownType world).hostType type = world.hostType type :=
    rfl
  unfold readMember
  rw [left_bind]
  cases outcome id.knownType world with
  | error interrupt => exact asked
  | ok type =>
    refine trans_of (Browses id) asked ?_
    cases type with
    | none => exact Keeps.bind (keeps_pure _) made _
    | some type =>
      dsimp only
      rw [left_view_bind, types]
      exact (quiet type).bind made _

end NodeId

/-- Calls leave a tree that was fresh informed of the registry that they found. -/
theorem Browsed.spec {start world : World} (browsed : Browsed start world)
    (fresh : start.tree = .initial) :
    world.registry = start.registry ∧ Interop.Informed ⟨world.tree, world.registry⟩ := by
  induction browsed with
  | refl =>
    rw [fresh]
    exact ⟨rfl, Interop.Informed.initial start.registry⟩
  | @call world _ call there quiet ih =>
    obtain ⟨same, informed⟩ := ih
    have browses : Browses call.node world (call.leaves world) := by
      cases call with
      | child id name ignoreCase => exact id.child_browses name ignoreCase world
      | knownType id => exact id.knownType_browses world
      | member _ _ id _ _ => exact id.readMember_browses quiet
    exact ⟨browses.registry.trans same, browses.informed there informed⟩

/-- Naming does not depend on the order of calls. Two fresh trees over one registry have been
browsed, and both have a node with the same names on its path, matched with or without case in
any of the calls. The two nodes have the same full name and give the same answer when asked for
their type, which for any node but the root is what the registry has under the full name. The full
name is the node's own name below the root, and elsewhere that of the parent, a plus sign if the
registry has a type there and a dot if not, and the node's own name. -/
theorem naming_order_free {start other first second : World} (fresh : start.tree = .initial)
    (otherFresh : other.tree = .initial) (common : other.registry = start.registry)
    (browsed : Browsed start first) (otherBrowsed : Browsed other second) {id twin : NodeId}
    (inside : id.index < first.tree.nodes.size) (twinInside : twin.index < second.tree.nodes.size)
    (named : first.tree.names id = second.tree.names twin) :
    first.tree.fullName id = second.tree.fullName twin ∧
    outcome id.knownType first = outcome twin.knownType second ∧
    (id ≠ root →
      outcome id.knownType first = .ok (start.registry.find? (first.tree.fullName id))) ∧
    ∀ parent, first.tree.parent? id = some parent →
      first.tree.fullName id =
        if parent = root then first.tree.name id
        else first.tree.fullName parent ++
          (if (start.registry.find? (first.tree.fullName parent)).isSome then "+" else ".") ++
            first.tree.name id := by
  obtain ⟨registry, informed⟩ := browsed.spec fresh
  obtain ⟨otherRegistry, otherInformed⟩ := otherBrowsed.spec otherFresh
  rw [registry] at informed
  rw [otherRegistry, common] at otherInformed
  have asked : outcome id.knownType first = .ok (first.tree.resolve start.registry id).1 := by
    rw [← registry]
    rfl
  have otherAsked : outcome twin.knownType second =
      .ok (second.tree.resolve start.registry twin).1 := by
    rw [← common, ← otherRegistry]
    rfl
  have alike : first.tree.fullName id = second.tree.fullName twin := by
    calc
      first.tree.fullName id = start.registry.fullName (first.tree.names id) :=
        informed.fullName_eq inside
      _ = start.registry.fullName (second.tree.names twin) := by rw [named]
      _ = second.tree.fullName twin := (otherInformed.fullName_eq twinInside).symm
  have tops : id = root ↔ twin = root := by
    rw [← names_eq_nil informed.coherent.formed inside, named,
      names_eq_nil otherInformed.coherent.formed twinInside]
  refine ⟨alike, ?_, ?_, ?_⟩
  · rw [asked, otherAsked]
    by_cases top : id = root
    · obtain rfl := top
      obtain rfl := tops.mp rfl
      rw [informed.answer_root, otherInformed.answer_root]
    · have answer := informed.answer inside top
      have otherAnswer := otherInformed.answer twinInside (mt tops.mpr top)
      rw [answer, otherAnswer, alike]
  · intro notRoot
    rw [asked, informed.answer inside notRoot]
  · intro parent below
    exact informed.fullName_of_parent below

/-- A type with a field. -/
def textType : HostType := .build "System.Text" [.field "Size" (.done (.ofNat 3))]

/-- A world with a type registered below an unregistered name. -/
def nested : World := left textType.register {}

/-- The type's child is visited from above, with no question asked. -/
def straightDown : List NodeCall :=
  [.child root "System" false, .child ⟨1⟩ "Text" false, .child ⟨2⟩ "Encoder" false]

/-- Another child of the root is visited, the nodes on the path are asked for their types and read
as members, and the field is read. -/
def roundabout : List NodeCall :=
  [.child root "Other" false, .child root "System" false, .knownType ⟨2⟩,
    .member (callWithin 1) {} ⟨2⟩ "Text" false, .member (callWithin 1) {} ⟨3⟩ "Size" false,
    .child ⟨3⟩ "Encoder" false]

/-- A name is that of the field or of no member. -/
theorem textType_find? (name : String) :
    textType.find? name false = none ∨
      textType.find? name false = some (name, .field (.done (.ofNat 3)) none) := by
  by_cases same : "Size" = name
  · exact .inr (by subst same; rfl)
  · have missing : findMember name textType.members = none := if_neg same
    exact .inl (by rw [HostType.find?, missing]; rfl)

/-- A node below a registered type has one name on two ways to it. -/
theorem naming_order_free_nested :
    (straightDown.foldl NodeCall.leaves nested).tree.fullName ⟨3⟩ =
        (roundabout.foldl NodeCall.leaves nested).tree.fullName ⟨4⟩ ∧
      outcome (NodeId.mk 3).knownType (straightDown.foldl NodeCall.leaves nested) =
        outcome (NodeId.mk 4).knownType (roundabout.foldl NodeCall.leaves nested) := by
  have quiet (world : World) (id : NodeId) (name : String)
      (types : world.hostTypes = #[textType]) :
      (NodeCall.member (callWithin 1) {} id name false).Quiet world := by
    rintro ⟨_ | place⟩
    · have known : world.hostType ⟨0⟩ = textType := by rw [World.hostType, types]; rfl
      rw [known, HostType.bind?]
      rcases textType_find? name with found | found
      · rw [found]
        exact keeps_pure _
      · rw [found]
        exact fun later => refl_of (Browses id) later
    · have unknown : world.hostType ⟨place + 1⟩ = default := by rw [World.hostType, types]; rfl
      rw [unknown]
      exact keeps_pure _
  have still (world : World) (id : NodeId) (name : String) :
      (NodeCall.leaves world (.member (callWithin 1) {} id name false)).hostTypes =
        world.hostTypes :=
    (NodeId.readMember_keeps (callWithin_keeps 1).reads {} id name false world).kept.hostTypes
  have browsed : Browsed nested (straightDown.foldl NodeCall.leaves nested) :=
    ((Browsed.refl.call (.child root "System" false) (by decide +kernel) trivial).call
      (.child ⟨1⟩ "Text" false) (by decide +kernel) trivial).call
      (.child ⟨2⟩ "Encoder" false) (by decide +kernel) trivial
  have otherBrowsed : Browsed nested (roundabout.foldl NodeCall.leaves nested) :=
    (((((Browsed.refl.call (.child root "Other" false) (by decide +kernel) trivial).call
      (.child root "System" false) (by decide +kernel) trivial).call
      (.knownType ⟨2⟩) (by decide +kernel) trivial).call
      (.member (callWithin 1) {} ⟨2⟩ "Text" false) (by decide +kernel) (quiet _ _ _ rfl)).call
      (.member (callWithin 1) {} ⟨3⟩ "Size" false) (by decide +kernel)
      (quiet _ _ _ ((still _ _ _).trans rfl))).call
      (.child ⟨3⟩ "Encoder" false) (by decide +kernel) trivial
  have there : 3 < (straightDown.foldl NodeCall.leaves nested).tree.nodes.size := by
    decide +kernel
  have twinThere : 4 < (roundabout.foldl NodeCall.leaves nested).tree.nodes.size := by
    decide +kernel
  have named : (straightDown.foldl NodeCall.leaves nested).tree.names ⟨3⟩ =
      (roundabout.foldl NodeCall.leaves nested).tree.names ⟨4⟩ := by
    decide +kernel
  obtain ⟨fullName, answer, _⟩ :=
    naming_order_free rfl rfl rfl browsed otherBrowsed there twinThere named
  exact ⟨fullName, answer⟩

/-- The two ways give the registered type a plus sign, and the namespace above it a dot. -/
example : (roundabout.foldl NodeCall.leaves nested).tree.fullName ⟨4⟩ = "System.Text+Encoder" := by
  decide +kernel

end ScriptHost
