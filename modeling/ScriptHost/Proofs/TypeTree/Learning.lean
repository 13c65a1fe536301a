import ScriptHost.Proofs.TypeTree.Progress
import ScriptHost.Proofs.World.Kept

/-!
# What the type tree learns

Asking nodes for their types and visiting children makes the tree learn, and it forgets
nothing. Nodes keep their names, parents and children, a node that is settled stays
settled, and one that holds a type holds it from then on.
-/

namespace ScriptHost

/-- A node later on: it has adopted children at the end, and it has been classified if it was
unknown. -/
structure Node.Learned (old new : Node) : Prop where
  name : new.name = old.name
  parent : new.parent = old.parent
  children : old.children <+: new.children
  nameIndex : ∀ index, old.nameIndex = some index → ∃ more, new.nameIndex = some (index ++ more)
  classification : old.classification ≠ .unknown → new.classification = old.classification
  resolved : ∀ type, old.resolved = some type → new.resolved = some type

namespace Node.Learned

/-- A node can stay as it is. -/
theorem refl (node : Node) : node.Learned node where
  name := rfl
  parent := rfl
  children := List.prefix_refl _
  nameIndex := fun index known => ⟨[], by rw [List.append_nil]; exact known⟩
  classification := fun _ => rfl
  resolved := fun _ known => known

/-- What is learned twice is learned. -/
theorem trans {old middle new : Node} (first : old.Learned middle) (second : middle.Learned new) :
    old.Learned new where
  name := second.name.trans first.name
  parent := second.parent.trans first.parent
  children := first.children.trans second.children
  nameIndex := by
    intro index known
    obtain ⟨some, between⟩ := first.nameIndex index known
    obtain ⟨more, later⟩ := second.nameIndex _ between
    exact ⟨some ++ more, by rw [later, List.append_assoc]⟩
  classification := by
    intro settled
    have between := first.classification settled
    rw [← between] at settled ⊢
    exact second.classification settled
  resolved := fun type known => second.resolved type (first.resolved type known)

/-- A node learns of a child that it adopts. -/
theorem adopt (node : Node) (child : NodeId) (name : String) (names : List String) :
    node.Learned (TypeTree.Node.adopt node child name names) :=
  { refl node with
    children := List.prefix_append _ _
    nameIndex := by
      intro index known
      refine ⟨[(name, node.children.length)], ?_⟩
      unfold TypeTree.Node.adopt
      simp only [known] }

end Node.Learned

/-- A tree later on: every node is there, and it may have learned something. -/
def TypeTree.Learned (old new : TypeTree) : Prop :=
  ∀ id node, old.node? id = some node → ∃ later, new.node? id = some later ∧ node.Learned later

namespace TypeTree

/-- A tree can stay as it is. -/
theorem Learned.refl (tree : TypeTree) : Learned tree tree :=
  fun _ node found => ⟨node, found, .refl node⟩

/-- What is learned twice is learned. -/
theorem Learned.trans {old middle new : TypeTree} (first : Learned old middle)
    (second : Learned middle new) : Learned old new := by
  intro id node found
  obtain ⟨between, there, before⟩ := first id node found
  obtain ⟨later, known, after⟩ := second id between there
  exact ⟨later, known, before.trans after⟩

/-- A node that holds a type holds it in every tree that has learned more. -/
theorem Learned.resolved? {old new : TypeTree} (learned : Learned old new) {id : NodeId}
    {type : HostTypeId} (held : old.resolved? id = some type) : new.resolved? id = some type := by
  obtain ⟨node, found, knows⟩ := Option.bind_eq_some_iff.mp held
  obtain ⟨later, there, more⟩ := learned id node found
  rw [resolved?_eq there]
  exact more.resolved type knows

variable {tree : TypeTree} {id : NodeId}

/-- A tree learns what one of its nodes learns. -/
theorem learned_update {change : Node → Node}
    (learned : ∀ node, tree.node? id = some node → node.Learned (change node)) :
    Learned tree (tree.update id change) := by
  intro other node found
  rw [node?_update]
  by_cases here : other = id
  · subst here
    rw [if_pos rfl, found]
    exact ⟨change node, rfl, learned node found⟩
  · rw [if_neg here]
    exact ⟨node, found, .refl node⟩

/-- A tree learns of a new node. -/
theorem learned_push (node : Node) : Learned tree ⟨tree.nodes.push node⟩ :=
  fun _ other found => ⟨other, Array.getElem?_push_of_some found node, .refl other⟩

/-- A tree learns of a new child. -/
theorem learned_append (parent : NodeId) (name : String) :
    Learned tree (tree.append parent name) := by
  unfold append
  exact (learned_push _).trans (learned_update fun node _ => .adopt node _ _ _)

/-- A tree learns the type of a node. -/
theorem learned_resolve (registry : Registry) (id : NodeId) :
    Learned tree (tree.resolve registry id).2 := by
  unfold resolve
  split
  · exact .refl tree
  · next node found =>
    split
    · exact .refl tree
    · next bare =>
      split
      · next due =>
        split
        · next type registered =>
          -- Only a node that is no namespace and has no type is asked about.
          refine learned_update fun known there => ?_
          obtain rfl := Option.some.inj (found.symm.trans there)
          have other : node.classification ≠ .scope := by
            intro scope
            simp [needsAttempt, scope] at due
          refine { Node.Learned.refl node with classification := ?_, resolved := ?_ }
          · intro settled
            cases kind : node.classification with
            | unknown => exact absurd kind settled
            | scope => exact absurd kind other
            | type => rfl
          · intro other known
            rw [bare] at known
            contradiction
        · exact learned_update fun node _ => { Node.Learned.refl node with }
      · exact .refl tree

/-- A tree learns whether a node is a type or a namespace. -/
theorem learned_settle (registry : Registry) (id : NodeId) :
    Learned tree (tree.settle registry id) := by
  unfold settle
  split
  · dsimp only
    split
    · next still =>
      refine (learned_resolve registry id).trans (learned_update fun node found => ?_)
      have unknown : node.classification = .unknown := (classification_eq found).symm.trans still
      exact { Node.Learned.refl node with
        classification := fun settled => absurd unknown settled }
    · exact learned_resolve registry id
  · exact .refl tree

/-- A tree learns of the child that a visit makes, and whether its parent is a namespace. -/
theorem learned_visit (registry : Registry) (parent : NodeId) (name : String)
    (ignoreCase : Bool) : Learned tree (tree.visit registry parent name ignoreCase).2 := by
  unfold visit
  split
  · exact learned_settle registry parent
  · exact (learned_append parent name).trans (learned_settle registry parent)

end TypeTree

/-! ## Along changes -/

/-- Along changes the tree learns at most. -/
theorem World.Later.learned {old new : World} (later : Later old new) :
    old.tree.Learned new.tree := by
  induction later with
  | refl => exact .refl _
  | @tail middle last _ change ih =>
    refine ih.trans ?_
    cases change with
    | resolve id => exact TypeTree.learned_resolve middle.registry id
    | visit id name ignoreCase => exact TypeTree.learned_visit middle.registry id name ignoreCase
    | _ => exact .refl _

end ScriptHost
