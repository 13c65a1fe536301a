import Mathlib.Data.List.Nodup
import ScriptHost.Host.TypeTree

/-!
# The shape of the type tree

The shape of a tree is what its nodes are called, where they hang and how their
children are indexed. Looking for the type of a node leaves the shape alone; only a
new child changes it. A shape is well formed when parents come before their children,
children lists and parents say the same, siblings have different names, and an index
is there from the tenth child on and lists exactly the children's names and positions.
-/

namespace ScriptHost

/-- Nodes are the same when their places are. -/
theorem NodeId.eq_iff {left right : NodeId} : left = right ↔ left.index = right.index := by
  cases left
  cases right
  simp

/-- A text matches itself, whether or not case counts. -/
theorem sameName_self (ignoreCase : Bool) (text : String) : sameName ignoreCase text text = true := by
  cases ignoreCase <;> simp [sameName, sameFolded]

namespace TypeTree

/-- The parent of a node. The root has none. -/
def parent? (tree : TypeTree) (id : NodeId) : Option NodeId := (tree.node? id).bind (·.parent)

/-- The index that a node keeps of its children's names. -/
def nameIndex? (tree : TypeTree) (id : NodeId) : Option (List (String × Nat)) :=
  (tree.node? id).bind (·.nameIndex)

/-- A well-formed shape. -/
structure WellFormed (tree : TypeTree) : Prop where
  /-- The root is there and has no parent. -/
  rooted : 0 < tree.nodes.size ∧ tree.parent? root = none
  /-- Every other node comes after its parent. -/
  placed : ∀ id : NodeId, id.index < tree.nodes.size → id ≠ root →
    ∃ parent, tree.parent? id = some parent ∧ parent.index < id.index
  /-- The children of a node are the nodes whose parent it is. -/
  listed : ∀ parent id, id ∈ tree.children parent ↔ tree.parent? id = some parent
  /-- No child is listed twice. -/
  once : ∀ parent, (tree.children parent).Nodup
  /-- Siblings have different names. -/
  named : ∀ parent, (tree.childNames parent).Nodup
  /-- From the tenth child on the names are indexed in order, and before that not at all. -/
  indexed : ∀ id, tree.nameIndex? id =
    if indexedFrom ≤ (tree.children id).length then some (tree.childNames id).zipIdx else none

/-! ## Reading a node -/

section Reading

variable {tree : TypeTree} {id : NodeId} {node : Node}

/-- The nodes of a tree are those before its size. -/
theorem node?_eq_none_iff : tree.node? id = none ↔ tree.nodes.size ≤ id.index :=
  Array.getElem?_eq_none_iff

/-- Every place before the size has a node. -/
theorem exists_node (inside : id.index < tree.nodes.size) : ∃ node, tree.node? id = some node :=
  ⟨_, Array.getElem?_eq_getElem inside⟩

/-- A node is before the size. -/
theorem index_lt (found : tree.node? id = some node) : id.index < tree.nodes.size := by
  by_contra outside
  rw [node?_eq_none_iff.mpr (by omega)] at found
  contradiction

/-- There is no node at the size yet. -/
theorem node?_size (tree : TypeTree) : tree.node? ⟨tree.nodes.size⟩ = none :=
  Array.getElem?_eq_none (Nat.le_refl _)

/-- A place before the size is not the size. -/
theorem ne_size (inside : id.index < tree.nodes.size) : id ≠ ⟨tree.nodes.size⟩ := by
  rw [Ne, NodeId.eq_iff]
  exact Nat.ne_of_lt inside

/-- The children of a node that is there. -/
theorem children_eq (found : tree.node? id = some node) : tree.children id = node.children := by
  simp [children, found]

/-- The parent of a node that is there. -/
theorem parent?_eq (found : tree.node? id = some node) : tree.parent? id = node.parent := by
  simp [parent?, found]

/-- The index of a node that is there. -/
theorem nameIndex?_eq (found : tree.node? id = some node) :
    tree.nameIndex? id = node.nameIndex := by
  simp [nameIndex?, found]

/-- The classification of a node that is there. -/
theorem classification_eq (found : tree.node? id = some node) :
    tree.classification id = node.classification := by
  simp [classification, found]

/-- A node with a parent is there. -/
theorem index_lt_of_parent? {parent : NodeId} (below : tree.parent? id = some parent) :
    id.index < tree.nodes.size := by
  by_contra outside
  simp [parent?, node?_eq_none_iff.mpr (Nat.le_of_not_lt outside)] at below

end Reading

/-! ## Changing one node -/

/-- A change of one node is seen at that node only. -/
theorem node?_update (tree : TypeTree) (id other : NodeId) (change : Node → Node) :
    (tree.update id change).node? other =
      if other = id then (tree.node? id).map change else tree.node? other := by
  unfold update node?
  rw [Array.getElem?_modify]
  by_cases same : other = id
  · subst same
    simp
  · rw [if_neg same, if_neg (fun places => same (NodeId.eq_iff.mpr places.symm))]

/-- A change of one node changes no places. -/
theorem size_update (tree : TypeTree) (id : NodeId) (change : Node → Node) :
    (tree.update id change).nodes.size = tree.nodes.size :=
  Array.size_modify

/-- Two trees of one shape. -/
structure SameShape (old new : TypeTree) : Prop where
  size : new.nodes.size = old.nodes.size
  name : new.name = old.name
  parent? : new.parent? = old.parent?
  children : new.children = old.children
  nameIndex? : new.nameIndex? = old.nameIndex?

namespace SameShape

/-- A tree has its own shape. -/
theorem refl (tree : TypeTree) : SameShape tree tree := ⟨rfl, rfl, rfl, rfl, rfl⟩

/-- Trees with the shape of one tree have one shape. -/
theorem trans {old middle new : TypeTree} (first : SameShape old middle)
    (second : SameShape middle new) : SameShape old new :=
  ⟨second.size.trans first.size, second.name.trans first.name,
    second.parent?.trans first.parent?, second.children.trans first.children,
    second.nameIndex?.trans first.nameIndex?⟩

/-- Trees of one shape have the same children's names. -/
theorem childNames {old new : TypeTree} (same : SameShape old new) :
    new.childNames = old.childNames := by
  funext id
  simp only [TypeTree.childNames, same.children, same.name]

/-- Being well formed is a matter of shape. -/
theorem wellFormed {old new : TypeTree} (same : SameShape old new) (formed : old.WellFormed) :
    new.WellFormed where
  rooted := by
    rw [same.size, same.parent?]
    exact formed.rooted
  placed := by
    rw [same.size, same.parent?]
    exact formed.placed
  listed := by
    rw [same.children, same.parent?]
    exact formed.listed
  once := by
    rw [same.children]
    exact formed.once
  named := by
    rw [same.childNames]
    exact formed.named
  indexed := by
    rw [same.nameIndex?, same.children, same.childNames]
    exact formed.indexed

end SameShape

/-- A change that keeps a node's name, parent, children and index keeps the shape. -/
theorem update_sameShape (tree : TypeTree) (id : NodeId) (change : Node → Node)
    (name : ∀ node, (change node).name = node.name)
    (parent : ∀ node, (change node).parent = node.parent)
    (children : ∀ node, (change node).children = node.children)
    (nameIndex : ∀ node, (change node).nameIndex = node.nameIndex) :
    SameShape tree (tree.update id change) := by
  have kept {Field : Type} (look : Option Node → Field)
      (same : ∀ node, look (some (change node)) = look (some node)) (other : NodeId) :
      look ((tree.update id change).node? other) = look (tree.node? other) := by
    rw [node?_update]
    split
    · next here =>
      subst here
      cases tree.node? other with
      | none => rfl
      | some node => exact same node
    · rfl
  refine ⟨size_update tree id change, ?_, ?_, ?_, ?_⟩ <;> funext other
  · exact kept (fun found => (found.map Node.name).getD "") name other
  · exact kept (fun found => found.bind Node.parent) parent other
  · exact kept (fun found => (found.map Node.children).getD []) children other
  · exact kept (fun found => found.bind Node.nameIndex) nameIndex other

/-- Looking for the type of a node keeps the shape. -/
theorem resolve_sameShape (tree : TypeTree) (registry : Registry) (id : NodeId) :
    SameShape tree (tree.resolve registry id).2 := by
  unfold resolve
  split
  · exact SameShape.refl tree
  · split
    · exact SameShape.refl tree
    · split
      · split
        · exact update_sameShape tree id _ (fun _ => rfl) (fun _ => rfl) (fun _ => rfl) fun _ => rfl
        · exact update_sameShape tree id _ (fun _ => rfl) (fun _ => rfl) (fun _ => rfl) fun _ => rfl
      · exact SameShape.refl tree

/-- Making a namespace of a node keeps the shape. -/
theorem scoped_sameShape (tree : TypeTree) (id : NodeId) :
    SameShape tree (tree.update id fun node => { node with classification := .scope }) :=
  update_sameShape tree id (fun node => { node with classification := .scope }) (fun _ => rfl)
    (fun _ => rfl) (fun _ => rfl) fun _ => rfl

/-- Settling a node keeps the shape. -/
theorem settle_sameShape (tree : TypeTree) (registry : Registry) (id : NodeId) :
    SameShape tree (tree.settle registry id) := by
  unfold settle
  split
  · dsimp only
    split
    · exact (resolve_sameShape tree registry id).trans (scoped_sameShape _ id)
    · exact resolve_sameShape tree registry id
  · exact SameShape.refl tree

end TypeTree

end ScriptHost
