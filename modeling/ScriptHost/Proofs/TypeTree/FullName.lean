import ScriptHost.Proofs.TypeTree.Run

/-!
# Full names

In a well-formed tree the full name of a node follows from its parent's: the name alone
below the root, and elsewhere the parent's full name, what separates the two, and the
name. It depends on the names, the places and the classifications of the nodes with
children only, so a tree that extends another and classifies those alike gives the
older nodes the full names they had.
-/

namespace ScriptHost.TypeTree

section Path

variable {tree : TypeTree}

/-- A child's path is its parent's with the child at the end. -/
theorem pathFrom_succ {id parent : NodeId} (below : tree.parent? id = some parent) (steps : Nat) :
    tree.pathFrom (steps + 1) id = tree.pathFrom steps parent ++ [id] := by
  have known : (tree.node? id).bind (·.parent) = some parent := below
  rw [pathFrom, known]

/-- A node without a parent has an empty path. -/
theorem pathFrom_of_top {id : NodeId} (top : tree.parent? id = none) (steps : Nat) :
    tree.pathFrom steps id = [] := by
  have known : (tree.node? id).bind (·.parent) = none := top
  cases steps with
  | zero => rfl
  | succ steps => rw [pathFrom, known]

/-- The root is the one node without a parent. -/
theorem parent?_eq_none (formed : tree.WellFormed) {id : NodeId}
    (inside : id.index < tree.nodes.size) : tree.parent? id = none ↔ id = root := by
  constructor
  · intro top
    by_contra notRoot
    obtain ⟨parent, below, _⟩ := formed.placed id inside notRoot
    rw [top] at below
    contradiction
  · rintro rfl
    exact formed.rooted.2

/-- A parent comes before its children. -/
theorem parent_index_lt (formed : tree.WellFormed) {id parent : NodeId}
    (below : tree.parent? id = some parent) : parent.index < id.index := by
  have inside := index_lt_of_parent? below
  have notRoot : id ≠ root := by
    rintro rfl
    rw [formed.rooted.2] at below
    contradiction
  obtain ⟨other, belowOther, earlier⟩ := formed.placed id inside notRoot
  rw [below] at belowOther
  obtain rfl := Option.some.inj belowOther
  exact earlier

/-- As many steps as there are places before a node are enough for its path. -/
theorem pathFrom_enough (formed : tree.WellFormed) (id : NodeId) {steps more : Nat}
    (enough : id.index ≤ steps) (longer : id.index ≤ more) :
    tree.pathFrom steps id = tree.pathFrom more id := by
  -- Each step goes to a smaller place, which the steps that remain still cover.
  induction steps generalizing id more with
  | zero =>
    have first : id = root := NodeId.eq_iff.mpr (Nat.le_zero.mp enough)
    rw [first, pathFrom_of_top formed.rooted.2, pathFrom_of_top formed.rooted.2]
  | succ steps ih =>
    cases known : tree.parent? id with
    | none => rw [pathFrom_of_top known, pathFrom_of_top known]
    | some parent =>
      have earlier := parent_index_lt formed known
      obtain ⟨fewer, rfl⟩ : ∃ fewer, more = fewer + 1 := ⟨more - 1, by omega⟩
      have above : tree.pathFrom steps parent = tree.pathFrom fewer parent :=
        ih parent (by omega) (by omega)
      rw [pathFrom_succ known, pathFrom_succ known, above]

/-- The path of a node from below the root. -/
def path (tree : TypeTree) (id : NodeId) : List NodeId := tree.pathFrom tree.nodes.size id

/-- The path of the root is empty. -/
theorem path_root (formed : tree.WellFormed) : tree.path root = [] :=
  pathFrom_of_top formed.rooted.2 _

/-- The path of any other node is its parent's with the node at the end. -/
theorem path_of_parent (formed : tree.WellFormed) {id parent : NodeId}
    (below : tree.parent? id = some parent) : tree.path id = tree.path parent ++ [id] := by
  have inside := index_lt_of_parent? below
  have earlier := parent_index_lt formed below
  obtain ⟨fewer, size⟩ : ∃ fewer, tree.nodes.size = fewer + 1 := ⟨tree.nodes.size - 1, by omega⟩
  have above : tree.pathFrom fewer parent = tree.pathFrom (fewer + 1) parent :=
    pathFrom_enough formed parent (by omega) (by omega)
  unfold path
  rw [size, pathFrom_succ below, above]

/-- Only the root has an empty path. -/
theorem path_eq_nil (formed : tree.WellFormed) {id : NodeId} (inside : id.index < tree.nodes.size) :
    tree.path id = [] ↔ id = root := by
  constructor
  · intro empty
    rw [← parent?_eq_none formed inside]
    cases known : tree.parent? id with
    | none => rfl
    | some parent =>
      rw [path_of_parent formed known] at empty
      simp at empty
  · rintro rfl
    exact path_root formed

end Path

section FullName

variable {tree : TypeTree}

/-- The full name is made from the path. -/
theorem fullName_eq_joined (tree : TypeTree) (id : NodeId) :
    tree.fullName id = tree.joined (tree.path id) := rfl

/-- The root has no full name. -/
theorem fullName_root (formed : tree.WellFormed) : tree.fullName root = "" := by
  rw [fullName_eq_joined, path_root formed, joined]

/-- A name at the end of a path goes behind what separates it from its parent, unless it is the
only one. -/
theorem joined_append_singleton (tree : TypeTree) (above : List NodeId) (id : NodeId) :
    tree.joined (above ++ [id]) =
      if above = [] then tree.name id
      else tree.joined above ++ tree.separator (tree.parent? id) ++ tree.name id := by
  cases above with
  | nil => rfl
  | cons first rest =>
    rw [if_neg (List.cons_ne_nil first rest)]
    simp only [List.cons_append, joined, List.foldl_append, List.foldl_cons, List.foldl_nil]
    rfl

/-- The full name of a node follows from that of its parent. -/
theorem fullName_of_parent (formed : tree.WellFormed) {id parent : NodeId}
    (below : tree.parent? id = some parent) :
    tree.fullName id =
      if parent = root then tree.name id
      else tree.fullName parent ++ tree.separator (some parent) ++ tree.name id := by
  have above : parent.index < tree.nodes.size :=
    Nat.lt_trans (parent_index_lt formed below) (index_lt_of_parent? below)
  rw [fullName_eq_joined, path_of_parent formed below, joined_append_singleton, below,
    fullName_eq_joined]
  by_cases top : parent = root
  · rw [if_pos top, if_pos ((path_eq_nil formed above).mpr top)]
  · rw [if_neg top, if_neg (mt (path_eq_nil formed above).mp top)]

/-- A tree that extends another and classifies the nodes with children alike gives the older nodes
the full names they had. -/
theorem fullName_extends {new : TypeTree} (formed : tree.WellFormed) (newFormed : new.WellFormed)
    (extended : Extends tree new)
    (alike : ∀ id parent, tree.parent? id = some parent →
      new.classification parent = tree.classification parent)
    {id : NodeId} (inside : id.index < tree.nodes.size) : new.fullName id = tree.fullName id := by
  -- The induction is on the place, as parents come before their children.
  induction place : id.index using Nat.strongRecOn generalizing id with
  | ind place ih =>
    by_cases top : id = root
    · rw [top, fullName_root formed, fullName_root newFormed]
    · obtain ⟨parent, below, earlier⟩ := formed.placed id inside top
      have newBelow : new.parent? id = some parent := (extended.parent? id inside).trans below
      have known := ih parent.index (place ▸ earlier) (Nat.lt_trans earlier inside) rfl
      have separated : new.separator (some parent) = tree.separator (some parent) := by
        simp only [separator, alike id parent below]
      rw [fullName_of_parent formed below, fullName_of_parent newFormed newBelow, known, separated,
        extended.name id inside]

end FullName

end ScriptHost.TypeTree
