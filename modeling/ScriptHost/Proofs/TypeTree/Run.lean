import ScriptHost.Proofs.TypeTree.Growth

/-!
# Runs over a type tree

Hosts and scripts register types, remove them, visit children and ask nodes for their
types, in any order. A run counts how often the set of types has changed. Every tree
that a run from the start reaches is well formed, and a run only adds: nodes keep their
names, parents and places, and lists of children grow at the end.
-/

namespace ScriptHost

/-- A type tree with the registry behind it. -/
structure Interop where
  tree : TypeTree := .initial
  registry : Registry := {}

namespace Interop

/-- What hosts and scripts do to a tree and its registry. -/
inductive Move where
  | register (fullName : String) (type : HostTypeId)
  | unregister (fullName : String)
  | visit (parent : NodeId) (name : String) (ignoreCase : Bool)
  | resolve (id : NodeId)

/-- A visit needs a node to start from. -/
def Move.Fits (state : Interop) : Move → Prop
  | .visit parent _ _ => parent.index < state.tree.nodes.size
  | _ => True

/-- How often a move changes the set of types. -/
def Move.bumps (state : Interop) : Move → Nat
  | .register _ _ => 1
  | .unregister fullName => if (state.registry.find? fullName).isSome then 1 else 0
  | _ => 0

/-- The tree and the registry after a move. -/
def after (state : Interop) : Move → Interop
  | .register fullName type => { state with registry := state.registry.register fullName type }
  | .unregister fullName => { state with registry := state.registry.unregister fullName }
  | .visit parent name ignoreCase =>
    { state with tree := (state.tree.visit state.registry parent name ignoreCase).2 }
  | .resolve id => { state with tree := (state.tree.resolve state.registry id).2 }

/-- Moves one after another, with the number of changes of the set of types. -/
inductive Run (start : Interop) : Nat → Interop → Prop where
  | refl : Run start 0 start
  | step {count : Nat} {state : Interop} (run : Run start count state) (move : Move)
      (fits : move.Fits state) : Run start (count + move.bumps state) (state.after move)

/-- The tree and the registry after moves in a row. -/
def afterAll (state : Interop) : List Move → Interop
  | [] => state
  | move :: rest => (state.after move).afterAll rest

/-- How often moves in a row change the set of types. -/
def bumpsAll (state : Interop) : List Move → Nat
  | [] => 0
  | move :: rest => move.bumps state + (state.after move).bumpsAll rest

/-- Each of moves in a row can be made where the ones before have led. -/
def AllFit (state : Interop) : List Move → Prop
  | [] => True
  | move :: rest => move.Fits state ∧ (state.after move).AllFit rest

instance (state : Interop) (move : Move) : Decidable (move.Fits state) :=
  match move with
  | .visit parent _ _ => inferInstanceAs (Decidable (parent.index < state.tree.nodes.size))
  | .register _ _ | .unregister _ | .resolve _ => inferInstanceAs (Decidable True)

/-- Whether moves in a row can all be made is decided by making them. -/
def decideAllFit (state : Interop) : (moves : List Move) → Decidable (state.AllFit moves)
  | [] => inferInstanceAs (Decidable True)
  | move :: rest =>
    have := decideAllFit (state.after move) rest
    inferInstanceAs (Decidable (move.Fits state ∧ (state.after move).AllFit rest))

instance (state : Interop) (moves : List Move) : Decidable (state.AllFit moves) :=
  decideAllFit state moves

/-- A run can be followed by another one. -/
theorem Run.trans {start middle last : Interop} {first second : Nat} (before : Run start first middle)
    (later : Run middle second last) : Run start (first + second) last := by
  induction later with
  | refl => exact before
  | step _ move fits ih =>
    rw [← Nat.add_assoc]
    exact ih.step move fits

/-- Moves that can all be made are a run. -/
theorem run_afterAll {state : Interop} {moves : List Move} (fit : state.AllFit moves) :
    Run state (state.bumpsAll moves) (state.afterAll moves) := by
  induction moves generalizing state with
  | nil => exact Run.refl
  | cons move rest ih =>
    have first : Run state (move.bumps state) (state.after move) := by
      simpa using Run.refl.step move fit.1
    exact first.trans (ih fit.2)

end Interop

namespace TypeTree

/-! ## Visits -/

section Visit

variable {tree : TypeTree} {registry : Registry} {parent : NodeId} {name : String}
  {ignoreCase : Bool}

/-- A visit that finds its child settles the parent. -/
theorem visit_of_found {found : NodeId × Nat}
    (hit : tree.lookUp? parent name ignoreCase = some found) :
    tree.visit registry parent name ignoreCase = (found, tree.settle registry parent) := by
  unfold visit
  rw [hit]

/-- A visit that finds no child makes one at the end and settles the parent. -/
theorem visit_of_missing (missing : tree.lookUp? parent name ignoreCase = none) :
    tree.visit registry parent name ignoreCase =
      ((⟨tree.nodes.size⟩, (tree.children parent).length),
        (tree.append parent name).settle registry parent) := by
  unfold visit
  rw [missing]

/-- A visit keeps the shape well formed. -/
theorem visit_wellFormed (formed : tree.WellFormed) (known : parent.index < tree.nodes.size) :
    (tree.visit registry parent name ignoreCase).2.WellFormed := by
  cases hit : tree.lookUp? parent name ignoreCase with
  | some found =>
    rw [visit_of_found hit]
    exact (settle_sameShape tree registry parent).wellFormed formed
  | none =>
    rw [visit_of_missing hit]
    exact (settle_sameShape _ registry parent).wellFormed
      (append_wellFormed formed known (not_mem_childNames formed hit))

/-- A visit gives a child at its position, of a matching name. -/
theorem visit_result (formed : tree.WellFormed) (known : parent.index < tree.nodes.size)
    {id : NodeId} {position : Nat} {grown : TypeTree}
    (visited : tree.visit registry parent name ignoreCase = ((id, position), grown)) :
    (grown.children parent)[position]? = some id ∧
      sameName ignoreCase (grown.name id) name = true := by
  cases hit : tree.lookUp? parent name ignoreCase with
  | some found =>
    rw [visit_of_found hit] at visited
    obtain ⟨rfl, rfl⟩ := Prod.mk.inj visited
    have same := settle_sameShape tree registry parent
    rw [same.children, same.name]
    exact lookUp?_eq_some formed hit
  | none =>
    rw [visit_of_missing hit] at visited
    obtain ⟨made, rfl⟩ := Prod.mk.inj visited
    obtain ⟨rfl, rfl⟩ := Prod.mk.inj made
    have same := settle_sameShape (tree.append parent name) registry parent
    rw [same.children, same.name, children_append known, name_append known, if_pos rfl, if_pos rfl]
    exact ⟨by simp, sameName_self ignoreCase name⟩

end Visit

/-! ## What a run keeps -/

/-- The later tree has the nodes of the earlier one, with what hangs below them growing at the
end. -/
structure Extends (old new : TypeTree) : Prop where
  size : old.nodes.size ≤ new.nodes.size
  name : ∀ id : NodeId, id.index < old.nodes.size → new.name id = old.name id
  parent? : ∀ id : NodeId, id.index < old.nodes.size → new.parent? id = old.parent? id
  children : ∀ id, old.children id <+: new.children id

namespace Extends

/-- A tree extends itself. -/
theorem refl (tree : TypeTree) : Extends tree tree :=
  ⟨Nat.le_refl _, fun _ _ => rfl, fun _ _ => rfl, fun _ => List.prefix_refl _⟩

/-- A tree extends what the tree it extends does. -/
theorem trans {old middle new : TypeTree} (first : Extends old middle)
    (second : Extends middle new) : Extends old new where
  size := Nat.le_trans first.size second.size
  name := fun id inside =>
    (second.name id (Nat.lt_of_lt_of_le inside first.size)).trans (first.name id inside)
  parent? := fun id inside =>
    (second.parent? id (Nat.lt_of_lt_of_le inside first.size)).trans (first.parent? id inside)
  children := fun id => (first.children id).trans (second.children id)

/-- A child keeps its position. -/
theorem child {old new : TypeTree} (extended : Extends old new) {parent id : NodeId}
    {position : Nat} (listed : (old.children parent)[position]? = some id) :
    (new.children parent)[position]? = some id := by
  obtain ⟨more, longer⟩ := extended.children parent
  obtain ⟨inside, _⟩ := List.getElem?_eq_some_iff.mp listed
  rw [← longer, List.getElem?_append_left inside]
  exact listed

end Extends

/-- A tree of the same shape extends a tree. -/
theorem SameShape.extends {old new : TypeTree} (same : SameShape old new) : Extends old new where
  size := Nat.le_of_eq same.size.symm
  name := fun id _ => congrFun same.name id
  parent? := fun id _ => congrFun same.parent? id
  children := fun id => by
    refine ⟨[], ?_⟩
    rw [same.children, List.append_nil]

/-- A new child extends a tree. -/
theorem append_extends {tree : TypeTree} {parent : NodeId} (known : parent.index < tree.nodes.size)
    (name : String) : Extends tree (tree.append parent name) where
  size := by
    rw [size_append]
    exact Nat.le_succ _
  name := fun id inside => by rw [name_append known, if_neg (ne_size inside)]
  parent? := fun id inside => by rw [parent?_append known, if_neg (ne_size inside)]
  children := fun id => by
    rw [children_append known]
    split
    · next here =>
      subst here
      exact List.prefix_append _ _
    · exact List.prefix_refl _

/-- A visit extends a tree. -/
theorem visit_extends {tree : TypeTree} {parent : NodeId} (known : parent.index < tree.nodes.size)
    (registry : Registry) (name : String) (ignoreCase : Bool) :
    Extends tree (tree.visit registry parent name ignoreCase).2 := by
  cases hit : tree.lookUp? parent name ignoreCase with
  | some found =>
    rw [visit_of_found hit]
    exact (settle_sameShape tree registry parent).extends
  | none =>
    rw [visit_of_missing hit]
    exact (append_extends known name).trans (settle_sameShape _ registry parent).extends

/-- The tree of a root alone is well formed. -/
theorem initial_wellFormed : initial.WellFormed := by
  have bare (id : NodeId) : initial.children id = [] ∧ initial.parent? id = none ∧
      initial.nameIndex? id = none := by
    obtain ⟨index⟩ := id
    cases index with
    | zero => exact ⟨rfl, rfl, rfl⟩
    | succ index => exact ⟨rfl, rfl, rfl⟩
  have nameless (id : NodeId) : initial.childNames id = [] := by simp [childNames, bare]
  constructor
  · exact ⟨by decide, rfl⟩
  · intro id inside notRoot
    have first : id.index < 1 := inside
    exact absurd (NodeId.eq_iff.mpr (Nat.lt_one_iff.mp first)) notRoot
  · intro parent id
    simp [bare]
  · intro parent
    simp [bare]
  · intro parent
    simp [nameless]
  · intro id
    simp [bare, indexedFrom]

end TypeTree

namespace Interop

open TypeTree

/-- A move keeps the shape well formed. -/
theorem after_wellFormed {state : Interop} (formed : state.tree.WellFormed) {move : Move}
    (fits : move.Fits state) : (state.after move).tree.WellFormed := by
  cases move with
  | register fullName type => exact formed
  | unregister fullName => exact formed
  | visit parent name ignoreCase => exact visit_wellFormed formed fits
  | resolve id => exact (resolve_sameShape state.tree state.registry id).wellFormed formed

/-- A move extends the tree. -/
theorem after_extends {state : Interop} {move : Move} (fits : move.Fits state) :
    Extends state.tree (state.after move).tree := by
  cases move with
  | register fullName type => exact Extends.refl _
  | unregister fullName => exact Extends.refl _
  | visit parent name ignoreCase => exact visit_extends fits state.registry name ignoreCase
  | resolve id => exact (resolve_sameShape state.tree state.registry id).extends

/-- A run keeps the shape well formed. -/
theorem Run.wellFormed {start state : Interop} {count : Nat} (run : Run start count state)
    (formed : start.tree.WellFormed) : state.tree.WellFormed := by
  induction run with
  | refl => exact formed
  | step _ move fits ih => exact after_wellFormed ih fits

/-- A run extends the tree. -/
theorem Run.extends {start state : Interop} {count : Nat} (run : Run start count state) :
    Extends start.tree state.tree := by
  induction run with
  | refl => exact Extends.refl _
  | step _ move fits ih => exact ih.trans (after_extends fits)

/-- Every tree that can be reached is well formed. -/
theorem Run.reached_wellFormed {state : Interop} {count : Nat} (run : Run {} count state) :
    state.tree.WellFormed :=
  run.wellFormed initial_wellFormed

end Interop

end ScriptHost
