import ScriptHost.Proofs.TypeTree.Run

/-!
# Representation of the type tree

What every tree that can be reached looks like inside: each node hangs below one earlier
node and is listed there once, siblings have different names, an index of names is kept
from the tenth child on and is exact, and nothing that has a place ever moves.
-/

namespace ScriptHost.Interop

open TypeTree

/-- A node hangs below one parent, which comes before it and lists it once; nobody else does. -/
theorem listed_once {tree : TypeTree} (formed : tree.WellFormed) {id : NodeId} {node : Node}
    (found : tree.node? id = some node) (notRoot : id ≠ root) :
    ∃ parent, node.parent = some parent ∧ parent.index < id.index ∧
      ∀ other, (tree.children other).count id = if other = parent then 1 else 0 := by
  obtain ⟨parent, below, earlier⟩ := formed.placed id (index_lt found) notRoot
  refine ⟨parent, by rw [← parent?_eq found]; exact below, earlier, ?_⟩
  intro other
  split
  · next here =>
    subst here
    exact List.count_eq_one_of_mem (formed.once other) ((formed.listed other id).mpr below)
  · next elsewhere =>
    rw [List.count_eq_zero, formed.listed, below, Option.some.injEq]
    exact Ne.symm elsewhere

/-- An index is there from the tenth child on, and then it holds each child's name with the
child's position and nothing else. -/
theorem index_exact {tree : TypeTree} (formed : tree.WellFormed) {id : NodeId} {node : Node}
    (found : tree.node? id = some node) :
    (node.nameIndex.isSome ↔ indexedFrom ≤ node.children.length) ∧
      ∀ index, node.nameIndex = some index → ∀ name position,
        (position? name index = some position ↔ (tree.childNames id)[position]? = some name) ∧
        ((name, position) ∈ index ↔ (tree.childNames id)[position]? = some name) := by
  have indexed := formed.indexed id
  rw [nameIndex?_eq found, children_eq found] at indexed
  rw [indexed]
  by_cases many : indexedFrom ≤ node.children.length
  · rw [if_pos many]
    refine ⟨by simp [many], ?_⟩
    intro index known name position
    obtain rfl := Option.some.inj known
    refine ⟨?_, List.mem_zipIdx_iff_getElem?⟩
    rw [position?_zipIdx (formed.named id)]
    simp
  · rw [if_neg many]
    exact ⟨by simp [many], fun index impossible => by contradiction⟩

/-- In every tree that can be reached, each node but the root has an earlier parent and is listed
by that parent only and once, siblings have different names, a node has an index exactly from its
tenth child on and that index holds each child's name with its position and nothing else, later
trees keep all nodes and lengthen the lists of children at the end, and what a visit has given
stays at the position it was given with. -/
theorem tree_representation {count : Nat} {state : Interop} (run : Run {} count state) :
    (∀ id node, state.tree.node? id = some node → id ≠ root →
      ∃ parent, node.parent = some parent ∧ parent.index < id.index ∧
        ∀ other, (state.tree.children other).count id = if other = parent then 1 else 0) ∧
    (∀ parent, (state.tree.childNames parent).Nodup) ∧
    (∀ id node, state.tree.node? id = some node →
      (node.nameIndex.isSome ↔ indexedFrom ≤ node.children.length) ∧
        ∀ index, node.nameIndex = some index → ∀ name position,
          (position? name index = some position ↔
            (state.tree.childNames id)[position]? = some name) ∧
          ((name, position) ∈ index ↔ (state.tree.childNames id)[position]? = some name)) ∧
    (∀ more later, Run state more later →
      state.tree.nodes.size ≤ later.tree.nodes.size ∧
      (∀ id : NodeId, id.index < state.tree.nodes.size →
        later.tree.name id = state.tree.name id ∧
          later.tree.parent? id = state.tree.parent? id) ∧
      ∀ id, state.tree.children id <+: later.tree.children id) ∧
    ∀ parent name ignoreCase id position grown, parent.index < state.tree.nodes.size →
      state.tree.visit state.registry parent name ignoreCase = ((id, position), grown) →
      ∀ more later, Run { state with tree := grown } more later →
        later.tree.childAt? parent position = some id := by
  have formed := run.reached_wellFormed
  refine ⟨fun id node => listed_once formed, formed.named, fun id node => index_exact formed,
    ?_, ?_⟩
  · intro more later continued
    have extended := continued.extends
    exact ⟨extended.size, fun id inside => ⟨extended.name id inside, extended.parent? id inside⟩,
      extended.children⟩
  · intro parent name ignoreCase id position grown known visited more later continued
    exact continued.extends.child (visit_result formed known visited).1

/-- Ten children of the root whose first two names differ in case only. -/
def tenChildren : List Move :=
  ["Text", "TEXT", "C", "D", "E", "F", "G", "H", "I", "J"].map (.visit root · false)

/-- The representation holds of a root with ten children, which is indexed. -/
theorem tree_representation_ten :
    AllFit {} tenChildren ∧
      (∀ parent, ((afterAll {} tenChildren).tree.childNames parent).Nodup) ∧
      (afterAll {} tenChildren).tree.isIndexed root := by
  have fit : AllFit {} tenChildren := by decide +kernel
  exact ⟨fit, (tree_representation (run_afterAll fit)).2.1, by decide +kernel⟩

end ScriptHost.Interop
