import ScriptHost.Proofs.TypeTree.Resolution

/-!
# Names and the registry

The registry alone gives the names on a path a full name: the first name stands alone, and
each further one goes behind what is above it, after a plus sign if a type is registered
there and a dot if not. While the registry stays as it is, a settled node holds what is
registered under its full name, and so the tree joins names as the registry does.
-/

namespace ScriptHost

namespace Registry

/-- The full name of a name below a full name. -/
def qualify (registry : Registry) (above name : String) : String :=
  above ++ (if (registry.find? above).isSome then "+" else ".") ++ name

/-- The full name of the names on a path. -/
def fullName (registry : Registry) : List String → String
  | [] => ""
  | first :: rest => rest.foldl registry.qualify first

/-- A name at the end of a path qualifies what is above it, unless it is the only one. -/
theorem fullName_append_singleton (registry : Registry) (above : List String) (name : String) :
    registry.fullName (above ++ [name]) =
      if above = [] then name else registry.qualify (registry.fullName above) name := by
  cases above with
  | nil => rfl
  | cons first rest =>
    rw [if_neg (List.cons_ne_nil first rest)]
    simp [fullName]

end Registry

namespace TypeTree

/-- The names on the way from below the root down to a node. -/
def names (tree : TypeTree) (id : NodeId) : List String := (tree.path id).map tree.name

/-- The names of a child are those of its parent with its own at the end. -/
theorem names_of_parent {tree : TypeTree} (formed : tree.WellFormed) {id parent : NodeId}
    (below : tree.parent? id = some parent) :
    tree.names id = tree.names parent ++ [tree.name id] := by
  unfold names
  rw [path_of_parent formed below, List.map_append]
  rfl

/-- Only the root has no names. -/
theorem names_eq_nil {tree : TypeTree} (formed : tree.WellFormed) {id : NodeId}
    (inside : id.index < tree.nodes.size) : tree.names id = [] ↔ id = root := by
  unfold names
  rw [List.map_eq_nil_iff, path_eq_nil formed inside]

/-- Settling an unknown node leaves it with what it answers. -/
theorem resolved?_settle {tree : TypeTree} {registry : Registry} {id : NodeId}
    (unknown : tree.classification id = .unknown) :
    (tree.settle registry id).resolved? id = (tree.resolve registry id).1 := by
  rw [← resolved?_resolve]
  unfold settle
  rw [if_pos unknown]
  dsimp only
  split
  · unfold resolved?
    rw [node?_update, if_pos rfl]
    cases (tree.resolve registry id).2.node? id <;> rfl
  · rfl

end TypeTree

namespace Interop

open TypeTree

/-- What holds of a tree that has only been walked over its registry. -/
structure Informed (state : Interop) : Prop where
  coherent : state.tree.Coherent
  honest : state.tree.Honest state.registry
  /-- A settled node holds what is registered under its full name. -/
  answered : ∀ id, state.tree.classification id ≠ .unknown → id ≠ root →
    state.tree.resolved? id = state.registry.find? (state.tree.fullName id)

namespace Informed

variable {state : Interop}

/-- The root alone is informed, whatever the registry has. -/
theorem initial (registry : Registry) : Informed ⟨.initial, registry⟩ where
  coherent := initial_coherent
  honest := initial_honest registry
  answered := by
    intro id settled notRoot
    have inside : id.index < 1 := inside_of_settled settled
    exact absurd (NodeId.eq_iff.mpr (Nat.lt_one_iff.mp inside)) notRoot

/-- An informed tree is sound. -/
theorem sound (informed : Informed state) : Sound state where
  formed := informed.coherent.formed
  top := informed.coherent.classified.top
  settled := informed.coherent.settled
  honest := informed.honest

/-- A node answers with what is registered under its full name. -/
theorem answer (informed : Informed state) {id : NodeId}
    (inside : id.index < state.tree.nodes.size) (notRoot : id ≠ root) :
    (state.tree.resolve state.registry id).1 =
      state.registry.find? (state.tree.fullName id) := by
  obtain ⟨node, found⟩ := exists_node inside
  have honest := informed.honest id node found
  obtain ⟨parent, below, _⟩ := informed.coherent.formed.placed id inside notRoot
  rw [parent?_eq found] at below
  by_cases unknown : node.classification = .unknown
  · exact resolve_of_unknown found honest (by rw [below]; rfl) unknown
  · have held := informed.answered id (by rw [classification_eq found]; exact unknown) notRoot
    rw [resolve_of_settled found honest unknown, ← held, resolved?_eq found]

/-- The root has no type. -/
theorem answer_root (informed : Informed state) :
    (state.tree.resolve state.registry root).1 = none := by
  obtain ⟨node, found⟩ : ∃ node, state.tree.node? root = some node :=
    exists_node informed.coherent.formed.rooted.1
  have honest := informed.honest root node found
  have top := informed.coherent.classified.top
  rw [classification_eq found] at top
  rw [resolve_of_settled found honest (by rw [top]; decide)]
  exact honest.resolved_eq_none (by rw [top]; decide)

/-- A move that leaves the registry alone keeps a tree informed, if every node that it settles holds
what is registered under the full name of the node. -/
theorem after (informed : Informed state) {move : Move} (fits : move.Fits state)
    (quiet : move.bumps state = 0) (still : (state.after move).registry = state.registry)
    (settles : ∀ id, state.tree.classification id = .unknown → id ≠ root →
      id.index < state.tree.nodes.size → (state.after move).tree.classification id ≠ .unknown →
        (state.after move).tree.resolved? id = state.registry.find? (state.tree.fullName id)) :
    Informed (state.after move) := by
  have few : state.registry.stamp.toNat + move.bumps state < UInt64.size := by
    rw [quiet]
    exact state.registry.stamp.toNat_lt
  obtain ⟨forward, coherent⟩ := after_coherent informed.coherent fits
  refine ⟨coherent, (informed.sound.after fits few).honest, ?_⟩
  intro id settled notRoot
  have inside : id.index < state.tree.nodes.size := by
    by_contra new
    exact settled (unknown_of_new fits (Nat.le_of_not_lt new))
  have named : (state.after move).tree.fullName id = state.tree.fullName id :=
    informed.coherent.fullName coherent.formed (after_extends fits) forward inside
  rw [still, named]
  by_cases unknown : state.tree.classification id = .unknown
  · exact settles id unknown notRoot inside settled
  · rw [(forward id unknown).2]
    exact informed.answered id unknown notRoot

/-- Asking a node for its type keeps a tree informed. -/
theorem after_resolve (informed : Informed state) (id : NodeId) :
    Informed (state.after (.resolve id)) := by
  have fits : Move.Fits state (.resolve id) := trivial
  apply informed.after fits rfl rfl
  intro other unknown notRoot inside settled
  simp only [Interop.after] at settled ⊢
  by_cases here : other = id
  · rw [here] at notRoot inside ⊢
    rw [resolved?_resolve, informed.answer inside notRoot]
  · have same := node?_resolve_of_ne state.tree state.registry here
    rw [classification, same] at settled
    exact absurd unknown settled

/-- Visiting a child keeps a tree informed. -/
theorem after_visit (informed : Informed state) {parent : NodeId}
    (known : parent.index < state.tree.nodes.size) (name : String) (ignoreCase : Bool) :
    Informed (state.after (.visit parent name ignoreCase)) := by
  have formed := informed.coherent.formed
  have fits : Move.Fits state (.visit parent name ignoreCase) := known
  apply informed.after fits rfl rfl
  intro id unknown notRoot inside settled
  simp only [Interop.after] at settled ⊢
  cases hit : state.tree.lookUp? parent name ignoreCase with
  | some found =>
    -- The parent is settled already, so nothing is.
    have listed := (lookUp?_eq_some formed hit).1
    have below := (formed.listed parent found.1).mp (List.mem_of_getElem? listed)
    rw [visit_of_found hit, settle_of_settled (informed.coherent.settled _ _ below)] at settled
    exact absurd unknown settled
  | none =>
    rw [visit_of_missing hit] at settled ⊢
    have fresh := not_mem_childNames formed hit
    have kept := classification_append known name id
    by_cases here : id = parent
    · subst here
      have honest := append_honest formed informed.honest known fresh
      obtain ⟨old, there⟩ := exists_node inside
      obtain ⟨node, found, classification, _⟩ := append_kept known name there
      obtain ⟨above, below, _⟩ := formed.placed id inside notRoot
      have hangs : node.parent = some above := by
        rw [← parent?_eq found, parent?_append known, if_neg (ne_size inside)]
        exact below
      rw [classification_eq there] at unknown
      rw [classification_eq there, unknown] at kept
      rw [resolved?_settle kept,
        resolve_of_unknown found (honest id node found) (by rw [hangs]; rfl)
          (classification.trans unknown),
        fullName_append formed known fresh inside]
    · have same := node?_settle_of_ne (state.tree.append parent name) state.registry here
      rw [classification, same, ← classification, kept] at settled
      exact absurd unknown settled

/-- What separates a name from that of its parent is what the registry puts there. -/
theorem separator (informed : Informed state) {id parent : NodeId}
    (below : state.tree.parent? id = some parent) (notRoot : parent ≠ root) :
    state.tree.separator (some parent) =
      if (state.registry.find? (state.tree.fullName parent)).isSome then "+" else "." := by
  have settled := informed.coherent.settled id parent below
  have typed := informed.coherent.classified.typed parent
  rw [informed.answered parent settled notRoot] at typed
  simp only [TypeTree.separator]
  cases known : state.tree.classification parent with
  | unknown => exact absurd known settled
  | scope =>
    have bare : ¬(state.registry.find? (state.tree.fullName parent)).isSome := by
      rw [← typed, known]
      decide
    rw [if_pos rfl, if_neg bare]
  | type =>
    rw [if_neg (by decide), if_pos (typed.mp known)]

/-- The full name of a node follows from that of its parent and from what is registered there. -/
theorem fullName_of_parent (informed : Informed state) {id parent : NodeId}
    (below : state.tree.parent? id = some parent) :
    state.tree.fullName id =
      if parent = root then state.tree.name id
      else state.registry.qualify (state.tree.fullName parent) (state.tree.name id) := by
  rw [TypeTree.fullName_of_parent informed.coherent.formed below]
  by_cases top : parent = root
  · rw [if_pos top, if_pos top]
  · rw [if_neg top, if_neg top, informed.separator below top]
    rfl

/-- The full name of a node is that of the names on its path. -/
theorem fullName_eq (informed : Informed state) {id : NodeId}
    (inside : id.index < state.tree.nodes.size) :
    state.tree.fullName id = state.registry.fullName (state.tree.names id) := by
  have formed := informed.coherent.formed
  -- The induction is on the place, as parents come before their children.
  induction place : id.index using Nat.strongRecOn generalizing id with
  | ind place ih =>
    by_cases top : id = root
    · have nameless := (names_eq_nil formed inside).mpr top
      rw [nameless, top, fullName_root formed]
      rfl
    · obtain ⟨parent, below, earlier⟩ := formed.placed id inside top
      have there : parent.index < state.tree.nodes.size := Nat.lt_trans earlier inside
      have above := ih parent.index (place ▸ earlier) there rfl
      rw [informed.fullName_of_parent below, names_of_parent formed below,
        Registry.fullName_append_singleton, above]
      by_cases first : parent = root
      · rw [if_pos first, if_pos ((names_eq_nil formed there).mpr first)]
      · rw [if_neg first, if_neg (mt (names_eq_nil formed there).mp first)]

end Informed

end Interop

end ScriptHost
