import ScriptHost.Proofs.TypeTree.Progress

/-!
# Classification of the nodes

A node is classified as a type exactly when it holds one, and as a namespace only once it
has a child. Looking for a type and visiting a child change unknown nodes only, and a
visit leaves its parent settled. So along any run, however often the set of types has
changed, settled nodes stay as they are. Full names rest on the classification of nodes
with children, which are all settled, and never change.
-/

namespace ScriptHost

namespace TypeTree

/-- What the classification of a node says about it. -/
structure Classified (tree : TypeTree) : Prop where
  /-- A node is classified as a type exactly when it holds one. -/
  typed : ∀ id, tree.classification id = .type ↔ (tree.resolved? id).isSome
  /-- The root is a namespace. -/
  top : tree.classification root = .scope
  /-- Any other namespace has a child. -/
  peopled : ∀ id, tree.classification id = .scope → id ≠ root → tree.children id ≠ []

/-- A well-formed tree whose classifications are right and whose nodes with children are
settled. -/
structure Coherent (tree : TypeTree) : Prop where
  formed : tree.WellFormed
  classified : tree.Classified
  settled : ∀ id parent, tree.parent? id = some parent → tree.classification parent ≠ .unknown

/-- The settled nodes of a tree keep their classification and their type in a later one. -/
def Forward (old new : TypeTree) : Prop :=
  ∀ id, old.classification id ≠ .unknown →
    new.classification id = old.classification id ∧ new.resolved? id = old.resolved? id

/-- A tree goes forward by staying as it is. -/
theorem Forward.refl (tree : TypeTree) : Forward tree tree := fun _ _ => ⟨rfl, rfl⟩

/-- Going forward twice is going forward. -/
theorem Forward.trans {old middle new : TypeTree} (first : Forward old middle)
    (second : Forward middle new) : Forward old new := by
  intro id settled
  obtain ⟨classification, resolved⟩ := first id settled
  rw [← classification] at settled
  obtain ⟨later, held⟩ := second id settled
  exact ⟨later.trans classification, held.trans resolved⟩

/-! ## Changing one node -/

section Update

variable {tree : TypeTree} {id : NodeId} {node : Node}

/-- A changed node has the classification that the change gives it. -/
theorem classification_update (found : tree.node? id = some node) (change : Node → Node)
    (other : NodeId) :
    (tree.update id change).classification other =
      if other = id then (change node).classification else tree.classification other := by
  unfold classification
  rw [node?_update, found]
  split <;> rfl

/-- A changed node holds the type that the change gives it. -/
theorem resolved?_update (found : tree.node? id = some node) (change : Node → Node)
    (other : NodeId) :
    (tree.update id change).resolved? other =
      if other = id then (change node).resolved else tree.resolved? other := by
  unfold resolved?
  rw [node?_update, found]
  split <;> rfl

/-- A change of an unknown node goes forward. -/
theorem update_forward (found : tree.node? id = some node)
    (unknown : node.classification = .unknown) (change : Node → Node) :
    Forward tree (tree.update id change) := by
  intro other settled
  have apart : other ≠ id := by
    rintro rfl
    rw [classification_eq found] at settled
    exact settled unknown
  rw [classification_update found, resolved?_update found, if_neg apart, if_neg apart]
  exact ⟨rfl, rfl⟩

/-- A change of an unknown node that keeps its children leaves the classifications right, if the
change makes a type of it exactly when it gives it one, and a namespace only if it has children. -/
theorem Classified.update (classified : tree.Classified) (found : tree.node? id = some node)
    (unknown : node.classification = .unknown) {change : Node → Node}
    (children : (tree.update id change).children = tree.children)
    (typed : (change node).classification = .type ↔ (change node).resolved.isSome)
    (peopled : (change node).classification = .scope → tree.children id ≠ []) :
    (tree.update id change).Classified where
  typed := by
    intro other
    rw [classification_update found, resolved?_update found]
    by_cases here : other = id
    · rw [if_pos here, if_pos here]
      exact typed
    · rw [if_neg here, if_neg here]
      exact classified.typed other
  top := by
    have settled : tree.classification root ≠ .unknown := by
      rw [classified.top]
      decide
    rw [(update_forward found unknown change root settled).1]
    exact classified.top
  peopled := by
    intro other scope notRoot
    rw [children]
    rw [classification_update found] at scope
    by_cases here : other = id
    · rw [if_pos here] at scope
      rw [here]
      exact peopled scope
    · rw [if_neg here] at scope
      exact classified.peopled other scope notRoot

end Update

/-! ## Looking for a type -/

section Resolve

variable {tree : TypeTree} {registry : Registry} {id : NodeId}

/-- Looking for a type leaves the tree alone or is an attempt at an unknown node. -/
theorem resolve_cases (classified : tree.Classified) (registry : Registry) (id : NodeId) :
    (tree.resolve registry id).2 = tree ∨
      ∃ node, tree.node? id = some node ∧ node.classification = .unknown ∧
        (tree.resolve registry id).2 = tree.update id fun node =>
          node.attempted registry.stamp (registry.find? (tree.fullName id)) := by
  cases found : tree.node? id with
  | none =>
    left
    unfold resolve
    rw [found]
  | some node =>
    rw [resolve_eq found]
    split
    · next attempt =>
      have typed := classified.typed id
      rw [classification_eq found, resolved?_eq found] at typed
      exact .inr ⟨node, rfl, unknown_of_needsAttempt typed attempt.1 attempt.2, rfl⟩
    · exact .inl rfl

/-- Looking for a type goes forward. -/
theorem resolve_forward (classified : tree.Classified) (registry : Registry) (id : NodeId) :
    Forward tree (tree.resolve registry id).2 := by
  rcases resolve_cases classified registry id with same | ⟨node, found, unknown, attempt⟩
  · rw [same]
    exact Forward.refl tree
  · rw [attempt]
    exact update_forward found unknown _

/-- Looking for a type leaves the classifications right. -/
theorem resolve_classified (classified : tree.Classified) (registry : Registry) (id : NodeId) :
    (tree.resolve registry id).2.Classified := by
  have children := (resolve_sameShape tree registry id).children
  rcases resolve_cases classified registry id with same | ⟨node, found, unknown, attempt⟩
  · rw [same]
    exact classified
  · have bare : node.resolved = none := by
      have typed := classified.typed id
      rw [classification_eq found, resolved?_eq found, unknown] at typed
      simpa using typed
    rw [attempt] at children ⊢
    apply classified.update found unknown children
    · cases registry.find? (tree.fullName id) <;> simp [Node.attempted, unknown, bare]
    · cases registry.find? (tree.fullName id) <;> simp [Node.attempted, unknown]

/-- A settled node needs no settling. -/
theorem settle_of_settled (settled : tree.classification id ≠ .unknown) :
    tree.settle registry id = tree := by
  unfold settle
  rw [if_neg settled]

/-- Settling a node with children goes forward and leaves the classifications right. -/
theorem settle_spec (classified : tree.Classified) (registry : Registry)
    (inside : id.index < tree.nodes.size) (children : tree.children id ≠ []) :
    Forward tree (tree.settle registry id) ∧ (tree.settle registry id).Classified := by
  have forward := resolve_forward classified registry id
  have tried := resolve_classified classified registry id
  have shape := resolve_sameShape tree registry id
  unfold settle
  split
  · dsimp only
    split
    · next still =>
      rw [← shape.size] at inside
      rw [← shape.children] at children
      obtain ⟨node, found⟩ := exists_node inside
      have typed := tried.typed id
      rw [classification_eq found] at still typed
      rw [resolved?_eq found, still] at typed
      refine ⟨forward.trans (update_forward found still _), ?_⟩
      apply tried.update found still (scoped_sameShape _ id).children
      · simpa using typed
      · exact fun _ => children
    · exact ⟨forward, tried⟩
  · exact ⟨Forward.refl tree, classified⟩

end Resolve

/-! ## Visits -/

section Visit

variable {tree : TypeTree} {parent : NodeId}

/-- The older nodes hold the types they held when a child is new, and the child holds none. -/
theorem resolved?_append (known : parent.index < tree.nodes.size) (name : String) :
    (tree.append parent name).resolved? = tree.resolved? := by
  funext id
  unfold resolved?
  rw [node?_append known]
  split
  · next new =>
    subst new
    rw [node?_size]
    rfl
  · split
    · next here =>
      subst here
      cases tree.node? id <;> rfl
    · rfl

/-- A new child leaves the classifications right. -/
theorem append_classified (classified : tree.Classified) (known : parent.index < tree.nodes.size)
    (name : String) : (tree.append parent name).Classified where
  typed := by
    intro id
    rw [classification_append known, resolved?_append known]
    exact classified.typed id
  top := by
    rw [classification_append known]
    exact classified.top
  peopled := by
    intro id scope notRoot
    rw [classification_append known] at scope
    rw [children_append known]
    split
    · simp
    · exact classified.peopled id scope notRoot

/-- A visit goes forward and leaves a tree coherent. -/
theorem visit_spec (coherent : tree.Coherent) (registry : Registry)
    (known : parent.index < tree.nodes.size) (name : String) (ignoreCase : Bool) :
    Forward tree (tree.visit registry parent name ignoreCase).2 ∧
      (tree.visit registry parent name ignoreCase).2.Coherent := by
  have formed : (tree.visit registry parent name ignoreCase).2.WellFormed :=
    visit_wellFormed coherent.formed known
  cases hit : tree.lookUp? parent name ignoreCase with
  | some found =>
    -- The child that is found has settled its parent when it was made.
    have listed := (lookUp?_eq_some coherent.formed hit).1
    have below := (coherent.formed.listed parent found.1).mp (List.mem_of_getElem? listed)
    rw [visit_of_found hit, settle_of_settled (coherent.settled found.1 parent below)]
    exact ⟨Forward.refl tree, coherent⟩
  | none =>
    rw [visit_of_missing hit] at formed ⊢
    have kept (id : NodeId) : (tree.append parent name).classification id =
        tree.classification id := classification_append known name id
    have children : (tree.append parent name).children parent ≠ [] := by
      rw [children_append known, if_pos rfl]
      simp
    have inside : parent.index < (tree.append parent name).nodes.size := by
      rw [size_append]
      omega
    obtain ⟨forward, classified⟩ :=
      settle_spec (append_classified coherent.classified known name) registry inside children
    have settled := settle_settles registry inside
    have shape := settle_sameShape (tree.append parent name) registry parent
    refine ⟨?_, formed, classified, ?_⟩
    · intro id before
      rw [← resolved?_append known name, ← kept id]
      rw [← kept id] at before
      exact forward id before
    · intro id above below
      rw [shape.parent?, parent?_append known] at below
      split at below
      · obtain rfl := Option.some.inj below
        exact settled
      · have before := coherent.settled id above below
        rw [← kept above] at before
        rw [(forward above before).1]
        exact before

/-- The tree of a root alone is coherent. -/
theorem initial_coherent : initial.Coherent where
  formed := initial_wellFormed
  classified := by
    refine ⟨?_, rfl, ?_⟩
    · rintro ⟨index⟩
      cases index with
      | zero => decide
      | succ index => exact ⟨fun typed => by contradiction, fun held => by contradiction⟩
    · rintro ⟨index⟩ scope notRoot
      cases index with
      | zero => exact absurd rfl notRoot
      | succ index => contradiction
  settled := by
    intro id parent below
    have inside : id.index < 1 := index_lt_of_parent? below
    obtain rfl : id = root := NodeId.eq_iff.mpr (Nat.lt_one_iff.mp inside)
    rw [initial_wellFormed.rooted.2] at below
    contradiction

/-- A coherent tree that goes forward to an extension of it gives the older nodes the full names
that they had. -/
theorem Coherent.fullName {later : TypeTree} (coherent : tree.Coherent) (formed : later.WellFormed)
    (extended : Extends tree later) (forward : Forward tree later) {id : NodeId}
    (inside : id.index < tree.nodes.size) : later.fullName id = tree.fullName id := by
  apply fullName_extends coherent.formed formed extended ?_ inside
  intro child parent below
  exact (forward parent (coherent.settled child parent below)).1

end Visit

end TypeTree

namespace Interop

open TypeTree

/-! ## Runs -/

/-- A move goes forward and leaves a tree coherent. -/
theorem after_coherent {state : Interop} (coherent : state.tree.Coherent) {move : Move}
    (fits : move.Fits state) :
    Forward state.tree (state.after move).tree ∧ (state.after move).tree.Coherent := by
  cases move with
  | register fullName type => exact ⟨Forward.refl _, coherent⟩
  | unregister fullName => exact ⟨Forward.refl _, coherent⟩
  | visit parent name ignoreCase => exact visit_spec coherent state.registry fits name ignoreCase
  | resolve id =>
    have shape := resolve_sameShape state.tree state.registry id
    have forward := resolve_forward coherent.classified state.registry id
    refine ⟨forward, shape.wellFormed coherent.formed,
      resolve_classified coherent.classified state.registry id, ?_⟩
    intro child parent below
    have before := coherent.settled child parent (by rw [← shape.parent?]; exact below)
    have same := (forward parent before).1
    exact fun unknown => before (same ▸ unknown)

/-- A run goes forward and leaves a tree coherent. -/
theorem Run.coherent {start state : Interop} {count : Nat} (run : Run start count state)
    (coherent : start.tree.Coherent) : Forward start.tree state.tree ∧ state.tree.Coherent := by
  induction run with
  | refl => exact ⟨Forward.refl _, coherent⟩
  | step _ move fits ih =>
    obtain ⟨forward, between⟩ := ih
    obtain ⟨further, after⟩ := after_coherent between fits
    exact ⟨forward.trans further, after⟩

/-- Every tree that can be reached is coherent. -/
theorem Run.reached_coherent {state : Interop} {count : Nat} (run : Run {} count state) :
    state.tree.Coherent :=
  (run.coherent initial_coherent).2

/-- However a tree was reached and however the run goes on, a node that is a namespace or a type
stays one, and with the type that it holds. At every moment a node other than the root is unknown
only without children, a namespace only with a child and without a type, and a type exactly when it
holds one; the root is a namespace without a type. A node has one full name for ever. -/
theorem classification_permanent {count : Nat} {state : Interop} (run : Run {} count state) :
    (∀ more later, Run state more later → ∀ id, state.tree.classification id ≠ .unknown →
      later.tree.classification id = state.tree.classification id ∧
        later.tree.resolved? id = state.tree.resolved? id) ∧
    (∀ id node, state.tree.node? id = some node → id ≠ root →
      (node.classification = .unknown → node.children = []) ∧
      (node.classification = .scope → node.children ≠ [] ∧ node.resolved = none) ∧
      (node.classification = .type ↔ node.resolved.isSome)) ∧
    (∃ top, state.tree.node? root = some top ∧ top.classification = .scope ∧
      top.resolved = none) ∧
    ∀ more later, Run state more later → ∀ id : NodeId, id.index < state.tree.nodes.size →
      later.tree.fullName id = state.tree.fullName id := by
  have coherent := run.reached_coherent
  have classified := coherent.classified
  -- A node that is no type holds none.
  have bare (id : NodeId) (node : Node) (found : state.tree.node? id = some node)
      (other : node.classification = .scope) : node.resolved = none := by
    have typed := classified.typed id
    rw [classification_eq found, resolved?_eq found, other] at typed
    simpa using typed
  refine ⟨?_, ?_, ?_, ?_⟩
  · intro more later continued id settled
    exact (continued.coherent coherent).1 id settled
  · intro id node found notRoot
    rw [← children_eq found]
    refine ⟨?_, ?_, ?_⟩
    · intro unknown
      by_contra some
      obtain ⟨child, member⟩ := List.exists_mem_of_ne_nil _ some
      have below := (coherent.formed.listed id child).mp member
      apply coherent.settled child id below
      rw [classification_eq found, unknown]
    · intro scope
      refine ⟨classified.peopled id ?_ notRoot, bare id node found scope⟩
      rw [classification_eq found, scope]
    · rw [← classification_eq found, ← resolved?_eq found]
      exact classified.typed id
  · obtain ⟨top, found⟩ : ∃ top, state.tree.node? root = some top :=
      exists_node coherent.formed.rooted.1
    have scope := classified.top
    rw [classification_eq found] at scope
    exact ⟨top, found, scope, bare root top found scope⟩
  · intro more later continued id inside
    obtain ⟨forward, laterCoherent⟩ := continued.coherent coherent
    exact coherent.fullName laterCoherent.formed continued.extends forward inside

/-- A child is visited below an unregistered name and found as a type, and the name is registered
after that. -/
def lateName : List Move :=
  [.visit root "System" false, .visit ⟨1⟩ "Text" false, .register "System.Text" ⟨0⟩,
    .resolve ⟨2⟩, .register "System" ⟨1⟩]

/-- A name that is registered after its node has become a namespace changes neither the node nor
the full name of its child. -/
theorem classification_permanent_late :
    (afterAll {} lateName).tree.classification ⟨1⟩ = .scope ∧
      ∀ more later, Run (afterAll {} lateName) more later →
        later.tree.classification ⟨1⟩ = .scope ∧ later.tree.resolved? ⟨2⟩ = some ⟨0⟩ ∧
          later.tree.fullName ⟨2⟩ = "System.Text" := by
  have run := run_afterAll (show AllFit {} lateName by decide +kernel)
  obtain ⟨kept, _, _, named⟩ := classification_permanent run
  have above : (afterAll {} lateName).tree.classification ⟨1⟩ = .scope := by decide +kernel
  have below : (afterAll {} lateName).tree.classification ⟨2⟩ = .type := by decide +kernel
  have held : (afterAll {} lateName).tree.resolved? ⟨2⟩ = some ⟨0⟩ := by decide +kernel
  have name : (afterAll {} lateName).tree.fullName ⟨2⟩ = "System.Text" := by decide +kernel
  refine ⟨above, ?_⟩
  intro more later continued
  have stays := (kept more later continued ⟨1⟩ (by rw [above]; decide)).1
  have holds := (kept more later continued ⟨2⟩ (by rw [below]; decide)).2
  have inside : 2 < (afterAll {} lateName).tree.nodes.size := by decide +kernel
  exact ⟨stays.trans above, holds.trans held, (named more later continued ⟨2⟩ inside).trans name⟩

end Interop

end ScriptHost
