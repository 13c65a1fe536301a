import ScriptHost.Proofs.TypeTree.FullName

/-!
# What is known about the nodes

A node is honest about its full name if it holds a type exactly when it is classified as
one, and if it remembers a failed attempt from the registry's present version only where
the registry has nothing under the name. Asking a node for its type and visiting a child
keep the nodes honest, keep what is settled, and settle a node as a type only with what
the registry has under its full name at that moment.
-/

namespace ScriptHost

/-- What a node remembers is true of a registry. -/
structure Node.Honest (registry : Registry) (fullName : String) (node : Node) : Prop where
  /-- It is classified as a type exactly when it holds one. -/
  typed : node.classification = .type ↔ node.resolved.isSome
  /-- It has seen no version of the registry that is still to come. -/
  earlier : ∀ stamp, node.checked = some stamp → stamp.toNat ≤ registry.stamp.toNat
  /-- An attempt has failed at this version only if the name is not registered. -/
  missed : node.checked = some registry.stamp → node.classification = .unknown →
    registry.find? fullName = none

/-- What a node knows grows: settled nodes stay as they are, and an unknown one becomes a type only
with what the registry has under its full name. -/
structure Node.Progress (registry : Registry) (fullName : String) (old new : Node) : Prop where
  honest : new.Honest registry fullName
  kept : old.classification ≠ .unknown →
    new.classification = old.classification ∧ new.resolved = old.resolved
  found : old.classification = .unknown → new.classification = .type →
    new.resolved = registry.find? fullName

namespace Node

variable {registry : Registry} {fullName : String} {old new node : Node}

/-- A node that is no type holds none. -/
theorem Honest.resolved_eq_none (honest : node.Honest registry fullName)
    (other : node.classification ≠ .type) : node.resolved = none := by
  cases held : node.resolved with
  | none => rfl
  | some type => exact absurd (honest.typed.mpr (by rw [held]; rfl)) other

/-- An honest node makes progress by staying as it is. -/
theorem Honest.progress (honest : node.Honest registry fullName) :
    Progress registry fullName node node where
  honest := honest
  kept := fun _ => ⟨rfl, rfl⟩
  found := by
    intro unknown type
    rw [unknown] at type
    contradiction

/-- Honesty is about what a node knows of its type. -/
theorem Honest.congr (honest : old.Honest registry fullName)
    (classification : new.classification = old.classification)
    (resolved : new.resolved = old.resolved) (checked : new.checked = old.checked) :
    new.Honest registry fullName where
  typed := by
    rw [classification, resolved]
    exact honest.typed
  earlier := by
    rw [checked]
    exact honest.earlier
  missed := by
    rw [checked, classification]
    exact honest.missed

/-- A node that nobody has asked yet is honest. -/
theorem honest_of_fresh (unknown : node.classification = .unknown) (bare : node.resolved = none)
    (unchecked : node.checked = none) : node.Honest registry fullName where
  typed := by simp [unknown, bare]
  earlier := by simp [unchecked]
  missed := by simp [unchecked]

/-- A node after the registry has been asked: a type was found, or the version is noted. -/
def attempted (stamp : UInt64) (found : Option HostTypeId) (node : Node) : Node :=
  match found with
  | some type => { node with resolved := some type, classification := .type }
  | none => { node with checked := some stamp }

/-- An attempt at an unknown node is progress. -/
theorem Honest.attempted (honest : node.Honest registry fullName)
    (unknown : node.classification = .unknown) :
    Progress registry fullName node
      (node.attempted registry.stamp (registry.find? fullName)) := by
  cases known : registry.find? fullName with
  | some type =>
    refine ⟨⟨?_, honest.earlier, ?_⟩, fun settled => absurd unknown settled, ?_⟩
    · simp [Node.attempted]
    · simp [Node.attempted]
    · simp [Node.attempted, known]
  | none =>
    have bare := honest.resolved_eq_none (by rw [unknown]; decide)
    refine ⟨⟨?_, ?_, fun _ _ => known⟩, fun settled => absurd unknown settled, ?_⟩
    · simp [Node.attempted, unknown, bare]
    · simp [Node.attempted]
    · simp [Node.attempted, unknown]

/-- An unknown node that becomes a namespace after its attempt has made progress. -/
theorem Progress.scoped (progress : Progress registry fullName old new)
    (unknown : new.classification = .unknown) :
    Progress registry fullName old { new with classification := .scope } where
  honest :=
    { typed := by
        have bare := progress.honest.resolved_eq_none (by rw [unknown]; decide)
        simp [bare]
      earlier := progress.honest.earlier
      missed := by simp }
  kept := by
    intro settled
    have same := (progress.kept settled).1
    rw [unknown] at same
    exact absurd same.symm settled
  found := by simp

end Node

namespace TypeTree

/-- Every node of a tree is honest about its full name. -/
def Honest (registry : Registry) (tree : TypeTree) : Prop :=
  ∀ id node, tree.node? id = some node → node.Honest registry (tree.fullName id)

/-- Every node of a tree makes progress towards a later tree. -/
def Advances (registry : Registry) (old new : TypeTree) : Prop :=
  ∀ id node, old.node? id = some node →
    ∃ later, new.node? id = some later ∧ node.Progress registry (old.fullName id) later

/-- The type that a node holds. -/
def resolved? (tree : TypeTree) (id : NodeId) : Option HostTypeId :=
  (tree.node? id).bind (·.resolved)

/-- The type held by a node that is there. -/
theorem resolved?_eq {tree : TypeTree} {id : NodeId} {node : Node}
    (found : tree.node? id = some node) : tree.resolved? id = node.resolved := by
  simp [resolved?, found]

/-- The root alone is honest, whatever the registry has. -/
theorem initial_honest (registry : Registry) : initial.Honest registry := by
  intro id node found
  have inside : id.index < 1 := index_lt found
  obtain rfl : id = root := NodeId.eq_iff.mpr (Nat.lt_one_iff.mp inside)
  obtain rfl : node = { name := "", parent := none, classification := .scope } :=
    (Option.some.inj found).symm
  exact ⟨by decide, by simp, by simp⟩

section Resolve

variable {tree : TypeTree} {registry : Registry} {id : NodeId} {node : Node}

/-- A node is asked for its type by asking the registry, if it holds none and an attempt is due;
else it gives what it holds. -/
theorem resolve_eq (found : tree.node? id = some node) :
    tree.resolve registry id =
      if node.resolved = none ∧ needsAttempt registry node = true then
        (registry.find? (tree.fullName id), tree.update id fun node =>
          node.attempted registry.stamp (registry.find? (tree.fullName id)))
      else (node.resolved, tree) := by
  unfold resolve
  rw [found]
  cases held : node.resolved with
  | some type => simp [held]
  | none =>
    by_cases due : needsAttempt registry node = true
    · cases known : registry.find? (tree.fullName id) <;> simp [held, due, Node.attempted]
    · simp [held, due]

/-- Asking a node for its type changes no other node. -/
theorem node?_resolve_of_ne (tree : TypeTree) (registry : Registry) {other : NodeId}
    (apart : other ≠ id) : (tree.resolve registry id).2.node? other = tree.node? other := by
  cases found : tree.node? id with
  | none =>
    unfold resolve
    rw [found]
  | some node =>
    rw [resolve_eq found]
    split
    · rw [node?_update, if_neg apart]
    · rfl

/-- Settling a node changes no other node. -/
theorem node?_settle_of_ne (tree : TypeTree) (registry : Registry) {other : NodeId}
    (apart : other ≠ id) : (tree.settle registry id).node? other = tree.node? other := by
  unfold settle
  split
  · dsimp only
    split
    · rw [node?_update, if_neg apart, node?_resolve_of_ne tree registry apart]
    · exact node?_resolve_of_ne tree registry apart
  · rfl

/-- An attempt is due only at an unknown node. -/
theorem unknown_of_needsAttempt (typed : node.classification = .type ↔ node.resolved.isSome)
    (bare : node.resolved = none) (due : needsAttempt registry node = true) :
    node.classification = .unknown := by
  cases known : node.classification with
  | unknown => rfl
  | scope => simp [needsAttempt, known] at due
  | type =>
    have held := typed.mp known
    rw [bare] at held
    contradiction

/-- A node holds afterwards what it has answered. -/
theorem resolved?_resolve (tree : TypeTree) (registry : Registry) (id : NodeId) :
    (tree.resolve registry id).2.resolved? id = (tree.resolve registry id).1 := by
  cases found : tree.node? id with
  | none =>
    have same : tree.resolve registry id = (none, tree) := by
      unfold resolve
      rw [found]
    rw [same]
    simp [resolved?, found]
  | some node =>
    rw [resolve_eq found]
    split
    · next attempt =>
      unfold resolved?
      rw [node?_update, if_pos rfl, found]
      cases registry.find? (tree.fullName id) with
      | some type => rfl
      | none => exact attempt.1
    · exact resolved?_eq found

/-- An honest unknown node other than the root answers with what the registry has now. -/
theorem resolve_of_unknown (found : tree.node? id = some node)
    (honest : node.Honest registry (tree.fullName id)) (below : node.parent.isSome)
    (unknown : node.classification = .unknown) :
    (tree.resolve registry id).1 = registry.find? (tree.fullName id) := by
  have bare := honest.resolved_eq_none (by rw [unknown]; decide)
  rw [resolve_eq found]
  by_cases due : needsAttempt registry node = true
  · rw [if_pos ⟨bare, due⟩]
  · rw [if_neg fun attempt => due attempt.2]
    have current : node.checked = some registry.stamp := by
      simpa [needsAttempt, below, unknown] using due
    rw [honest.missed current unknown]
    exact bare

/-- A settled node answers with what it holds. -/
theorem resolve_of_settled (found : tree.node? id = some node)
    (honest : node.Honest registry (tree.fullName id)) (settled : node.classification ≠ .unknown) :
    (tree.resolve registry id).1 = node.resolved := by
  rw [resolve_eq found, if_neg]
  rintro ⟨bare, due⟩
  exact settled (unknown_of_needsAttempt honest.typed bare due)

/-- Asking a node for its type is progress. -/
theorem resolve_advances (honest : tree.Honest registry) (id : NodeId) :
    Advances registry tree (tree.resolve registry id).2 := by
  intro other old there
  cases found : tree.node? id with
  | none =>
    have same : tree.resolve registry id = (none, tree) := by
      unfold resolve
      rw [found]
    rw [same]
    exact ⟨old, there, (honest other old there).progress⟩
  | some node =>
    rw [resolve_eq found]
    split
    · next attempt =>
      rw [node?_update]
      by_cases here : other = id
      · subst here
        rw [found] at there
        obtain rfl := Option.some.inj there
        have own := honest other node found
        rw [if_pos rfl, found]
        exact ⟨_, rfl, own.attempted (unknown_of_needsAttempt own.typed attempt.1 attempt.2)⟩
      · rw [if_neg here]
        exact ⟨old, there, (honest other old there).progress⟩
    · exact ⟨old, there, (honest other old there).progress⟩

/-- Settling a node is progress. -/
theorem settle_advances (honest : tree.Honest registry) (id : NodeId) :
    Advances registry tree (tree.settle registry id) := by
  have tried := resolve_advances honest id
  unfold settle
  split
  · dsimp only
    split
    · next still =>
      intro other old there
      obtain ⟨later, known, progress⟩ := tried other old there
      rw [node?_update]
      by_cases here : other = id
      · subst here
        rw [classification_eq known] at still
        rw [if_pos rfl, known]
        exact ⟨_, rfl, progress.scoped still⟩
      · rw [if_neg here]
        exact ⟨later, known, progress⟩
    · exact tried
  · exact fun other old there => ⟨old, there, (honest other old there).progress⟩

/-- A node is not unknown after it has been settled. -/
theorem settle_settles (registry : Registry) (inside : id.index < tree.nodes.size) :
    (tree.settle registry id).classification id ≠ .unknown := by
  have size := (resolve_sameShape tree registry id).size
  unfold settle
  split
  · dsimp only
    split
    · obtain ⟨later, known⟩ : ∃ later, (tree.resolve registry id).2.node? id = some later :=
        exists_node (Nat.lt_of_lt_of_eq inside size.symm)
      simp [classification, node?_update, known]
    · next settled => exact settled
  · next settled => exact settled

end Resolve

section Append

variable {tree : TypeTree} {registry : Registry} {parent : NodeId} {name : String}

/-- A node with one more child knows what it knew. -/
theorem adopt_kept (node : Node) (child : NodeId) (name : String) (names : List String) :
    (Node.adopt node child name names).classification = node.classification ∧
      (Node.adopt node child name names).resolved = node.resolved ∧
      (Node.adopt node child name names).checked = node.checked :=
  ⟨rfl, rfl, rfl⟩

/-- The older nodes know what they knew when a child is new. -/
theorem append_kept (known : parent.index < tree.nodes.size) (name : String) {id : NodeId}
    {node : Node}
    (found : tree.node? id = some node) :
    ∃ later, (tree.append parent name).node? id = some later ∧
      later.classification = node.classification ∧ later.resolved = node.resolved ∧
      later.checked = node.checked := by
  rw [node?_append known, if_neg (ne_size (index_lt found))]
  by_cases here : id = parent
  · subst here
    rw [if_pos rfl, found]
    exact ⟨_, rfl, adopt_kept node _ _ _⟩
  · rw [if_neg here]
    exact ⟨node, found, rfl, rfl, rfl⟩

/-- A new child is unknown and leaves the classification of the older nodes alone. -/
theorem classification_append (known : parent.index < tree.nodes.size) (name : String)
    (id : NodeId) : (tree.append parent name).classification id = tree.classification id := by
  unfold classification
  rw [node?_append known]
  split
  · next new =>
    subst new
    rw [node?_size]
    rfl
  · split
    · next here =>
      subst here
      cases tree.node? id <;> rfl
    · rfl

/-- A new child leaves the full names of the older nodes alone. -/
theorem fullName_append (formed : tree.WellFormed) (known : parent.index < tree.nodes.size)
    (fresh : name ∉ tree.childNames parent) {id : NodeId} (inside : id.index < tree.nodes.size) :
    (tree.append parent name).fullName id = tree.fullName id := by
  apply fullName_extends formed (append_wellFormed formed known fresh) (append_extends known name)
    ?_ inside
  exact fun _ above _ => classification_append known name above

/-- A new child leaves all nodes honest. -/
theorem append_honest (formed : tree.WellFormed) (honest : tree.Honest registry)
    (known : parent.index < tree.nodes.size) (fresh : name ∉ tree.childNames parent) :
    (tree.append parent name).Honest registry := by
  intro id node there
  by_cases new : id = ⟨tree.nodes.size⟩
  · rw [node?_append known, if_pos new] at there
    obtain rfl := Option.some.inj there
    exact Node.honest_of_fresh rfl rfl rfl
  · have inside : id.index < tree.nodes.size := by
      have place := index_lt there
      rw [size_append] at place
      exact Nat.lt_of_le_of_ne (Nat.le_of_lt_succ place) (mt NodeId.eq_iff.mpr new)
    obtain ⟨old, found⟩ := exists_node inside
    obtain ⟨later, now, classification, resolved, checked⟩ := append_kept known name found
    rw [there] at now
    obtain rfl := Option.some.inj now
    rw [fullName_append formed known fresh inside]
    exact (honest id old found).congr classification resolved checked

/-- A visit is progress. -/
theorem visit_advances (formed : tree.WellFormed) (honest : tree.Honest registry)
    (known : parent.index < tree.nodes.size) (name : String) (ignoreCase : Bool) :
    Advances registry tree (tree.visit registry parent name ignoreCase).2 := by
  cases hit : tree.lookUp? parent name ignoreCase with
  | some result =>
    rw [visit_of_found hit]
    exact settle_advances honest parent
  | none =>
    rw [visit_of_missing hit]
    have fresh := not_mem_childNames formed hit
    have settles := settle_advances (append_honest formed honest known fresh) parent
    intro id old before
    obtain ⟨middle, between, classification, resolved, _⟩ := append_kept known name before
    obtain ⟨later, now, progress⟩ := settles id middle between
    rw [fullName_append formed known fresh (index_lt before)] at progress
    refine ⟨later, now, progress.honest, ?_, ?_⟩
    · rw [← classification, ← resolved]
      exact progress.kept
    · rw [← classification]
      exact progress.found

/-- A node that a visit makes is one that nobody has asked yet, and its parent is settled. -/
theorem visit_newest (known : parent.index < tree.nodes.size) (ignoreCase : Bool) {id : NodeId}
    {node : Node}
    (new : tree.nodes.size ≤ id.index)
    (found : (tree.visit registry parent name ignoreCase).2.node? id = some node) :
    node = { name, parent := some parent } ∧
      (tree.visit registry parent name ignoreCase).2.classification parent ≠ .unknown := by
  cases hit : tree.lookUp? parent name ignoreCase with
  | some result =>
    rw [visit_of_found hit] at found
    have inside := index_lt found
    rw [(settle_sameShape tree registry parent).size] at inside
    omega
  | none =>
    rw [visit_of_missing hit] at found ⊢
    have inside := index_lt found
    rw [(settle_sameShape _ registry parent).size, size_append] at inside
    obtain rfl : id = ⟨tree.nodes.size⟩ := by
      rw [NodeId.eq_iff]
      exact Nat.le_antisymm (Nat.le_of_lt_succ inside) new
    rw [node?_settle_of_ne _ registry (ne_size known).symm, node?_append known, if_pos rfl] at found
    refine ⟨(Option.some.inj found).symm, settle_settles registry ?_⟩
    rw [size_append]
    exact Nat.lt_succ_of_lt known

end Append

end TypeTree

end ScriptHost
