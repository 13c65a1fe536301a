import ScriptHost.Proofs.TypeTree.Classification

/-!
# Resolution of types

Along a run with fewer changes of the set of types than a 64-bit word can count, every
node stays honest about the registry. So an unknown node answers as if nothing had been
remembered, a type answers with what was registered when it was first found, and a
namespace never answers.
-/

namespace ScriptHost.Interop

open TypeTree

/-- What holds of a tree and its registry along a run. -/
structure Sound (state : Interop) : Prop where
  formed : state.tree.WellFormed
  top : state.tree.classification root = .scope
  /-- A node with children is settled. -/
  settled : ∀ id parent, state.tree.parent? id = some parent →
    state.tree.classification parent ≠ .unknown
  honest : state.tree.Honest state.registry

namespace Sound

variable {state : Interop}

/-- The start is sound. -/
theorem initial : Sound {} where
  formed := initial_wellFormed
  top := rfl
  settled := initial_coherent.settled
  honest := initial_honest _

/-- Progress of the nodes keeps the classification of those with children. -/
theorem classified (sound : Sound state) {later : TypeTree}
    (advances : Advances state.registry state.tree later) {id parent : NodeId}
    (below : state.tree.parent? id = some parent) :
    later.classification parent = state.tree.classification parent := by
  have inside := Nat.lt_trans (parent_index_lt sound.formed below) (index_lt_of_parent? below)
  obtain ⟨node, found⟩ := exists_node inside
  obtain ⟨next, there, progress⟩ := advances parent node found
  have settled := sound.settled id parent below
  rw [classification_eq found] at settled ⊢
  rw [classification_eq there]
  exact (progress.kept settled).1

/-- Progress of the nodes keeps the full names of the older ones. -/
theorem fullName_advances (sound : Sound state) {later : TypeTree} (formed : later.WellFormed)
    (extended : Extends state.tree later) (advances : Advances state.registry state.tree later)
    {id : NodeId} (inside : id.index < state.tree.nodes.size) :
    later.fullName id = state.tree.fullName id :=
  fullName_extends sound.formed formed extended (fun _ _ below => sound.classified advances below)
    inside

/-- Progress of the nodes with sound new ones keeps a state sound. -/
theorem advance (sound : Sound state) {later : TypeTree} (formed : later.WellFormed)
    (extended : Extends state.tree later) (advances : Advances state.registry state.tree later)
    (newest : ∀ id node, state.tree.nodes.size ≤ id.index → later.node? id = some node →
      node.Honest state.registry (later.fullName id) ∧
        ∀ parent, later.parent? id = some parent → later.classification parent ≠ .unknown) :
    Sound { state with tree := later } where
  formed := formed
  top := by
    obtain ⟨node, found⟩ : ∃ node, state.tree.node? root = some node :=
      exists_node sound.formed.rooted.1
    obtain ⟨next, there, progress⟩ := advances root node found
    have top := sound.top
    rw [classification_eq found] at top
    rw [classification_eq there, (progress.kept (by rw [top]; decide)).1, top]
  settled := by
    intro id parent below
    obtain ⟨node, found⟩ := exists_node (index_lt_of_parent? below)
    by_cases old : id.index < state.tree.nodes.size
    · rw [extended.parent? id old] at below
      rw [sound.classified advances below]
      exact sound.settled id parent below
    · exact (newest id node (Nat.le_of_not_lt old) found).2 parent below
  honest := by
    intro id node found
    by_cases old : id.index < state.tree.nodes.size
    · obtain ⟨before, there⟩ := exists_node old
      obtain ⟨next, now, progress⟩ := advances id before there
      rw [found] at now
      obtain rfl := Option.some.inj now
      rw [sound.fullName_advances formed extended advances old]
      exact progress.honest
    · exact (newest id node (Nat.le_of_not_lt old) found).1

/-- Progress that keeps the shape keeps a state sound. -/
theorem advance_sameShape (sound : Sound state) {later : TypeTree}
    (same : SameShape state.tree later) (advances : Advances state.registry state.tree later) :
    Sound { state with tree := later } := by
  apply sound.advance (same.wellFormed sound.formed) same.extends advances
  intro id node new found
  have inside := index_lt found
  rw [same.size] at inside
  omega

/-- A newer version of the registry leaves all nodes honest, as none has seen it. -/
theorem newer (sound : Sound state) {registry : Registry}
    (newer : state.registry.stamp.toNat < registry.stamp.toNat) :
    Sound { state with registry } where
  formed := sound.formed
  top := sound.top
  settled := sound.settled
  honest := by
    intro id node found
    have old := sound.honest id node found
    refine ⟨old.typed, fun stamp seen => ?_, fun seen => ?_⟩
    · exact Nat.le_of_lt (Nat.lt_of_le_of_lt (old.earlier stamp seen) newer)
    · exact absurd newer (Nat.not_lt_of_le (old.earlier registry.stamp seen))

end Sound

/-- A move counts its change of the set of types, as long as the word can hold the number. -/
theorem stamp_after {state : Interop} {move : Move}
    (few : state.registry.stamp.toNat + move.bumps state < UInt64.size) :
    (state.after move).registry.stamp.toNat = state.registry.stamp.toNat + move.bumps state := by
  have counted (once : state.registry.stamp.toNat + 1 < UInt64.size) :
      (state.registry.stamp + 1).toNat = state.registry.stamp.toNat + 1 := by
    rw [UInt64.toNat_add]
    exact Nat.mod_eq_of_lt once
  cases move with
  | register fullName type => exact counted few
  | unregister fullName =>
    simp only [after, Registry.unregister, Move.bumps] at few ⊢
    cases known : state.registry.find? fullName with
    | some type =>
      rw [known] at few
      exact counted few
    | none => rfl
  | visit parent name ignoreCase => rfl
  | resolve id => rfl

/-- A move keeps a state sound. -/
theorem Sound.after {state : Interop} (sound : Sound state) {move : Move} (fits : move.Fits state)
    (few : state.registry.stamp.toNat + move.bumps state < UInt64.size) : Sound (state.after move) := by
  have counted := stamp_after few
  cases move with
  | register fullName type =>
    apply sound.newer
    have one : Move.bumps state (.register fullName type) = 1 := rfl
    simp only [Interop.after] at counted
    omega
  | unregister fullName =>
    simp only [Interop.after, Move.bumps] at counted ⊢
    cases known : state.registry.find? fullName with
    | some type =>
      apply sound.newer
      rw [known] at counted
      simp only [Option.isSome_some, if_true] at counted
      omega
    | none =>
      have same : state.registry.unregister fullName = state.registry := by
        unfold Registry.unregister
        rw [known]
      rw [same]
      exact sound
  | visit parent name ignoreCase =>
    apply sound.advance (visit_wellFormed sound.formed fits)
      (visit_extends fits state.registry name ignoreCase)
      (visit_advances sound.formed sound.honest fits name ignoreCase)
    intro id node new found
    obtain ⟨rfl, settled⟩ := visit_newest fits ignoreCase new found
    refine ⟨Node.honest_of_fresh rfl rfl rfl, ?_⟩
    intro above below
    rw [parent?_eq found] at below
    obtain rfl := Option.some.inj below
    exact settled
  | resolve id =>
    exact sound.advance_sameShape (resolve_sameShape _ _ id) (resolve_advances sound.honest id)

/-- A move is progress. -/
theorem Sound.advances {state : Interop} (sound : Sound state) {move : Move}
    (fits : move.Fits state) : Advances state.registry state.tree (state.after move).tree := by
  have stays : Advances state.registry state.tree state.tree :=
    fun id node found => ⟨node, found, (sound.honest id node found).progress⟩
  cases move with
  | register fullName type => exact stays
  | unregister fullName => exact stays
  | visit parent name ignoreCase =>
    exact visit_advances sound.formed sound.honest fits name ignoreCase
  | resolve id => exact resolve_advances sound.honest id

/-- A run keeps a state sound and counts its changes of the set of types. -/
theorem Run.sound {start state : Interop} {count : Nat} (run : Run start count state)
    (sound : Sound start) (few : start.registry.stamp.toNat + count < UInt64.size) :
    Sound state ∧ state.registry.stamp.toNat = start.registry.stamp.toNat + count := by
  induction run with
  | refl => exact ⟨sound, rfl⟩
  | step _ move fits ih =>
    obtain ⟨before, counted⟩ := ih (by omega)
    have once := few
    rw [← Nat.add_assoc, ← counted] at once
    refine ⟨before.after fits once, ?_⟩
    rw [stamp_after once, counted, Nat.add_assoc]

/-- A node that is settled is there. -/
theorem inside_of_settled {tree : TypeTree} {id : NodeId}
    (settled : tree.classification id ≠ .unknown) : id.index < tree.nodes.size := by
  by_contra outside
  rw [classification, node?_eq_none_iff.mpr (Nat.le_of_not_lt outside)] at settled
  exact settled rfl

/-- A move leaves what is settled as it is. -/
theorem Sound.kept {state : Interop} (sound : Sound state) {move : Move} (fits : move.Fits state)
    {id : NodeId} (settled : state.tree.classification id ≠ .unknown) :
    (state.after move).tree.classification id = state.tree.classification id ∧
      (state.after move).tree.resolved? id = state.tree.resolved? id := by
  obtain ⟨node, found⟩ := exists_node (inside_of_settled settled)
  obtain ⟨later, there, progress⟩ := sound.advances fits id node found
  rw [classification_eq found] at settled ⊢
  rw [classification_eq there, resolved?_eq there, resolved?_eq found]
  exact progress.kept settled

/-- What is settled stays as it is along a run. -/
theorem Run.kept {start state : Interop} {count : Nat} (run : Run start count state)
    (sound : Sound start) (few : start.registry.stamp.toNat + count < UInt64.size) {id : NodeId}
    (settled : start.tree.classification id ≠ .unknown) :
    state.tree.classification id = start.tree.classification id ∧
      state.tree.resolved? id = start.tree.resolved? id := by
  induction run with
  | refl => exact ⟨rfl, rfl⟩
  | @step count middle before move fits ih =>
    have fewer : start.registry.stamp.toNat + count < UInt64.size := by omega
    obtain ⟨classification, resolved⟩ := ih fewer
    have between := (before.sound sound fewer).1
    rw [← classification] at settled
    rw [← classification, ← resolved]
    exact between.kept fits settled

/-- A type is found at a node by a move that settles it, under the full name that it has then. -/
structure Finding (id : NodeId) (type : HostTypeId) (before : Interop) (move : Move) : Prop where
  fits : move.Fits before
  unknown : before.tree.classification id = .unknown
  settles : (before.after move).tree.classification id = .type
  registered : before.registry.find? (before.tree.fullName id) = some type

/-- A node that is not there before a move is unknown after it. -/
theorem unknown_of_new {state : Interop} {move : Move} (fits : move.Fits state) {id : NodeId}
    (new : state.tree.nodes.size ≤ id.index) :
    (state.after move).tree.classification id = .unknown := by
  cases found : (state.after move).tree.node? id with
  | none => simp [classification, found]
  | some node =>
    cases move with
    | visit parent name ignoreCase =>
      obtain ⟨rfl, _⟩ := visit_newest fits ignoreCase new found
      rw [classification_eq found]
    | register fullName type => exact absurd (index_lt found) (Nat.not_lt_of_le new)
    | unregister fullName => exact absurd (index_lt found) (Nat.not_lt_of_le new)
    | resolve other =>
      have inside := index_lt found
      rw [show (state.after (.resolve other)).tree.nodes.size = state.tree.nodes.size from
        (resolve_sameShape state.tree state.registry other).size] at inside
      exact absurd inside (Nat.not_lt_of_le new)

/-- A move that turns an unknown node into a type finds the type that the node then holds. -/
theorem Sound.finding {state : Interop} (sound : Sound state) {move : Move}
    (fits : move.Fits state) {id : NodeId} (unknown : state.tree.classification id = .unknown)
    (settles : (state.after move).tree.classification id = .type) :
    ∃ type, Finding id type state move ∧ (state.after move).tree.resolved? id = some type := by
  have inside : id.index < state.tree.nodes.size := by
    by_contra new
    rw [unknown_of_new fits (Nat.le_of_not_lt new)] at settles
    contradiction
  obtain ⟨node, found⟩ := exists_node inside
  obtain ⟨later, there, progress⟩ := sound.advances fits id node found
  have known := unknown
  have typed := settles
  rw [classification_eq found] at known
  rw [classification_eq there] at typed
  obtain ⟨type, held⟩ := Option.isSome_iff_exists.mp (progress.honest.typed.mp typed)
  refine ⟨type, ⟨fits, unknown, settles, ?_⟩, by rw [resolved?_eq there, held]⟩
  rw [← progress.found known typed, held]

/-- The type that a node holds was found there by an earlier move of the run. -/
theorem Run.finding {state : Interop} {count : Nat} (run : Run {} count state)
    (few : count < UInt64.size) {id : NodeId} (typed : state.tree.classification id = .type) :
    ∃ type before early move late, Run {} early before ∧ Finding id type before move ∧
      Run (before.after move) late state ∧ state.tree.resolved? id = some type := by
  induction run with
  | refl =>
    obtain ⟨index⟩ := id
    cases index with
    | zero => exact absurd typed (by decide)
    | succ index =>
      have unknown : ({} : Interop).tree.classification ⟨index + 1⟩ = .unknown := rfl
      rw [unknown] at typed
      contradiction
  | @step count before run move fits ih =>
    have sound := (run.sound .initial (by simpa using Nat.lt_of_le_of_lt (Nat.le_add_right _ _) few)).1
    by_cases unknown : before.tree.classification id = .unknown
    · obtain ⟨type, finding, held⟩ := sound.finding fits unknown typed
      exact ⟨type, before, count, move, 0, run, finding, Run.refl, held⟩
    · obtain ⟨classification, resolved⟩ := sound.kept fits unknown
      rw [classification] at typed
      obtain ⟨type, first, early, search, late, start, finding, rest, held⟩ := ih (by omega) typed
      exact ⟨type, first, early, search, _, start, finding, rest.step move fits,
        resolved.trans held⟩

/-- What a node is asked for is never stale. Along a run with fewer than 2^64 changes of the set of
types, an unknown node other than the root answers with what the registry has now under its full
name, a type answers from then on with what the registry had under its full name when the node was
settled, and a namespace has no answer from then on. -/
theorem resolution_never_stale {count : Nat} {state : Interop} (run : Run {} count state)
    (few : count < UInt64.size) {id : NodeId} (inside : id.index < state.tree.nodes.size)
    (notRoot : id ≠ root) :
    (state.tree.classification id = .unknown →
      (state.tree.resolve state.registry id).1 =
        state.registry.find? (state.tree.fullName id)) ∧
    (state.tree.classification id = .type →
      ∃ type before early move late, Run {} early before ∧ Finding id type before move ∧
        Run (before.after move) late state ∧
        ∀ more later, Run state more later → count + more < UInt64.size →
          later.tree.classification id = .type ∧
            (later.tree.resolve later.registry id).1 = some type) ∧
    (state.tree.classification id = .scope →
      ∀ more later, Run state more later → count + more < UInt64.size →
        later.tree.classification id = .scope ∧
          (later.tree.resolve later.registry id).1 = none) := by
  have zero : ({} : Interop).registry.stamp.toNat = 0 := rfl
  obtain ⟨sound, counted⟩ := run.sound .initial (by rw [zero, Nat.zero_add]; exact few)
  rw [zero, Nat.zero_add] at counted
  -- A settled node answers with what it holds, and it holds the same at every later moment.
  have answers (settled : state.tree.classification id ≠ .unknown) (more : Nat) (later : Interop)
      (continued : Run state more later) (fewer : count + more < UInt64.size) :
      later.tree.classification id = state.tree.classification id ∧
        (later.tree.resolve later.registry id).1 = state.tree.resolved? id := by
    rw [← counted] at fewer
    obtain ⟨classification, resolved⟩ := continued.kept sound fewer settled
    have laterSound := (continued.sound sound fewer).1
    obtain ⟨node, found⟩ := exists_node (Nat.lt_of_lt_of_le inside continued.extends.size)
    refine ⟨classification, ?_⟩
    rw [← classification, classification_eq found] at settled
    rw [resolve_of_settled found (laterSound.honest id node found) settled, ← resolved,
      resolved?_eq found]
  obtain ⟨node, found⟩ := exists_node inside
  refine ⟨?_, ?_, ?_⟩
  · intro unknown
    obtain ⟨parent, below, _⟩ := sound.formed.placed id inside notRoot
    rw [parent?_eq found] at below
    rw [classification_eq found] at unknown
    exact resolve_of_unknown found (sound.honest id node found) (by rw [below]; rfl) unknown
  · intro typed
    obtain ⟨type, before, early, move, late, start, finding, rest, held⟩ := run.finding few typed
    refine ⟨type, before, early, move, late, start, finding, rest, ?_⟩
    intro more later continued fewer
    rw [← typed, ← held]
    exact answers (by rw [typed]; decide) more later continued fewer
  · intro asScope more later continued fewer
    have bare : state.tree.resolved? id = none := by
      rw [resolved?_eq found]
      rw [classification_eq found] at asScope
      exact (sound.honest id node found).resolved_eq_none (by rw [asScope]; decide)
    rw [← asScope, ← bare]
    exact answers (by rw [asScope]; decide) more later continued fewer

/-- A node is asked in vain, found once its name is registered, and kept after the name is gone. -/
def lateRegistration : List Move :=
  [.visit root "System" false, .resolve ⟨1⟩, .register "System" ⟨0⟩, .resolve ⟨1⟩,
    .unregister "System"]

/-- A type that was registered late and then removed still answers with what was found. -/
theorem resolution_never_stale_late :
    (afterAll {} lateRegistration).tree.classification ⟨1⟩ = .type ∧
      ∃ type, ∀ more later, Run (afterAll {} lateRegistration) more later → 2 + more < UInt64.size →
        (later.tree.resolve later.registry ⟨1⟩).1 = some type := by
  have run := run_afterAll (show AllFit {} lateRegistration by decide +kernel)
  have bumps : bumpsAll {} lateRegistration = 2 := by decide +kernel
  have typed : (afterAll {} lateRegistration).tree.classification ⟨1⟩ = .type := by decide +kernel
  rw [bumps] at run
  obtain ⟨_, found, _⟩ :=
    resolution_never_stale run (by decide) (show 1 < _ by decide +kernel) (by decide)
  obtain ⟨type, _, _, _, _, _, _, _, answers⟩ := found typed
  exact ⟨typed, type, fun more later continued fewer => (answers more later continued fewer).2⟩

end ScriptHost.Interop
