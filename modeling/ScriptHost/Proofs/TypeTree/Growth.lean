import ScriptHost.Proofs.TypeTree.Shape

/-!
# Growth of the type tree

A new child is the last node and the last child of its parent, and nothing else moves.
Looking a name up gives a child whose name matches, at the child's position. Where it
gives none, no child has the name, so a child made then keeps siblings apart and the
shape well formed.
-/

namespace ScriptHost.TypeTree

/-! ## Looking up a name -/

section Scan

variable {tree : TypeTree} {name : String} {ignoreCase : Bool}

/-- A scan misses exactly when no name matches. -/
theorem scan_eq_none_iff (start : Nat) (ids : List NodeId) :
    tree.scan name ignoreCase start ids = none ↔
      ∀ id ∈ ids, sameName ignoreCase (tree.name id) name = false := by
  induction ids generalizing start with
  | nil => simp [scan]
  | cons id rest ih =>
    unfold scan
    by_cases hit : sameName ignoreCase (tree.name id) name = true
    · simp [hit]
    · rw [if_neg hit, ih]
      simp [hit]

/-- A scan that hits gives a listed node with its position and a matching name. -/
theorem scan_eq_some {start position : Nat} {ids : List NodeId} {id : NodeId}
    (found : tree.scan name ignoreCase start ids = some (id, position)) :
    ∃ place, position = start + place ∧ ids[place]? = some id ∧
      sameName ignoreCase (tree.name id) name = true := by
  induction ids generalizing start with
  | nil => simp [scan] at found
  | cons first rest ih =>
    unfold scan at found
    by_cases hit : sameName ignoreCase (tree.name first) name = true
    · rw [if_pos hit] at found
      obtain ⟨rfl, rfl⟩ := Prod.mk.inj (Option.some.inj found)
      exact ⟨0, by omega, rfl, hit⟩
    · rw [if_neg hit] at found
      obtain ⟨place, rfl, listed, matching⟩ := ih found
      exact ⟨place + 1, by omega, by simpa using listed, matching⟩

/-- More nodes behind those listed do not change what a scan has hit. -/
theorem scan_append {start : Nat} {ids : List NodeId} {result : NodeId × Nat}
    (found : tree.scan name ignoreCase start ids = some result) (more : List NodeId) :
    tree.scan name ignoreCase start (ids ++ more) = some result := by
  induction ids generalizing start with
  | nil => simp [scan] at found
  | cons first rest ih =>
    rw [List.cons_append]
    unfold scan at found ⊢
    by_cases hit : sameName ignoreCase (tree.name first) name = true
    · rw [if_pos hit] at found ⊢
      exact found
    · rw [if_neg hit] at found ⊢
      exact ih found

/-- Scanning looks at the names of the listed nodes only. -/
theorem scan_congr {other : TypeTree} (start : Nat) (ids : List NodeId)
    (same : ∀ id ∈ ids, other.name id = tree.name id) :
    other.scan name ignoreCase start ids = tree.scan name ignoreCase start ids := by
  induction ids generalizing start with
  | nil => rfl
  | cons first rest ih =>
    unfold scan
    rw [same first List.mem_cons_self, ih _ fun id member => same id (List.mem_cons_of_mem _ member)]

end Scan

/-- In an index that lists different names in order, a name has the position it is listed at. -/
theorem position?_zipIdx {names : List String} (different : names.Nodup) (name : String)
    (start position : Nat) :
    position? name (names.zipIdx start) = some position ↔
      start ≤ position ∧ names[position - start]? = some name := by
  induction names generalizing start with
  | nil => simp [position?]
  | cons first rest ih =>
    obtain ⟨fresh, different⟩ := List.nodup_cons.mp different
    rw [List.zipIdx_cons]
    unfold position?
    by_cases here : first = name
    · subst here
      rw [if_pos rfl, Option.some.injEq]
      constructor
      · rintro rfl
        simp
      · rintro ⟨later, listed⟩
        by_contra elsewhere
        have place : position - start = position - start - 1 + 1 := by omega
        rw [place, List.getElem?_cons_succ] at listed
        exact fresh (List.mem_of_getElem? listed)
    · rw [if_neg here, ih different]
      constructor
      · rintro ⟨later, listed⟩
        have place : position - start = position - (start + 1) + 1 := by omega
        exact ⟨by omega, by rw [place, List.getElem?_cons_succ]; exact listed⟩
      · rintro ⟨later, listed⟩
        have apart : position ≠ start := by
          rintro rfl
          simp [here] at listed
        have place : position - start = position - (start + 1) + 1 := by omega
        rw [place, List.getElem?_cons_succ] at listed
        exact ⟨by omega, listed⟩

/-- A name that is in no entry of an index has no position. -/
theorem position?_eq_none {names : List String} (different : names.Nodup) {name : String} :
    position? name names.zipIdx = none ↔ name ∉ names := by
  constructor
  · intro missing member
    obtain ⟨position, listed⟩ := List.getElem?_of_mem member
    have known := (position?_zipIdx different name 0 position).mpr ⟨Nat.zero_le _, listed⟩
    rw [missing] at known
    contradiction
  · intro fresh
    cases known : position? name names.zipIdx with
    | none => rfl
    | some position =>
      have listed := ((position?_zipIdx different name 0 position).mp known).2
      exact absurd (List.mem_of_getElem? listed) fresh

/-- The name of a child is listed at its position. -/
theorem childNames_getElem? (tree : TypeTree) (parent : NodeId) (position : Nat) :
    (tree.childNames parent)[position]? = ((tree.children parent)[position]?).map tree.name := by
  simp [childNames]

/-- A child's name belongs to a child at some position. -/
theorem exists_child {tree : TypeTree} {parent : NodeId} {name : String}
    (member : name ∈ tree.childNames parent) :
    ∃ (position : Nat) (child : NodeId),
      (tree.children parent)[position]? = some child ∧ tree.name child = name := by
  obtain ⟨position, listed⟩ := List.getElem?_of_mem member
  rw [childNames_getElem?, Option.map_eq_some_iff] at listed
  exact ⟨position, listed⟩

section LookUp

variable {tree : TypeTree} {parent : NodeId} {name : String} {ignoreCase : Bool}

/-- A look-up goes by the index if there is one. -/
theorem lookUp?_eq :
    tree.lookUp? parent name ignoreCase =
      match tree.nameIndex? parent with
      | none => tree.scan name ignoreCase 0 (tree.children parent)
      | some index =>
        match position? name index with
        | some position => ((tree.children parent)[position]?).map fun id => (id, position)
        | none =>
          if ignoreCase then tree.scan name ignoreCase 0 (tree.children parent) else none :=
  rfl

/-- Below the tenth child a look-up scans. -/
theorem lookUp?_of_few (formed : tree.WellFormed)
    (few : (tree.children parent).length < indexedFrom) :
    tree.lookUp? parent name ignoreCase = tree.scan name ignoreCase 0 (tree.children parent) := by
  have bare := formed.indexed parent
  rw [if_neg (by omega)] at bare
  rw [lookUp?_eq, bare]

/-- From the tenth child on a look-up gives the child of exactly that name if there is one, and
scans otherwise only if case does not count. -/
theorem lookUp?_of_many (formed : tree.WellFormed)
    (many : indexedFrom ≤ (tree.children parent).length) :
    (∀ id position, (tree.children parent)[position]? = some id → tree.name id = name →
      tree.lookUp? parent name ignoreCase = some (id, position)) ∧
    (name ∉ tree.childNames parent → tree.lookUp? parent name ignoreCase =
      if ignoreCase then tree.scan name ignoreCase 0 (tree.children parent) else none) := by
  have indexed := formed.indexed parent
  rw [if_pos many] at indexed
  rw [lookUp?_eq, indexed]
  constructor
  · intro id position listed named
    have known : position? name (tree.childNames parent).zipIdx = some position := by
      rw [position?_zipIdx (formed.named parent)]
      refine ⟨Nat.zero_le _, ?_⟩
      rw [Nat.sub_zero, childNames_getElem?, listed, Option.map_some, named]
    simp only [known, listed, Option.map_some]
  · intro fresh
    simp only [(position?_eq_none (formed.named parent)).mpr fresh]

/-- A look-up gives a child at its position, of a matching name. -/
theorem lookUp?_eq_some (formed : tree.WellFormed) {id : NodeId} {position : Nat}
    (found : tree.lookUp? parent name ignoreCase = some (id, position)) :
    (tree.children parent)[position]? = some id ∧
      sameName ignoreCase (tree.name id) name = true := by
  have scanned (hit : tree.scan name ignoreCase 0 (tree.children parent) = some (id, position)) :
      (tree.children parent)[position]? = some id ∧
        sameName ignoreCase (tree.name id) name = true := by
    obtain ⟨place, rfl, listed, matching⟩ := scan_eq_some hit
    rw [Nat.zero_add]
    exact ⟨listed, matching⟩
  by_cases many : indexedFrom ≤ (tree.children parent).length
  · by_cases member : name ∈ tree.childNames parent
    · obtain ⟨place, child, listed, named⟩ := exists_child member
      rw [(lookUp?_of_many formed many).1 child place listed named] at found
      obtain ⟨rfl, rfl⟩ := Prod.mk.inj (Option.some.inj found)
      exact ⟨listed, by rw [named]; exact sameName_self ignoreCase name⟩
    · rw [(lookUp?_of_many formed many).2 member] at found
      split at found
      · exact scanned found
      · contradiction
  · rw [lookUp?_of_few formed (by omega)] at found
    exact scanned found

/-- Where a look-up misses, no child has the name. -/
theorem not_mem_childNames (formed : tree.WellFormed)
    (missing : tree.lookUp? parent name ignoreCase = none) : name ∉ tree.childNames parent := by
  intro member
  by_cases many : indexedFrom ≤ (tree.children parent).length
  · obtain ⟨place, child, listed, named⟩ := exists_child member
    rw [(lookUp?_of_many formed many).1 child place listed named] at missing
    contradiction
  · rw [lookUp?_of_few formed (by omega), scan_eq_none_iff] at missing
    obtain ⟨child, listed, named⟩ := List.mem_map.mp member
    have differs := missing child listed
    rw [named, sameName_self] at differs
    contradiction

end LookUp

/-! ## A new child -/

section Append

variable {tree : TypeTree} {parent : NodeId} {name : String}

/-- A new child takes one more place. -/
theorem size_append (tree : TypeTree) (parent : NodeId) (name : String) :
    (tree.append parent name).nodes.size = tree.nodes.size + 1 := by
  unfold append
  rw [size_update, Array.size_push]

/-- A new child is the last node, its parent has adopted it, and the other nodes are as before. -/
theorem node?_append (known : parent.index < tree.nodes.size) (other : NodeId) :
    (tree.append parent name).node? other =
      if other = ⟨tree.nodes.size⟩ then some { name, parent := some parent }
      else if other = parent then
        (tree.node? parent).map fun node =>
          Node.adopt node ⟨tree.nodes.size⟩ name (tree.childNames parent ++ [name])
      else tree.node? other := by
  have pushed (id : NodeId) : node? ⟨tree.nodes.push { name, parent := some parent }⟩ id =
      if id = ⟨tree.nodes.size⟩ then some { name, parent := some parent } else tree.node? id := by
    unfold node?
    rw [Array.getElem?_push]
    simp only [NodeId.eq_iff]
  have older := ne_size known
  unfold append
  rw [node?_update, pushed, pushed, if_neg older]
  by_cases new : other = ⟨tree.nodes.size⟩
  · subst new
    rw [if_neg older.symm, if_pos rfl, if_pos rfl]
  · rw [if_neg new, if_neg new]

/-- The new child has its name, and the other nodes have theirs. -/
theorem name_append (known : parent.index < tree.nodes.size) (id : NodeId) :
    (tree.append parent name).name id =
      if id = ⟨tree.nodes.size⟩ then name else tree.name id := by
  unfold TypeTree.name
  rw [node?_append known]
  split
  · rfl
  · split
    · next here =>
      subst here
      cases tree.node? id <;> rfl
    · rfl

/-- The new child hangs below its parent, and the other nodes hang where they did. -/
theorem parent?_append (known : parent.index < tree.nodes.size) (id : NodeId) :
    (tree.append parent name).parent? id =
      if id = ⟨tree.nodes.size⟩ then some parent else tree.parent? id := by
  unfold parent?
  rw [node?_append known]
  split
  · rfl
  · split
    · next here =>
      subst here
      cases tree.node? id <;> rfl
    · rfl

/-- The new child is its parent's last one, and the other nodes have the children they had. -/
theorem children_append (known : parent.index < tree.nodes.size) (id : NodeId) :
    (tree.append parent name).children id =
      if id = parent then tree.children parent ++ [⟨tree.nodes.size⟩] else tree.children id := by
  unfold children
  rw [node?_append known]
  by_cases here : id = parent
  · subst here
    have older := ne_size known
    obtain ⟨node, found⟩ := exists_node known
    rw [if_neg older, if_pos rfl, if_pos rfl, found]
    rfl
  · rw [if_neg here, if_neg here]
    split
    · next new =>
      subst new
      rw [node?_size]
      rfl
    · rfl

/-- The parent's names have the new one at the end, and the other nodes' are as before. -/
theorem childNames_append (formed : tree.WellFormed) (known : parent.index < tree.nodes.size)
    (id : NodeId) :
    (tree.append parent name).childNames id =
      if id = parent then tree.childNames parent ++ [name] else tree.childNames id := by
  have old (other : NodeId) : (tree.children other).map (tree.append parent name).name =
      tree.childNames other := by
    unfold childNames
    apply List.map_congr_left
    intro child member
    have before := index_lt_of_parent? ((formed.listed other child).mp member)
    rw [name_append known, if_neg (ne_size before)]
  unfold childNames
  rw [children_append known]
  by_cases here : id = parent
  · rw [if_pos here, if_pos here, List.map_append, old]
    simp [name_append known, childNames]
  · rw [if_neg here, if_neg here, old]
    rfl

/-- The index of the parent follows its children, and the other nodes' indexes are as before. -/
theorem nameIndex?_append (formed : tree.WellFormed) (known : parent.index < tree.nodes.size)
    (id : NodeId) :
    (tree.append parent name).nameIndex? id =
      if id = parent then
        if indexedFrom ≤ (tree.children parent).length + 1 then
          some (tree.childNames parent ++ [name]).zipIdx
        else none
      else tree.nameIndex? id := by
  unfold nameIndex?
  rw [node?_append known]
  by_cases here : id = parent
  · subst here
    have older := ne_size known
    obtain ⟨node, found⟩ := exists_node known
    have index := formed.indexed id
    have length : (tree.childNames id).length = (tree.children id).length := by simp [childNames]
    rw [nameIndex?_eq found] at index
    rw [if_neg older, if_pos rfl, if_pos rfl, found]
    simp only [Option.map_some, Option.bind_some, Node.adopt, index]
    by_cases many : indexedFrom ≤ (tree.children id).length
    · have more : indexedFrom ≤ (tree.children id).length + 1 := by omega
      rw [if_pos many, if_pos more, ← children_eq found, List.zipIdx_append, length]
      simp
    · rw [if_neg many]
      simp [length]
  · rw [if_neg here, if_neg here]
    split
    · next new =>
      subst new
      rw [node?_size]
      rfl
    · rfl

/-- A child with a new name keeps the shape well formed. -/
theorem append_wellFormed (formed : tree.WellFormed) (known : parent.index < tree.nodes.size)
    (fresh : name ∉ tree.childNames parent) : (tree.append parent name).WellFormed where
  rooted := by
    have older : root ≠ ⟨tree.nodes.size⟩ := ne_size formed.rooted.1
    rw [size_append, parent?_append known, if_neg older]
    exact ⟨by omega, formed.rooted.2⟩
  placed := by
    intro id inside notRoot
    rw [size_append] at inside
    rw [parent?_append known]
    by_cases new : id = ⟨tree.nodes.size⟩
    · subst new
      exact ⟨parent, if_pos rfl, known⟩
    · rw [if_neg new]
      rw [NodeId.eq_iff] at new
      exact formed.placed id (Nat.lt_of_le_of_ne (Nat.le_of_lt_succ inside) new) notRoot
  listed := by
    intro other id
    rw [children_append known, parent?_append known]
    by_cases new : id = ⟨tree.nodes.size⟩
    · subst new
      have absent (node : NodeId) : (⟨tree.nodes.size⟩ : NodeId) ∉ tree.children node := by
        rw [formed.listed]
        intro below
        exact Nat.lt_irrefl _ (index_lt_of_parent? below)
      by_cases here : other = parent
      · simp [here]
      · simp [here, absent, Ne.symm here]
    · rw [if_neg new, ← formed.listed]
      by_cases here : other = parent
      · simp [here, new]
      · simp [here]
  once := by
    intro other
    rw [children_append known]
    split
    · rw [List.nodup_append]
      refine ⟨formed.once parent, List.nodup_singleton _, ?_⟩
      intro child member last isLast
      rw [List.mem_singleton] at isLast
      rw [isLast]
      exact ne_size (index_lt_of_parent? ((formed.listed parent child).mp member))
    · exact formed.once other
  named := by
    intro other
    rw [childNames_append formed known]
    split
    · rw [List.nodup_append]
      refine ⟨formed.named parent, List.nodup_singleton _, ?_⟩
      rintro text member last isLast rfl
      rw [List.mem_singleton] at isLast
      exact fresh (isLast ▸ member)
    · exact formed.named other
  indexed := by
    intro id
    rw [nameIndex?_append formed known, children_append known, childNames_append formed known]
    by_cases here : id = parent
    · simp [here]
    · simp only [if_neg here]
      exact formed.indexed id

end Append

end ScriptHost.TypeTree
