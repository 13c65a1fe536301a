import ScriptHost.Proofs.TypeTree.Representation

/-!
# Stability of looking up a child

A scan gives the first child whose name matches, so later children do not change what it
has given. From the tenth child on the index is asked first, and it prefers the child of
exactly the name. So a visit that ignores case gives what it gave before, unless the
parent has ten children by then and another one of them has exactly the name.
-/

namespace ScriptHost.TypeTree

variable {tree : TypeTree} {registry : Registry} {parent : NodeId} {name : String}
  {ignoreCase : Bool}

/-- A scan that misses the first nodes and matches the one behind them gives that one. -/
theorem scan_append_of_missing {start : Nat} {ids : List NodeId} {id : NodeId}
    (missing : tree.scan name ignoreCase start ids = none)
    (matching : sameName ignoreCase (tree.name id) name = true) :
    tree.scan name ignoreCase start (ids ++ [id]) = some (id, start + ids.length) := by
  induction ids generalizing start with
  | nil => simp [scan, matching]
  | cons first rest ih =>
    rw [List.cons_append]
    unfold scan at missing ⊢
    by_cases hit : sameName ignoreCase (tree.name first) name = true
    · rw [if_pos hit] at missing
      contradiction
    · rw [if_neg hit] at missing ⊢
      rw [ih missing, List.length_cons]
      congr 2
      omega

/-- What a scan has hit it hits in every later tree. -/
theorem Extends.scan {later : TypeTree} (extended : Extends tree later) (formed : tree.WellFormed)
    {result : NodeId × Nat}
    (found : tree.scan name ignoreCase 0 (tree.children parent) = some result) :
    later.scan name ignoreCase 0 (later.children parent) = some result := by
  obtain ⟨more, longer⟩ := extended.children parent
  have named (id : NodeId) (member : id ∈ tree.children parent) : later.name id = tree.name id :=
    extended.name id (index_lt_of_parent? ((formed.listed parent id).mp member))
  rw [← longer]
  apply scan_append
  rw [scan_congr 0 _ named]
  exact found

/-- Scanning and settling do not touch each other. -/
theorem SameShape.scan {later : TypeTree} (same : SameShape tree later) (start : Nat)
    (ids : List NodeId) :
    later.scan name ignoreCase start ids = tree.scan name ignoreCase start ids :=
  scan_congr start ids fun id _ => congrFun same.name id

/-- A look-up gives what a scan gives, if there are few children or the one given is not called
exactly so. -/
theorem lookUp?_scan (formed : tree.WellFormed) {id : NodeId} {position : Nat}
    (hit : tree.lookUp? parent name ignoreCase = some (id, position))
    (scanned : (tree.children parent).length < indexedFrom ∨ tree.name id ≠ name) :
    tree.scan name ignoreCase 0 (tree.children parent) = some (id, position) := by
  by_cases many : indexedFrom ≤ (tree.children parent).length
  · have apart : tree.name id ≠ name := scanned.resolve_left (Nat.not_lt_of_le many)
    by_cases member : name ∈ tree.childNames parent
    · obtain ⟨place, child, listed, named⟩ := exists_child member
      rw [(lookUp?_of_many formed many).1 child place listed named] at hit
      obtain ⟨rfl, rfl⟩ := Prod.mk.inj (Option.some.inj hit)
      exact absurd named apart
    · rw [(lookUp?_of_many formed many).2 member] at hit
      split at hit
      · exact hit
      · contradiction
  · rw [← lookUp?_of_few formed (Nat.lt_of_not_le many)]
    exact hit

/-- The child made where a scan of all children misses is the one that a scan gives from then on. -/
theorem append_scan (formed : tree.WellFormed) (known : parent.index < tree.nodes.size)
    (missing : tree.scan name ignoreCase 0 (tree.children parent) = none) :
    (tree.append parent name).scan name ignoreCase 0 ((tree.append parent name).children parent) =
      some (⟨tree.nodes.size⟩, (tree.children parent).length) := by
  have own : (tree.append parent name).name ⟨tree.nodes.size⟩ = name := by
    rw [name_append known, if_pos rfl]
  have before (child : NodeId) (member : child ∈ tree.children parent) :
      (tree.append parent name).name child = tree.name child := by
    rw [name_append known, if_neg]
    exact ne_size (index_lt_of_parent? ((formed.listed parent child).mp member))
  rw [← scan_congr 0 _ before] at missing
  rw [children_append known, if_pos rfl]
  have last := scan_append_of_missing missing (by rw [own]; exact sameName_self ignoreCase name)
  rw [last, Nat.zero_add]

/-- A visit gives what a scan gives after it, if there are few children or the one given is not
called exactly so. -/
theorem visit_scan (formed : tree.WellFormed) (known : parent.index < tree.nodes.size) {id : NodeId}
    {position : Nat} {grown : TypeTree}
    (visited : tree.visit registry parent name ignoreCase = ((id, position), grown))
    (scanned : (grown.children parent).length < indexedFrom ∨ grown.name id ≠ name) :
    grown.scan name ignoreCase 0 (grown.children parent) = some (id, position) := by
  cases hit : tree.lookUp? parent name ignoreCase with
  | some found =>
    rw [visit_of_found hit] at visited
    obtain ⟨rfl, rfl⟩ := Prod.mk.inj visited
    have same := settle_sameShape tree registry parent
    rw [same.children, same.name] at scanned
    rw [same.children, same.scan]
    exact lookUp?_scan formed hit scanned
  | none =>
    rw [visit_of_missing hit] at visited
    obtain ⟨made, rfl⟩ := Prod.mk.inj visited
    obtain ⟨rfl, rfl⟩ := Prod.mk.inj made
    have same := settle_sameShape (tree.append parent name) registry parent
    have own : (tree.append parent name).name ⟨tree.nodes.size⟩ = name := by
      rw [name_append known, if_pos rfl]
    rw [same.children, same.name, own, children_append known, if_pos rfl] at scanned
    have few : (tree.children parent).length < indexedFrom := by
      have fewer := scanned.resolve_right (fun apart => apart rfl)
      rw [List.length_append] at fewer
      omega
    rw [lookUp?_of_few formed few] at hit
    rw [same.children, same.scan]
    exact append_scan formed known hit

/-- A child of exactly a name, other than the one that a visit has given. -/
def Rival (tree : TypeTree) (parent : NodeId) (name : String) (id other : NodeId)
    (position : Nat) : Prop :=
  (tree.children parent)[position]? = some other ∧ tree.name other = name ∧ other ≠ id

/-- A visit from ten children on that ignores case prefers the child of exactly the name. -/
theorem visit_of_rival (formed : tree.WellFormed)
    (many : indexedFrom ≤ (tree.children parent).length) {id other : NodeId} {position : Nat}
    (rival : tree.Rival parent name id other position) :
    (tree.visit registry parent name ignoreCase).1 = (other, position) := by
  have hit : tree.lookUp? parent name ignoreCase = some (other, position) :=
    (lookUp?_of_many formed many).1 other position rival.1 rival.2.1
  rw [visit_of_found hit]

/-- What a visit has given it gives again in every later tree, unless case is ignored, there are
ten children by then and another one of them has exactly the name. -/
theorem visit_again (formed : tree.WellFormed) (known : parent.index < tree.nodes.size)
    {id : NodeId} {position : Nat} {grown later : TypeTree}
    (visited : tree.visit registry parent name ignoreCase = ((id, position), grown))
    (grownFormed : grown.WellFormed) (laterFormed : later.WellFormed)
    (extended : Extends grown later)
    (unrivalled : ignoreCase = true → indexedFrom ≤ (later.children parent).length →
      ∀ other place, ¬ later.Rival parent name id other place) (laterRegistry : Registry) :
    (later.visit laterRegistry parent name ignoreCase).1 = (id, position) := by
  obtain ⟨listed, matching⟩ := visit_result formed known visited
  have stays := extended.child listed
  have inside := index_lt_of_parent? ((grownFormed.listed parent id).mp (List.mem_of_getElem? listed))
  have named := extended.name id inside
  suffices hit : later.lookUp? parent name ignoreCase = some (id, position) by
    rw [visit_of_found hit]
  by_cases many : indexedFrom ≤ (later.children parent).length
  · by_cases exactly : later.name id = name
    · exact (lookUp?_of_many laterFormed many).1 id position stays exactly
    · cases ignoreCase with
      | false =>
        rw [named] at exactly
        exact absurd (by simpa [sameName] using matching) exactly
      | true =>
        have fresh : name ∉ later.childNames parent := by
          intro member
          obtain ⟨place, other, there, own⟩ := exists_child member
          apply unrivalled rfl many other place
          refine ⟨there, own, ?_⟩
          rintro rfl
          exact exactly own
        rw [named] at exactly
        rw [(lookUp?_of_many laterFormed many).2 fresh, if_pos rfl]
        exact extended.scan grownFormed (visit_scan formed known visited (.inr exactly))
  · have few : (grown.children parent).length < indexedFrom := by
      have longer := (extended.children parent).length_le
      omega
    rw [lookUp?_of_few laterFormed (Nat.lt_of_not_le many)]
    exact extended.scan grownFormed (visit_scan formed known visited (.inl few))

end ScriptHost.TypeTree

namespace ScriptHost.Interop

open TypeTree

/-- After any further run a visit gives the child and the position that it gave before, except that
from ten children on a visit that ignores case gives the child of exactly the name, if there is
another one of that name. -/
theorem lookup_stable {count : Nat} {state : Interop} (run : Run {} count state) {parent : NodeId}
    (known : parent.index < state.tree.nodes.size) {name : String} {ignoreCase : Bool} {id : NodeId}
    {position : Nat} {grown : TypeTree}
    (visited : state.tree.visit state.registry parent name ignoreCase = ((id, position), grown))
    {more : Nat} {later : Interop} (continued : Run { state with tree := grown } more later) :
    ((later.tree.visit later.registry parent name ignoreCase).1 = (id, position) ↔
      ¬ (ignoreCase = true ∧ indexedFrom ≤ (later.tree.children parent).length ∧
        ∃ other place, later.tree.Rival parent name id other place)) ∧
    ∀ other place, ignoreCase = true → indexedFrom ≤ (later.tree.children parent).length →
      later.tree.Rival parent name id other place →
        (later.tree.visit later.registry parent name ignoreCase).1 = (other, place) := by
  have formed := run.reached_wellFormed
  have moved : (state.tree.visit state.registry parent name ignoreCase).2.WellFormed :=
    visit_wellFormed formed known
  rw [visited] at moved
  have laterFormed := continued.wellFormed moved
  refine ⟨⟨?_, ?_⟩, fun other place _ many rival => visit_of_rival laterFormed many rival⟩
  · rintro same ⟨-, many, other, place, rival⟩
    rw [visit_of_rival laterFormed many rival] at same
    exact rival.2.2 (Prod.mk.inj same).1
  · intro unrivalled
    apply visit_again formed known visited moved laterFormed continued.extends
    intro ignored many other place rival
    exact unrivalled ⟨ignored, many, other, place, rival⟩

/-- Two children whose names differ in case only. -/
def twoChildren : Interop := afterAll {} (tenChildren.take 2)

/-- The two children after a visit that ignores case. -/
def twoChildrenVisited : Interop :=
  { twoChildren with tree := (twoChildren.tree.visit twoChildren.registry root "TEXT" true).2 }

/-- Looking a child up is not stable in every case: the eight children that bring the index in turn
a visit that ignores case over to the child of exactly the name. -/
theorem lookup_not_always_stable :
    ¬ ∀ count state, Run {} count state →
      ∀ (parent : NodeId) (name : String) (ignoreCase : Bool) id position grown,
        parent.index < state.tree.nodes.size →
        state.tree.visit state.registry parent name ignoreCase = ((id, position), grown) →
        ∀ more later, Run { state with tree := grown } more later →
          (later.tree.visit later.registry parent name ignoreCase).1 = (id, position) := by
  intro stable
  have run := run_afterAll (show AllFit {} (tenChildren.take 2) by decide +kernel)
  have first : (twoChildren.tree.visit twoChildren.registry root "TEXT" true).1 = (⟨1⟩, 0) := by
    decide +kernel
  have rest := run_afterAll (show AllFit twoChildrenVisited (tenChildren.drop 2) by decide +kernel)
  have again := stable _ _ run root "TEXT" true ⟨1⟩ 0 twoChildrenVisited.tree (by decide +kernel)
    (Prod.ext first rfl) _ _ rest
  revert again
  decide +kernel

/-- A visit that minds case gives the same child before and after the index is there. -/
theorem lookup_stable_ten :
    (twoChildren.tree.visit twoChildren.registry root "TEXT" false).1 = (⟨2⟩, 1) ∧
      ((afterAll twoChildren (tenChildren.drop 2)).tree.visit twoChildren.registry root "TEXT"
        false).1 = (⟨2⟩, 1) := by
  have run := run_afterAll (show AllFit {} (tenChildren.take 2) by decide +kernel)
  have first : twoChildren.tree.visit twoChildren.registry root "TEXT" false =
      ((⟨2⟩, 1), twoChildren.tree) := by
    decide +kernel
  have rest := run_afterAll (show AllFit twoChildren (tenChildren.drop 2) by decide +kernel)
  have again := (lookup_stable run (by decide +kernel) first rest).1.mpr (by simp)
  exact ⟨by rw [first], again⟩

end ScriptHost.Interop
