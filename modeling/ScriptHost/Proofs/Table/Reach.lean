import Mathlib.Algebra.BigOperators.Group.Finset.Basic
import Mathlib.Logic.Relation
import ScriptHost.Proofs.Table.Sizes
import ScriptHost.Proofs.World.Kept

/-!
# Tables within tables

Measuring a table adds up the entries of all tables that its values lead to, shared ones and
circles included. The list of tables still to be looked at never runs out of steps, so exactly
the tables that can be reached are counted, each once. A walk that goes down into every table
where it comes up, and passes by the ones it has visited, ends with the same amount whatever
order the entries of each table are visited in.
-/

namespace ScriptHost

/-! ## Reaching tables -/

namespace World

/-- A table has another one among its values. -/
def Contains (world : World) (outer inner : TableId) : Prop :=
  ∃ key, (key, .table inner) ∈ (world.table outer).entries

/-- A table is reached from another one through values, in any number of steps. -/
abbrev Within (world : World) : TableId → TableId → Prop := Relation.ReflTransGen world.Contains

end World

/-- The inner tables are those among the values. -/
theorem Table.mem_inner {table : Table} {id : TableId} :
    id ∈ table.inner ↔ ∃ key, (key, .table id) ∈ table.entries := by
  unfold Table.inner
  rw [List.mem_filterMap]
  constructor
  · rintro ⟨⟨key, value⟩, member, found⟩
    dsimp only at found
    split at found
    · obtain rfl := Option.some.inj found
      exact ⟨key, member⟩
    · contradiction
  · rintro ⟨key, member⟩
    exact ⟨_, member, rfl⟩

/-- A table as a value counts as a bare value. -/
theorem weigh_table (key : Key) (id : TableId) (rest : List (Key × Value)) :
    weigh entryBytes ((key, .table id) :: rest) =
      key.size + valueBytes + weigh entryBytes rest := rfl

namespace World

variable {world : World} {seen pending : List TableId}

/-! ## The list of tables still to be looked at -/

/-- How many table values stand in the tables that have not been seen. -/
def unseen (world : World) (seen : List TableId) : Nat :=
  ∑ place ∈ Finset.range world.tables.size,
    if ⟨place⟩ ∈ seen then 0 else (world.table ⟨place⟩).inner.length

/-- At first all table values are in tables that have not been seen. -/
theorem unseen_nil (world : World) : world.unseen [] + 1 = world.reachSteps := by
  have lengths : world.tables.toList.map (·.inner.length) =
      (List.range world.tables.size).map fun place => (world.table ⟨place⟩).inner.length := by
    apply List.ext_getElem
    · simp
    · intro place inside _
      have there : place < world.tables.size := by simpa using inside
      simp [World.table, there]
  have places : ∑ place ∈ Finset.range world.tables.size, (world.table ⟨place⟩).inner.length =
      ((List.range world.tables.size).map fun place => (world.table ⟨place⟩).inner.length).sum := by
    have range : (List.range world.tables.size).toFinset = Finset.range world.tables.size := by
      ext place
      simp
    rw [← range, List.sum_toFinset _ List.nodup_range]
  unfold unseen reachSteps
  have sum (amounts : List Nat) : total amounts = amounts.sum := rfl
  rw [lengths, sum, ← places]
  simp

/-- A table that is seen now takes its table values off. -/
theorem unseen_cons {id : TableId} (fresh : id ∉ seen) :
    world.unseen (id :: seen) + (world.table id).inner.length = world.unseen seen := by
  have others (place : Nat) (apart : place ≠ id.index) :
      (⟨place⟩ : TableId) ∈ id :: seen ↔ ⟨place⟩ ∈ seen := by
    have different : (⟨place⟩ : TableId) ≠ id := fun same => apart (congrArg TableId.index same)
    simp [different]
  unfold unseen
  by_cases inside : id.index < world.tables.size
  · have member : id.index ∈ Finset.range world.tables.size := Finset.mem_range.mpr inside
    rw [← Finset.add_sum_erase _ _ member, ← Finset.add_sum_erase _ _ member]
    have rest : ∀ place ∈ (Finset.range world.tables.size).erase id.index,
        (if (⟨place⟩ : TableId) ∈ id :: seen then 0 else (world.table ⟨place⟩).inner.length) =
          if ⟨place⟩ ∈ seen then 0 else (world.table ⟨place⟩).inner.length := by
      intro place other
      simp only [others place (Finset.ne_of_mem_erase other)]
    have here : (⟨id.index⟩ : TableId) = id := rfl
    rw [Finset.sum_congr rfl rest, here, if_pos List.mem_cons_self, if_neg fresh]
    omega
  · have bare : (world.table id).inner = [] := by
      rw [table_of_outside (Nat.le_of_not_lt inside)]
      rfl
    have same : ∀ place ∈ Finset.range world.tables.size,
        (if (⟨place⟩ : TableId) ∈ id :: seen then 0 else (world.table ⟨place⟩).inner.length) =
          if ⟨place⟩ ∈ seen then 0 else (world.table ⟨place⟩).inner.length := by
      intro place member
      have apart : place ≠ id.index := by
        rintro rfl
        exact inside (Finset.mem_range.mp member)
      simp only [others place apart]
    rw [Finset.sum_congr rfl same, bare, List.length_nil, Nat.add_zero]

/-- What has been seen stays so. -/
theorem subset_reach (steps : Nat) : seen ⊆ world.reach steps seen pending := by
  induction steps generalizing seen pending with
  | zero => exact List.Subset.refl _
  | succ steps ih =>
    cases pending with
    | nil => exact List.Subset.refl _
    | cons id rest =>
      unfold reach
      split
      · exact ih
      · exact List.Subset.trans (List.subset_cons_self id seen) ih

/-- No table is seen twice. -/
theorem nodup_reach (steps : Nat) (nodup : seen.Nodup) :
    (world.reach steps seen pending).Nodup := by
  induction steps generalizing seen pending with
  | zero => exact nodup
  | succ steps ih =>
    cases pending with
    | nil => exact nodup
    | cons id rest =>
      unfold reach
      split
      · exact ih nodup
      · next fresh => exact ih (List.nodup_cons.mpr ⟨fresh, nodup⟩)

/-- Whatever is seen has been seen before or is reached from a table that was pending. -/
theorem within_of_mem_reach {steps : Nat} {id : TableId}
    (member : id ∈ world.reach steps seen pending) :
    id ∈ seen ∨ ∃ source ∈ pending, world.Within source id := by
  induction steps generalizing seen pending with
  | zero => exact .inl member
  | succ steps ih =>
    cases pending with
    | nil => exact .inl member
    | cons first rest =>
      unfold reach at member
      split at member
      · rcases ih member with before | ⟨source, known, within⟩
        · exact .inl before
        · exact .inr ⟨source, List.mem_cons_of_mem first known, within⟩
      · rcases ih member with before | ⟨source, known, within⟩
        · rcases List.mem_cons.mp before with rfl | before
          · exact .inr ⟨id, List.mem_cons_self, .refl⟩
          · exact .inl before
        · rcases List.mem_append.mp known with inner | later
          · have contains : world.Contains first source := Table.mem_inner.mp inner
            exact .inr ⟨first, List.mem_cons_self, .head contains within⟩
          · exact .inr ⟨source, List.mem_cons_of_mem first later, within⟩

/-- The invariant of looking at tables: the tables in what has been seen have themselves been seen
or are pending. -/
def Covered (world : World) (seen pending : List TableId) : Prop :=
  ∀ outer ∈ seen, ∀ inner, world.Contains outer inner → inner ∈ seen ∨ inner ∈ pending

/-- A table that has been seen need not be pending. -/
theorem Covered.skip {id : TableId} (covered : world.Covered seen (id :: pending))
    (known : id ∈ seen) : world.Covered seen pending := by
  intro outer member inner contains
  rcases covered outer member inner contains with before | later
  · exact .inl before
  · rcases List.mem_cons.mp later with rfl | later
    · exact .inl known
    · exact .inr later

/-- The tables in a table that is seen now are pending from then on. -/
theorem Covered.visit {id : TableId} (covered : world.Covered seen (id :: pending)) :
    world.Covered (id :: seen) ((world.table id).inner ++ pending) := by
  intro outer member inner contains
  rcases List.mem_cons.mp member with rfl | before
  · exact .inr (List.mem_append_left pending (Table.mem_inner.mpr contains))
  · rcases covered outer before inner contains with known | later
    · exact .inl (List.mem_cons_of_mem id known)
    · rcases List.mem_cons.mp later with rfl | later
      · exact .inl List.mem_cons_self
      · exact .inr (List.mem_append_right _ later)

/-- With enough steps all pending tables are seen, and nothing is left pending. -/
theorem covered_reach {steps : Nat} (enough : pending.length + world.unseen seen ≤ steps)
    (covered : world.Covered seen pending) :
    pending ⊆ world.reach steps seen pending ∧
      world.Covered (world.reach steps seen pending) [] := by
  induction steps generalizing seen pending with
  | zero =>
    have none : pending = [] := List.length_eq_zero_iff.mp (by omega)
    subst none
    exact ⟨List.nil_subset _, covered⟩
  | succ steps ih =>
    cases pending with
    | nil => exact ⟨List.nil_subset _, covered⟩
    | cons id rest =>
      rw [List.length_cons] at enough
      unfold reach
      split
      · next known =>
        obtain ⟨taken, closed⟩ := ih (by omega) (covered.skip known)
        exact ⟨List.cons_subset.mpr ⟨subset_reach steps known, taken⟩, closed⟩
      · next fresh =>
        have counted : world.unseen (id :: seen) + (world.table id).inner.length =
            world.unseen seen := unseen_cons fresh
        have less : ((world.table id).inner ++ rest).length + world.unseen (id :: seen) ≤
            steps := by
          rw [List.length_append]
          omega
        obtain ⟨taken, closed⟩ := ih less covered.visit
        have later := List.Subset.trans (List.subset_append_right _ rest) taken
        exact ⟨List.cons_subset.mpr ⟨subset_reach steps List.mem_cons_self, later⟩, closed⟩

/-- The tables found from a table are those that it reaches. -/
theorem mem_reachable {root id : TableId} : id ∈ world.reachable root ↔ world.Within root id := by
  have enough : [root].length + world.unseen [] ≤ world.reachSteps := by
    rw [← unseen_nil, List.length_singleton]
    omega
  obtain ⟨taken, closed⟩ := covered_reach enough fun outer member => by contradiction
  constructor
  · intro member
    rcases within_of_mem_reach member with before | ⟨source, known, within⟩
    · contradiction
    · rw [List.mem_singleton.mp known] at within
      exact within
  · intro within
    induction within with
    | refl => exact taken List.mem_cons_self
    | tail _ contains ih => exact (closed _ ih _ contains).resolve_right List.not_mem_nil

/-- What is measured from a table is the sum over the tables that it reaches. -/
theorem measure_eq_sum (world : World) (root : TableId) :
    world.measure root = ∑ id ∈ (world.reachable root).toFinset, (world.table id).ownSize := by
  have nodup : (world.reachable root).Nodup := nodup_reach _ List.nodup_nil
  rw [List.sum_toFinset _ nodup]
  rfl

/-! ## Walks in any order -/

/-- The entries of every table, each list in an order of its own. -/
def Orders (world : World) (order : TableId → List (Key × Value)) : Prop :=
  ∀ id, (order id).Perm (world.table id).entries

end World

/-- A walk over entries, from the tables visited before to those visited then, with the bytes that
it counts. A table among the values that has not been visited is visited there and then, down to
its own entries. -/
inductive Walk (order : TableId → List (Key × Value)) :
    Finset TableId → List (Key × Value) → Nat → Finset TableId → Prop where
  | done (visited : Finset TableId) : Walk order visited [] 0 visited
  | content {visited final : Finset TableId} {key : Key} {value : Value}
    {rest : List (Key × Value)} {bytes : Nat} (bare : value.kind ≠ .table)
    (more : Walk order visited rest bytes final) :
    Walk order visited ((key, value) :: rest) (key.size + value.ownSize + bytes) final
  | known {visited final : Finset TableId} {key : Key} {id : TableId}
    {rest : List (Key × Value)} {bytes : Nat} (before : id ∈ visited)
    (more : Walk order visited rest bytes final) :
    Walk order visited ((key, .table id) :: rest) (key.size + valueBytes + bytes) final
  | fresh {visited between final : Finset TableId} {key : Key} {id : TableId}
    {rest : List (Key × Value)} {deep bytes : Nat} (new : id ∉ visited)
    (inside : Walk order (insert id visited) (order id) deep between)
    (more : Walk order between rest bytes final) :
    Walk order visited ((key, .table id) :: rest) (key.size + (valueBytes + deep) + bytes) final

namespace Walk

variable {order : TableId → List (Key × Value)} {visited final : Finset TableId}
  {entries : List (Key × Value)} {bytes : Nat}

/-- What has been visited stays so. -/
theorem subset (walk : Walk order visited entries bytes final) : visited ⊆ final := by
  induction walk with
  | done visited => exact Finset.Subset.refl visited
  | content _ _ ih => exact ih
  | known _ _ ih => exact ih
  | fresh _ _ _ inside more =>
    exact ((Finset.subset_insert _ _).trans inside).trans more

/-- Every table among the values is visited. -/
theorem enters (walk : Walk order visited entries bytes final) {key : Key} {id : TableId}
    (member : (key, .table id) ∈ entries) : id ∈ final := by
  induction walk with
  | done visited => contradiction
  | content bare _ ih =>
    rcases List.mem_cons.mp member with same | member
    · obtain ⟨-, rfl⟩ := Prod.mk.inj same
      exact absurd rfl bare
    · exact ih member
  | known before more ih =>
    rcases List.mem_cons.mp member with same | member
    · obtain ⟨-, rfl⟩ : _ ∧ id = _ := by simpa using same
      exact more.subset before
    · exact ih member
  | fresh new inside more _ ih =>
    rcases List.mem_cons.mp member with same | member
    · obtain ⟨-, rfl⟩ : _ ∧ id = _ := by simpa using same
      exact more.subset (inside.subset (Finset.mem_insert_self id _))
    · exact ih member

/-- The tables in a table that the walk has visited are visited. -/
theorem closed (walk : Walk order visited entries bytes final) {outer inner : TableId}
    (member : outer ∈ final) (new : outer ∉ visited) {key : Key}
    (contains : (key, .table inner) ∈ order outer) : inner ∈ final := by
  induction walk with
  | done visited => contradiction
  | content _ _ ih => exact ih member new
  | known _ _ ih => exact ih member new
  | @fresh visited between _ _ id _ _ _ _ inside more below beside =>
    by_cases early : outer ∈ between
    · by_cases here : outer = id
      · subst here
        exact more.subset (inside.enters contains)
      · have apart : outer ∉ insert id visited := by simp [here, new]
        exact more.subset (below early apart)
    · exact beside member early

/-- Whatever the walk visits was visited before or is reached from a table among the values. -/
theorem within {world : World} (orders : world.Orders order)
    (walk : Walk order visited entries bytes final) {id : TableId} (member : id ∈ final) :
    id ∈ visited ∨ ∃ key source, (key, .table source) ∈ entries ∧ world.Within source id := by
  induction walk with
  | done visited => exact .inl member
  | content _ _ ih =>
    rcases ih member with before | ⟨key, source, known, within⟩
    · exact .inl before
    · exact .inr ⟨key, source, List.mem_cons_of_mem _ known, within⟩
  | known _ _ ih =>
    rcases ih member with before | ⟨key, source, known, within⟩
    · exact .inl before
    · exact .inr ⟨key, source, List.mem_cons_of_mem _ known, within⟩
  | @fresh visited between _ first fresh _ _ _ _ _ _ below beside =>
    rcases beside member with early | ⟨key, source, known, within⟩
    · rcases below early with before | ⟨key, source, known, within⟩
      · rcases Finset.mem_insert.mp before with rfl | before
        · exact .inr ⟨first, id, List.mem_cons_self, .refl⟩
        · exact .inl before
      · have contains : world.Contains fresh source := ⟨key, (orders fresh).subset known⟩
        exact .inr ⟨first, fresh, List.mem_cons_self, .head contains within⟩
    · exact .inr ⟨key, source, List.mem_cons_of_mem _ known, within⟩

/-- A walk counts the entries it goes over and those of the tables that it visits. -/
theorem bytes_eq (walk : Walk order visited entries bytes final) :
    bytes + ∑ id ∈ visited, weigh entryBytes (order id) =
      weigh entryBytes entries + ∑ id ∈ final, weigh entryBytes (order id) := by
  induction walk with
  | done visited => rfl
  | content _ _ ih =>
    rw [weigh_cons, entryBytes]
    omega
  | known _ _ ih =>
    rw [weigh_table]
    omega
  | fresh new _ _ below beside =>
    rw [Finset.sum_insert new] at below
    rw [weigh_table]
    omega

end Walk

namespace World

/-- The places of the tables that have not been visited. -/
def unvisited (world : World) (visited : Finset TableId) : Finset Nat :=
  (Finset.range world.tables.size).filter fun place => ⟨place⟩ ∉ visited

variable {world : World} {visited : Finset TableId}

/-- A walk that visits more leaves fewer. -/
theorem unvisited_mono {final : Finset TableId} (subset : visited ⊆ final) :
    world.unvisited final ⊆ world.unvisited visited := by
  intro place member
  obtain ⟨inside, new⟩ := Finset.mem_filter.mp member
  exact Finset.mem_filter.mpr ⟨inside, fun before => new (subset before)⟩

/-- Visiting a table that is there and has not been visited leaves one place less at least. -/
theorem card_unvisited_insert {id : TableId} (there : id.index < world.tables.size)
    (new : id ∉ visited) :
    (world.unvisited (insert id visited)).card < (world.unvisited visited).card := by
  apply Finset.card_lt_card
  refine ⟨unvisited_mono (Finset.subset_insert id visited), fun back => ?_⟩
  have before : id.index ∈ world.unvisited visited :=
    Finset.mem_filter.mpr ⟨Finset.mem_range.mpr there, new⟩
  have after := (Finset.mem_filter.mp (back before)).2
  exact after (Finset.mem_insert_self id visited)

variable {order : TableId → List (Key × Value)} (orders : world.Orders order)
include orders

/-- Entries can be walked over to their end, whatever has been visited. The induction is on the
number of places that have not been visited, and within that on the entries. -/
theorem exists_walk (visited : Finset TableId) (entries : List (Key × Value)) :
    ∃ bytes final, Walk order visited entries bytes final := by
  suffices all : ∀ count visited, (world.unvisited visited).card < count → ∀ entries,
      ∃ bytes final, Walk order visited entries bytes final from
    all _ visited (Nat.lt_succ_self _) entries
  intro count
  induction count with
  | zero => exact fun visited less => absurd less (Nat.not_lt_zero _)
  | succ count deeper =>
    intro visited less entries
    induction entries generalizing visited with
    | nil => exact ⟨0, visited, .done visited⟩
    | cons entry rest further =>
      obtain ⟨key, value⟩ := entry
      by_cases bare : value.kind = .table
      · obtain ⟨id, rfl⟩ : ∃ id, value = .table id := by
          cases value with
          | reference target => cases target <;> first | exact ⟨_, rfl⟩ | contradiction
          | _ => contradiction
        by_cases known : id ∈ visited
        · obtain ⟨bytes, final, more⟩ := further visited less
          exact ⟨_, final, .known known more⟩
        · have inside : ∃ deep between, Walk order (insert id visited) (order id) deep between := by
            by_cases there : id.index < world.tables.size
            · have fewer := card_unvisited_insert there known
              exact deeper (insert id visited) (by omega) (order id)
            · have empty := orders id
              rw [table_of_outside (Nat.le_of_not_lt there)] at empty
              rw [List.perm_nil.mp empty]
              exact ⟨0, _, .done _⟩
          obtain ⟨deep, between, inside⟩ := inside
          have grown := (Finset.subset_insert id visited).trans inside.subset
          have fewer : (world.unvisited between).card ≤ (world.unvisited visited).card :=
            Finset.card_le_card (unvisited_mono grown)
          obtain ⟨bytes, final, more⟩ := further between (by omega)
          exact ⟨_, final, .fresh known inside more⟩
      · obtain ⟨bytes, final, more⟩ := further visited less
        exact ⟨_, final, .content bare more⟩

variable {root : TableId} {bytes : Nat} {final : Finset TableId}
  (walk : Walk order {root} (order root) bytes final)
include walk

/-- A walk from a table visits the tables that it reaches. -/
theorem mem_of_walk {id : TableId} : id ∈ final ↔ world.Within root id := by
  have start : root ∈ final := walk.subset (Finset.mem_singleton_self root)
  constructor
  · intro member
    rcases walk.within orders member with before | ⟨key, source, known, within⟩
    · rw [Finset.mem_singleton.mp before]
    · have contains : world.Contains root source := ⟨key, (orders root).subset known⟩
      exact .head contains within
  · intro within
    induction within with
    | refl => exact start
    | @tail outer inner _ contains ih =>
      obtain ⟨key, member⟩ := contains
      have among : (key, .table inner) ∈ order outer := (orders outer).symm.subset member
      by_cases here : outer = root
      · subst here
        exact walk.enters among
      · exact walk.closed ih (by simpa using here) among

/-- A walk from a table counts what is measured from it. -/
theorem bytes_of_walk : bytes = world.measure root := by
  have visits : final = (world.reachable root).toFinset := by
    ext id
    rw [mem_of_walk orders walk, List.mem_toFinset, mem_reachable]
  have sizes (id : TableId) : weigh entryBytes (order id) = (world.table id).ownSize :=
    ((orders id).map _).sum_eq
  have counted := walk.bytes_eq
  rw [Finset.sum_singleton, Nat.add_comm] at counted
  rw [measure_eq_sum, ← visits, Nat.add_left_cancel counted]
  exact Finset.sum_congr rfl fun id _ => sizes id

end World

/-! ## Measuring -/

/-- Measuring a table adds up the bytes of all tables that it reaches through values, each of them
once, in every world, whatever its tables share and whichever circles they form. Whatever order
the entries of each table are visited in, the walk that goes down into each table where it comes
up for the first time ends, has then visited these tables, and has counted the same bytes, and so
does measuring where the tables have their entries in another order. -/
theorem measure_sums_reachable (world : World) (root : TableId) :
    ∃ tables : Finset TableId,
      (∀ id, id ∈ tables ↔ world.Within root id) ∧
      world.measure root = ∑ id ∈ tables, (world.table id).ownSize ∧
      (∀ order, world.Orders order →
        Walk order {root} (order root) (world.measure root) tables ∧
          ∀ bytes final, Walk order {root} (order root) bytes final →
            bytes = world.measure root ∧ final = tables) ∧
      ∀ other : World, (world.Orders fun id => (other.table id).entries) →
        other.measure root = world.measure root := by
  have visits {order : TableId → List (Key × Value)} (orders : world.Orders order) {bytes : Nat}
      {final : Finset TableId} (walk : Walk order {root} (order root) bytes final) :
      bytes = world.measure root ∧ final = (world.reachable root).toFinset := by
    refine ⟨world.bytes_of_walk orders walk, ?_⟩
    ext id
    rw [World.mem_of_walk orders walk, List.mem_toFinset, World.mem_reachable]
  refine ⟨(world.reachable root).toFinset, fun id => ?_, world.measure_eq_sum root,
    fun order orders => ?_, fun other orders => ?_⟩
  · rw [List.mem_toFinset, World.mem_reachable]
  · obtain ⟨bytes, final, walk⟩ := World.exists_walk orders {root} (order root)
    obtain ⟨counted, visited⟩ := visits orders walk
    rw [counted, visited] at walk
    exact ⟨walk, fun bytes final => visits orders⟩
  · -- A walk over the other world's lists is one over this world's lists in another order.
    let order (id : TableId) : List (Key × Value) := (other.table id).entries
    have itself : other.Orders order := fun id => .refl _
    obtain ⟨bytes, final, walk⟩ := World.exists_walk orders {root} (order root)
    rw [← World.bytes_of_walk itself walk, World.bytes_of_walk orders walk]

/-- Two tables that hold each other, and one of them itself. -/
def circle : World where
  tables := #[{ entries := [(.text "next", .table ⟨1⟩), (.text "self", .table ⟨0⟩)] },
    { entries := [(.integer 1, .text "abc"), (.text "back", .table ⟨0⟩)] }]

/-- The same tables with the entries of each in the other order. -/
def turnedCircle : World where
  tables := circle.tables.map fun table => { table with entries := table.entries.reverse }

/-- Both tables of the circle are counted once, in either order. -/
theorem measure_sums_reachable_circle :
    (circle.Orders fun id => (turnedCircle.table id).entries) ∧
      turnedCircle.measure ⟨0⟩ = circle.measure ⟨0⟩ ∧ circle.measure ⟨0⟩ = 52 + 52 + (51 + 52) := by
  have orders : circle.Orders fun id => (turnedCircle.table id).entries := by
    intro id
    unfold World.table turnedCircle
    dsimp only
    rw [Array.getElem?_map]
    cases circle.tables[id.index]? with
    | none => exact .refl _
    | some table => exact table.entries.reverse_perm
  obtain ⟨tables, -, -, -, reordered⟩ := measure_sums_reachable circle ⟨0⟩
  exact ⟨orders, reordered turnedCircle orders, by decide +kernel⟩

end ScriptHost
