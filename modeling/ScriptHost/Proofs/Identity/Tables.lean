import ScriptHost.Proofs.Identity.Pairing

/-!
# Tables that match

Matching tables have entries that match one after the other and matching hooks. A key finds
matching values in them, writes keep them matching, and they have the same size, hold the
same and lead to the same tables.
-/

namespace ScriptHost

variable {pairing small large : Pairing}

/-! ## Options and lists -/

/-- Options that are related are both absent, or both there and related. -/
theorem rel_cases {First Second : Type} {related : First → Second → Prop} {left : Option First}
    {right : Option Second} (matched : Option.Rel related left right) :
    (left = none ∧ right = none) ∨
      ∃ first second, left = some first ∧ right = some second ∧ related first second := by
  cases matched with
  | some known => exact .inr ⟨_, _, rfl, rfl, known⟩
  | none => exact .inl ⟨rfl, rfl⟩

/-- What is the same for related entries is the same for lists of them. -/
theorem map_eq_of_forall₂ {First Second Result : Type} {related : First → Second → Prop}
    {look : First → Result} {other : Second → Result}
    (same : ∀ first second, related first second → look first = other second) {left : List First}
    {right : List Second} (matched : List.Forall₂ related left right) :
    left.map look = right.map other := by
  induction matched with
  | nil => rfl
  | cons known _ ih => rw [List.map_cons, List.map_cons, same _ _ known, ih]

namespace AllMatch

variable {left right : List Value}

/-- Lists of values that match do so under a larger pairing. -/
theorem mono (matched : AllMatch small left right) (grows : small ≤ large) :
    AllMatch large left right :=
  matched.imp fun _ _ known => known.mono grows

/-- Values at the same place match. -/
theorem getElem? (matched : AllMatch pairing left right) (place : Nat) :
    Option.Rel (Value.Matches pairing) left[place]? right[place]? := by
  induction matched generalizing place with
  | nil => exact .none
  | cons first _ ih =>
    cases place with
    | zero => exact .some first
    | succ place => exact ih place

/-- The first values match, or both are `nil`. -/
theorem headD (matched : AllMatch pairing left right) :
    (left.headD .nil).Matches pairing (right.headD .nil) := by
  cases matched with
  | nil => exact .nil
  | cons first _ => exact first

/-- The first values match, or there are none. -/
theorem head? (matched : AllMatch pairing left right) :
    Option.Rel (Value.Matches pairing) left.head? right.head? := by
  cases matched with
  | nil => exact .none
  | cons first _ => exact .some first

/-- The values behind the first ones match. -/
theorem drop (matched : AllMatch pairing left right) (count : Nat) :
    AllMatch pairing (left.drop count) (right.drop count) :=
  List.forall₂_drop count matched

/-- Lists that match hold the same. -/
theorem holds (matched : AllMatch pairing left right) :
    left.flatMap Value.holds = right.flatMap Value.holds := by
  have same := map_eq_of_forall₂ (fun _ _ known => Value.Matches.holds known) matched
  rw [List.flatMap_def, List.flatMap_def, same]

/-- One value in a list. -/
theorem singleton {left right : Value} (matched : left.Matches pairing right) :
    AllMatch pairing [left] [right] :=
  .cons matched .nil

end AllMatch

/-! ## Keys -/

namespace Key.Matches

variable {left right other further : Key}

/-- Keys that match do so under a larger pairing. -/
theorem mono (matched : left.Matches small right) (grows : small ≤ large) :
    left.Matches large right := by
  cases matched with
  | content scalar => exact .content scalar
  | reference matched => exact .reference (matched.mono grows)

/-- Keys are the same in both worlds or in neither. -/
theorem eq_iff (matched : left.Matches pairing right) (others : other.Matches pairing further) :
    left = other ↔ right = further := by
  cases matched with
  | content scalar =>
    cases others with
    | content _ => exact Iff.rfl
    | reference _ => exact ⟨fun same => absurd same (scalar _), fun same => absurd same (scalar _)⟩
  | reference matched =>
    cases others with
    | content scalar =>
      exact ⟨fun same => absurd same.symm (scalar _), fun same => absurd same.symm (scalar _)⟩
    | reference known => simpa using matched.eq_iff known

/-- Keys that match stand for matching values. -/
theorem toValue (matched : left.Matches pairing right) :
    left.toValue.Matches pairing right.toValue := by
  cases matched with
  | content scalar =>
    cases left with
    | reference target => exact absurd rfl (scalar target)
    | integer content => exact .ofInt64 content
    | _ => exact .content nofun
  | reference matched => exact .reference matched

/-- Keys that match have the same size. -/
theorem size (matched : left.Matches pairing right) : left.size = right.size := by
  cases matched with
  | content scalar => rfl
  | reference matched => rfl

end Key.Matches

/-- Values that match are matching keys, or neither can be a key. -/
theorem Value.Matches.ofValue? {left right : Value} (matched : left.Matches pairing right) :
    Option.Rel (Key.Matches pairing) (Key.ofValue? left) (Key.ofValue? right) := by
  cases matched with
  | content scalar =>
    cases given : Key.ofValue? left with
    | none => exact .none
    | some key =>
      refine .some (.content fun target same => ?_)
      subst same
      unfold Key.ofValue? at given
      split at given
      all_goals grind
  | reference matched => exact .some (.reference matched)

/-! ## Entries -/

/-- Entries whose keys and values match. -/
def EntryMatches (pairing : Pairing) (left right : Key × Value) : Prop :=
  left.1.Matches pairing right.1 ∧ left.2.Matches pairing right.2

section Entries

variable {left right : List (Key × Value)} {key other : Key}

/-- Matching keys find matching values among matching entries. -/
theorem findEntry_matches (entries : List.Forall₂ (EntryMatches pairing) left right)
    (keys : key.Matches pairing other) :
    Option.Rel (Value.Matches pairing) (findEntry key left) (findEntry other right) := by
  induction entries with
  | nil => exact .none
  | @cons first second _ _ entry _ ih =>
    unfold findEntry
    have same := entry.1.eq_iff keys
    by_cases here : first.1 = key
    · rw [if_pos here, if_pos (same.mp here)]
      exact .some entry.2
    · rw [if_neg here, if_neg (mt same.mpr here)]
      exact ih

/-- Putting matching values under matching keys keeps entries matching. -/
theorem putEntry_matches (entries : List.Forall₂ (EntryMatches pairing) left right)
    (keys : key.Matches pairing other) {value further : Value}
    (values : value.Matches pairing further) :
    List.Forall₂ (EntryMatches pairing) (putEntry key value left)
      (putEntry other further right) := by
  induction entries with
  | nil => exact .cons ⟨keys, values⟩ .nil
  | @cons first second _ _ entry rest ih =>
    unfold putEntry
    have same := entry.1.eq_iff keys
    by_cases here : first.1 = key
    · rw [if_pos here, if_pos (same.mp here)]
      exact .cons ⟨keys, values⟩ rest
    · rw [if_neg here, if_neg (mt same.mpr here)]
      exact .cons entry ih

/-- Dropping matching keys keeps entries matching. -/
theorem dropEntry_matches (entries : List.Forall₂ (EntryMatches pairing) left right)
    (keys : key.Matches pairing other) :
    List.Forall₂ (EntryMatches pairing) (dropEntry key left) (dropEntry other right) := by
  unfold dropEntry
  induction entries with
  | nil => exact .nil
  | @cons first second _ _ entry _ ih =>
    have same := entry.1.eq_iff keys
    by_cases here : first.1 = key
    · rw [List.filter_cons_of_neg (by simpa using here),
        List.filter_cons_of_neg (by simpa using same.mp here)]
      exact ih
    · rw [List.filter_cons_of_pos (by simpa using here),
        List.filter_cons_of_pos (by simpa using mt same.mpr here)]
      exact .cons entry ih

end Entries

/-! ## Tables -/

/-- Tables with matching entries and matching hooks. -/
structure Table.Matches (pairing : Pairing) (left right : Table) : Prop where
  entries : List.Forall₂ (EntryMatches pairing) left.entries right.entries
  hook : Option.Rel (Value.Matches pairing) left.hook right.hook

namespace Table.Matches

variable {left right : Table} {key other : Key}

/-- An empty table matches itself. -/
theorem empty : Matches pairing {} {} := ⟨.nil, .none⟩

/-- Tables that match do so under a larger pairing. -/
theorem mono (matched : left.Matches small right) (grows : small ≤ large) :
    left.Matches large right where
  entries := matched.entries.imp fun _ _ entry => ⟨entry.1.mono grows, entry.2.mono grows⟩
  hook := by
    rcases rel_cases matched.hook with ⟨none, other⟩ | ⟨_, _, some, other, values⟩
    · rw [none, other]
      exact .none
    · rw [some, other]
      exact .some (values.mono grows)

/-- Matching keys read matching values. -/
theorem read (matched : left.Matches pairing right) (keys : key.Matches pairing other) :
    (left.read key).Matches pairing (right.read other) := by
  unfold Table.read
  rcases rel_cases (findEntry_matches matched.entries keys) with
    ⟨none, other⟩ | ⟨_, _, some, other, values⟩
  · rw [none, other]
    exact .nil
  · rw [some, other]
    exact values

/-- Matching values read matching values. -/
theorem get (matched : left.Matches pairing right) {value further : Value}
    (values : value.Matches pairing further) :
    (left.get value).Matches pairing (right.get further) := by
  unfold Table.get
  rcases rel_cases values.ofValue? with ⟨none, other⟩ | ⟨_, _, some, other, keys⟩
  · rw [none, other]
    exact .nil
  · rw [some, other]
    exact matched.read keys

/-- Writing matching values keeps tables matching. -/
theorem write (matched : left.Matches pairing right) (keys : key.Matches pairing other)
    {value further : Value} (values : value.Matches pairing further) :
    (left.write key value).Matches pairing (right.write other further) := by
  have dropped := dropEntry_matches matched.entries keys
  have put := putEntry_matches matched.entries keys values
  cases values with
  | content scalar => cases value <;> first | exact ⟨dropped, matched.hook⟩ | exact ⟨put, matched.hook⟩
  | reference known => exact ⟨put, matched.hook⟩

/-- Storing matching values gives matching values and keeps tables matching, or fails alike. -/
theorem set (matched : left.Matches pairing right) {key other value further : Value}
    (keys : key.Matches pairing other) (values : value.Matches pairing further) :
    (∃ fault, left.set key value = .error fault ∧ right.set other further = .error fault) ∨
      ∃ old previous table tail, left.set key value = .ok (old, table) ∧
        right.set other further = .ok (previous, tail) ∧ old.Matches pairing previous ∧
        table.Matches pairing tail := by
  unfold Table.set
  rw [keys.isNil]
  rcases rel_cases keys.ofValue? with ⟨none, other⟩ | ⟨_, _, some, other, known⟩
  · rw [none, other]
    exact .inl ⟨_, rfl, rfl⟩
  · rw [some, other]
    exact .inr ⟨_, _, _, _, rfl, rfl, matched.read known, matched.write known values⟩

/-- Matching tables have equally many entries. -/
theorem count (matched : left.Matches pairing right) : left.count = right.count :=
  matched.entries.length_eq

/-- Matching tables have the same length. -/
theorem length (matched : left.Matches pairing right) : left.length = right.length := by
  have border (steps known : Nat) : left.borderFrom steps known = right.borderFrom steps known := by
    induction steps generalizing known with
    | zero => rfl
    | succ steps ih =>
      unfold Table.borderFrom
      have key : Key.Matches pairing (.integer (Int64.ofNat (known + 1)))
          (.integer (Int64.ofNat (known + 1))) := .content nofun
      rcases rel_cases (findEntry_matches matched.entries key) with
        ⟨none, other⟩ | ⟨_, _, some, other, _⟩
      · rw [none, other]
      · rw [some, other]
        exact ih (known + 1)
  unfold Table.length
  rw [matched.count, border]

/-- Matching tables have the same size. -/
theorem ownSize (matched : left.Matches pairing right) : left.ownSize = right.ownSize := by
  unfold Table.ownSize
  refine congrArg total (map_eq_of_forall₂ (fun first second entry => ?_) matched.entries)
  rw [entry.1.size, entry.2.congr Value.ownSize (fun _ _ => rfl) fun _ _ => rfl]

/-- Matching tables lead to the same tables. -/
theorem inner (matched : left.Matches pairing right) : left.inner = right.inner := by
  have same : List.Forall₂ Eq left.inner right.inner := by
    refine List.rel_filterMap ?_ matched.entries
    rintro ⟨_, value⟩ ⟨_, other⟩ entry
    have values : value.Matches pairing other := entry.2
    cases values with
    | content scalar =>
      cases value with
      | reference known => exact absurd rfl (scalar known)
      | _ => exact .none
    | reference known =>
      cases known with
      | table id => exact .some rfl
      | _ => exact .none
  rwa [List.forall₂_eq_eq_eq] at same

/-- Matching tables hold the same. -/
theorem holds (matched : left.Matches pairing right) : left.holds = right.holds := by
  have hook : (left.hook.map Value.holds).getD [] = (right.hook.map Value.holds).getD [] := by
    rcases rel_cases matched.hook with ⟨none, other⟩ | ⟨_, _, some, other, values⟩
    · rw [none, other]
    · rw [some, other]
      exact values.holds
  unfold Table.holds
  rw [hook, List.flatMap_def, List.flatMap_def]
  refine congrArg (fun held => held.flatten ++ _)
    (map_eq_of_forall₂ (fun first second entry => ?_) matched.entries)
  rw [entry.1.toValue.holds, entry.2.holds]

/-- The keys and the values of matching tables match in turn. -/
theorem inTurn (matched : left.Matches pairing right) :
    AllMatch pairing (left.entries.flatMap fun entry => [entry.1.toValue, entry.2])
      (right.entries.flatMap fun entry => [entry.1.toValue, entry.2]) := by
  have listed {first second : List (Key × Value)}
      (entries : List.Forall₂ (EntryMatches pairing) first second) :
      AllMatch pairing (first.flatMap fun entry => [entry.1.toValue, entry.2])
        (second.flatMap fun entry => [entry.1.toValue, entry.2]) := by
    induction entries with
    | nil => exact .nil
    | cons entry _ ih => exact .cons entry.1.toValue (.cons entry.2 ih)
  exact listed matched.entries

end Table.Matches

end ScriptHost
