import Mathlib.Data.List.Induction
import ScriptHost.Heap

/-!
# The heap counter

A heap counts in words what its calls come to in integers: a charge adds its bytes where the limit
admits the sum, a refund takes off what is there, and a measurement replaces the count. Words and
integers agree until a charge is granted whose sum no word holds. Every limit below the largest
word refuses such a charge. Without a limit, or with the largest word as limit, it is granted, and
the carry is lost.
-/

namespace ScriptHost.Heap

/-- A call of a heap. -/
inductive Call where
  | charge (bytes : UInt64)
  | refund (bytes : UInt64)
  | reset (bytes : UInt64)

/-- The heap after a call. A charge that is refused leaves it as it is. -/
def after (heap : Heap) : Call → Heap
  | .charge bytes => (heap.charge? bytes).getD heap
  | .refund bytes => heap.refund bytes
  | .reset bytes => heap.reset bytes

/-- The heap of a limit, empty at first, after calls in order. -/
def afterCalls (limit : Option UInt64) (calls : List Call) : Heap := calls.foldl after { limit }

/-- Whether a limit admits an amount. -/
def admits : Option UInt64 → Nat → Bool
  | some most, amount => amount ≤ most.toNat
  | none, _ => true

/-- The count after a call, in integers. -/
def account (limit : Option UInt64) (count : Nat) : Call → Nat
  | .charge bytes => if admits limit (count + bytes.toNat) then count + bytes.toNat else count
  | .refund bytes => count - bytes.toNat
  | .reset bytes => bytes.toNat

/-- A charge whose sum no word holds, of a heap whose limit is not below the largest word. -/
structure Overflows (heap : Heap) (bytes : UInt64) : Prop where
  unguarded : heap.limit = none ∨ heap.limit = some largest
  beyond : largest.toNat < heap.allocated.toNat + bytes.toNat

variable {heap charged : Heap} {bytes : UInt64} {limit : Option UInt64} {call : Call}

/-! ## One call -/

/-- The largest word, as an integer. -/
theorem toNat_largest : largest.toNat = 0xFFFFFFFFFFFFFFFF := rfl

/-- A heap has room exactly for the charges that it grants. -/
theorem hasRoomFor_iff_granted :
    heap.hasRoomFor bytes = true ↔ ∃ charged, heap.charge? bytes = some charged := by
  unfold charge?
  split
  case isTrue room => exact iff_of_true room ⟨_, rfl⟩
  case isFalse full => exact iff_of_false full nofun

/-- A granted charge adds words. -/
theorem eq_of_granted (granted : heap.charge? bytes = some charged) :
    charged = { heap with allocated := heap.allocated + bytes } := by
  unfold charge? at granted
  split at granted
  · exact (Option.some.inj granted).symm
  · contradiction

/-- Only a limit below the largest word rules out overflow. -/
theorem unguarded_of_beyond (beyond : largest.toNat < heap.allocated.toNat + bytes.toNat)
    (room : heap.hasRoomFor bytes = true) : heap.Overflows bytes := by
  have top := toNat_largest
  refine ⟨?_, beyond⟩
  unfold hasRoomFor at room
  cases known : heap.limit with
  | none => exact .inl rfl
  | some most =>
    simp only [known, decide_eq_true_eq, UInt64.le_iff_toNat_le, toNat_cappedSum] at room
    have word := most.toNat_lt
    exact .inr (congrArg some (UInt64.toNat_inj.mp (by omega)))

/-- A charge that overflows is granted. -/
theorem Overflows.hasRoomFor (overflows : heap.Overflows bytes) : heap.hasRoomFor bytes = true := by
  rcases overflows.unguarded with none | top
  · rw [Heap.hasRoomFor, none]
  · have least := (cappedSum heap.allocated bytes).toNat_lt
    have word := toNat_largest
    rw [Heap.hasRoomFor, top, decide_eq_true_eq, UInt64.le_iff_toNat_le]
    omega

/-- Unless the charge overflows, there is room for it exactly if the limit admits the sum. -/
theorem hasRoomFor_iff_admits (clear : ¬heap.Overflows bytes) :
    heap.hasRoomFor bytes = true ↔
      admits heap.limit (heap.allocated.toNat + bytes.toNat) = true := by
  have top := toNat_largest
  by_cases beyond : largest.toNat < heap.allocated.toNat + bytes.toNat
  · refine iff_of_false (fun room => clear (unguarded_of_beyond beyond room)) fun admitted => ?_
    cases known : heap.limit with
    | none => exact clear ⟨.inl known, beyond⟩
    | some most =>
      have word := most.toNat_lt
      rw [known, admits, decide_eq_true_eq] at admitted
      omega
  · rw [hasRoomFor_iff (by omega)]
    cases heap.limit with
    | none => simp [admits]
    | some most => simp [admits]

/-- Unless it overflows, a granted charge adds its bytes to the count. -/
theorem toNat_of_granted (granted : heap.charge? bytes = some charged)
    (clear : ¬heap.Overflows bytes) :
    charged.allocated.toNat = heap.allocated.toNat + bytes.toNat := by
  have room := hasRoomFor_iff_granted.mpr ⟨charged, granted⟩
  have top := toNat_largest
  have fits : ¬largest.toNat < heap.allocated.toNat + bytes.toNat :=
    fun beyond => clear (unguarded_of_beyond beyond room)
  rw [eq_of_granted granted, UInt64.toNat_add]
  exact Nat.mod_eq_of_lt (by omega)

/-- A charge that overflows loses the carry. -/
theorem Overflows.granted (overflows : heap.Overflows bytes) :
    ∃ charged, heap.charge? bytes = some charged ∧
      charged.allocated.toNat + UInt64.size = heap.allocated.toNat + bytes.toNat := by
  obtain ⟨charged, granted⟩ := hasRoomFor_iff_granted.mp overflows.hasRoomFor
  refine ⟨charged, granted, ?_⟩
  have top := toNat_largest
  have size : UInt64.size = largest.toNat + 1 := rfl
  have beyond := overflows.beyond
  have left := heap.allocated.toNat_lt
  have right := bytes.toNat_lt
  rw [eq_of_granted granted, UInt64.toNat_add]
  omega

/-- No call changes the limit. -/
@[simp]
theorem limit_after (heap : Heap) (call : Call) : (heap.after call).limit = heap.limit := by
  cases call with
  | charge bytes =>
    rw [after]
    cases granted : heap.charge? bytes with
    | none => rfl
    | some charged => rw [Option.getD_some, eq_of_granted granted]
  | refund bytes => rfl
  | reset bytes => rfl

/-- A call that does not overflow changes the count as it changes the account. -/
theorem toNat_allocated_after (clear : ∀ bytes, call = .charge bytes → ¬heap.Overflows bytes) :
    (heap.after call).allocated.toNat = account heap.limit heap.allocated.toNat call := by
  cases call with
  | charge bytes =>
    have room := hasRoomFor_iff_admits (clear bytes rfl)
    rw [hasRoomFor_iff_granted] at room
    rw [after, account]
    cases granted : heap.charge? bytes with
    | none =>
      rw [if_neg fun admitted => ?_, Option.getD_none]
      obtain ⟨charged, other⟩ := room.mpr admitted
      rw [granted] at other
      contradiction
    | some charged =>
      rw [if_pos (room.mp ⟨charged, granted⟩), Option.getD_some]
      exact toNat_of_granted granted (clear bytes rfl)
  | refund bytes => exact toNat_allocated_refund heap bytes
  | reset bytes => rfl

/-! ## Calls in order -/

/-- One more call. -/
theorem afterCalls_append (limit : Option UInt64) (calls : List Call) (call : Call) :
    afterCalls limit (calls ++ [call]) = (afterCalls limit calls).after call := by
  rw [afterCalls, List.foldl_append]
  rfl

/-- The limit stays what it was. -/
@[simp]
theorem limit_afterCalls (limit : Option UInt64) (calls : List Call) :
    (afterCalls limit calls).limit = limit := by
  induction calls using List.reverseRecOn with
  | nil => rfl
  | append_singleton calls call ih => rw [afterCalls_append, limit_after, ih]

/-- No charge among calls in order overflows at its turn. -/
def NoneOverflows (limit : Option UInt64) (calls : List Call) : Prop :=
  ∀ earlier bytes later, calls = earlier ++ .charge bytes :: later →
    ¬(afterCalls limit earlier).Overflows bytes

/-- If no charge overflows, none of the first ones does. -/
theorem NoneOverflows.init {calls : List Call} (clear : NoneOverflows limit (calls ++ [call])) :
    NoneOverflows limit calls := by
  rintro earlier bytes later rfl
  exact clear earlier bytes (later ++ [call]) (by simp)

/-- If no charge overflows, the count is the account of the calls. -/
theorem toNat_allocated_afterCalls {calls : List Call} (clear : NoneOverflows limit calls) :
    (afterCalls limit calls).allocated.toNat = calls.foldl (account limit) 0 := by
  induction calls using List.reverseRecOn with
  | nil => rfl
  | append_singleton calls call ih =>
    have last : ∀ bytes, call = .charge bytes → ¬(afterCalls limit calls).Overflows bytes := by
      rintro bytes rfl
      exact clear calls bytes [] rfl
    rw [afterCalls_append, toNat_allocated_after last, limit_afterCalls, ih clear.init,
      List.foldl_append]
    rfl

/-- The heap counter is exact but for charges that overflow, for every limit and after all calls in
any order: there is room for a charge exactly if it is granted, and that is the case exactly if the
limit admits the sum of the count and the bytes, which then is the new count. With a limit below
the largest word no charge overflows. Any other heap grants a charge that does, and its carry is
lost. As long as that has not happened, the count is what the calls come to in integers. -/
theorem heap_counter_exact (limit : Option UInt64) (calls : List Call) :
    let heap := afterCalls limit calls
    (∀ bytes,
      (heap.hasRoomFor bytes = true ↔ ∃ charged, heap.charge? bytes = some charged) ∧
      (¬heap.Overflows bytes →
        (heap.hasRoomFor bytes = true ↔
          admits limit (heap.allocated.toNat + bytes.toNat) = true) ∧
        ∀ charged, heap.charge? bytes = some charged →
          charged.allocated.toNat = heap.allocated.toNat + bytes.toNat) ∧
      (heap.Overflows bytes → ∃ charged, heap.charge? bytes = some charged ∧
        charged.allocated.toNat + UInt64.size = heap.allocated.toNat + bytes.toNat)) ∧
    (∀ most, limit = some most → most ≠ largest →
      NoneOverflows limit calls ∧ ∀ bytes, ¬heap.Overflows bytes) ∧
    (NoneOverflows limit calls → heap.allocated.toNat = calls.foldl (account limit) 0) := by
  intro heap
  have guarded {most : UInt64} (known : limit = some most) (below : most ≠ largest)
      (calls : List Call) (bytes : UInt64) : ¬(afterCalls limit calls).Overflows bytes := by
    rintro ⟨unguarded, -⟩
    rw [limit_afterCalls, known] at unguarded
    exact below (Option.some.inj (unguarded.resolve_left nofun))
  refine ⟨fun bytes => ⟨hasRoomFor_iff_granted, fun clear => ⟨?_, ?_⟩, Overflows.granted⟩,
    fun most known below => ⟨fun earlier bytes _ _ => ?_, fun bytes => ?_⟩,
    toNat_allocated_afterCalls⟩
  · rw [hasRoomFor_iff_admits clear, limit_afterCalls]
  · exact fun charged granted => toNat_of_granted granted clear
  · exact guarded known below earlier bytes
  · exact guarded known below calls bytes

/-- The largest word does as little as no limit: a full heap grants one byte more and is empty. -/
example : (afterCalls (some largest) [.reset largest]).charge? 1 = some ⟨some largest, 0⟩ := by
  decide

end ScriptHost.Heap
