/-!
# Heap accounting

A heap counts bytes against a limit. The counter is a 64-bit word and so is every
amount. A charge over the limit is refused as a whole; a refund never takes the
counter below zero.
-/

namespace ScriptHost

/-- A byte counter with its limit. A heap without a limit grants every charge. -/
structure Heap where
  limit : Option UInt64
  allocated : UInt64 := 0
deriving DecidableEq

namespace Heap

/-- The largest amount a word holds. -/
def largest : UInt64 := 0xFFFFFFFFFFFFFFFF

/-- An amount as a word, cut to the largest one. No value in memory has that many bytes. -/
def word (amount : Nat) : UInt64 :=
  if amount ≤ largest.toNat then UInt64.ofNat amount else largest

/-- The amount itself or the largest one, whichever is less. -/
theorem toNat_word (amount : Nat) : (word amount).toNat = min amount largest.toNat := by
  have top : largest.toNat = 2 ^ 64 - 1 := rfl
  unfold word
  split
  · rw [UInt64.toNat_ofNat', Nat.mod_eq_of_lt (by omega)]
    omega
  · omega

/-- A sum cut to the largest amount. -/
def cappedSum (left right : UInt64) : UInt64 :=
  if left.toNat + right.toNat ≤ largest.toNat then left + right else largest

/-- The exact sum or the largest amount, whichever is less. -/
theorem toNat_cappedSum (left right : UInt64) :
    (cappedSum left right).toNat = min (left.toNat + right.toNat) largest.toNat := by
  have top : largest.toNat = 2 ^ 64 - 1 := rfl
  unfold cappedSum
  split
  · rw [UInt64.toNat_add, Nat.mod_eq_of_lt (by omega)]
    omega
  · omega

/-- Whether more bytes stay within the limit. -/
def hasRoomFor (heap : Heap) (bytes : UInt64) : Bool :=
  match heap.limit with
  | some limit => cappedSum heap.allocated bytes ≤ limit
  | none => true

/-- Charge bytes, absent where the limit would be exceeded. -/
def charge? (heap : Heap) (bytes : UInt64) : Option Heap :=
  if heap.hasRoomFor bytes then some { heap with allocated := heap.allocated + bytes } else none

/-- A limited heap has room for bytes whose sum with the count stays within the limit. -/
theorem hasRoomFor_iff {heap : Heap} {bytes : UInt64}
    (fits : heap.allocated.toNat + bytes.toNat ≤ largest.toNat) :
    heap.hasRoomFor bytes = true ↔
      ∀ limit, heap.limit = some limit → heap.allocated.toNat + bytes.toNat ≤ limit.toNat := by
  have sum := toNat_cappedSum heap.allocated bytes
  unfold hasRoomFor
  cases heap.limit with
  | none => simp
  | some limit =>
    simp only [decide_eq_true_eq, UInt64.le_iff_toNat_le, sum, Option.some.injEq,
      forall_eq']
    omega

/-- A granted charge leaves the count within the limit, whatever it was before. -/
theorem charge?_le_limit {heap charged : Heap} {bytes limit : UInt64}
    (granted : heap.charge? bytes = some charged) (limited : heap.limit = some limit) :
    charged.limit = some limit ∧ charged.allocated.toNat ≤ limit.toNat := by
  unfold charge? at granted
  split at granted
  · next room =>
    obtain rfl := Option.some.inj granted
    simp only [hasRoomFor, limited, decide_eq_true_eq, UInt64.le_iff_toNat_le,
      toNat_cappedSum] at room
    have top : largest.toNat = 2 ^ 64 - 1 := rfl
    have word := limit.toNat_lt
    refine ⟨limited, ?_⟩
    simp only [UInt64.toNat_add]
    omega
  · contradiction

/-- Refund bytes. -/
def refund (heap : Heap) (bytes : UInt64) : Heap :=
  { heap with allocated := if bytes ≤ heap.allocated then heap.allocated - bytes else 0 }

/-- A refund takes its bytes off the count, down to zero at most. -/
theorem toNat_allocated_refund (heap : Heap) (bytes : UInt64) :
    (heap.refund bytes).allocated.toNat = heap.allocated.toNat - bytes.toNat := by
  unfold refund
  split
  · next covered => exact UInt64.toNat_sub_of_le _ _ covered
  · next exceeded =>
    have less := UInt64.lt_iff_toNat_lt.mp (UInt64.not_le.mp exceeded)
    simp only [UInt64.toNat_zero]
    omega

/-- Replace the count by a measured one, whatever the limit. -/
def reset (heap : Heap) (bytes : UInt64) : Heap := { heap with allocated := bytes }

end Heap

end ScriptHost
