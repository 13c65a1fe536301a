import ScriptHost.Value.Comparison

/-!
# Table keys

Values are normalized to become keys. All numbers that stand for an integer share
one key space; other numbers are kept by their double. Absent values and data that
are no numbers cannot be keys.
-/

namespace ScriptHost

open ScriptHost.Binary

/-- A normalized table key. -/
inductive Key where
  | boolean (content : Bool)
  | integer (content : Int64)
  | float (content : Double)
  | text (content : String)
  | reference (target : Reference)
deriving DecidableEq

namespace Key

/-- The key of a value, absent where the value cannot be a key. -/
def ofValue? (value : Value) : Option Key :=
  match value with
  | .nil => none
  | .boolean content => some (.boolean content)
  | .text content => some (.text content)
  | .reference target => some (.reference target)
  | _ =>
    match value.toInt64? with
    | some content => some (.integer content)
    | none =>
      match value.toDouble? with
      | some content => if content.isNaN then none else some (.float content)
      | none => none

/-- The value that a key stands for. -/
def toValue : Key → Value
  | .boolean content => .boolean content
  | .integer content => .ofInt64 content
  | .float content => .number content
  | .text content => .text content
  | .reference target => .reference target

/-- Whether a key is a reference. -/
def isReference : Key → Bool
  | .reference _ => true
  | _ => false

/-- The place of a key's sort in listings. -/
def sortRank : Key → Nat
  | .boolean _ => 0
  | .integer _ => 1
  | .float _ => 2
  | .text _ => 3
  | .reference _ => 4

/-- Whether a key can stand before another in listings: `false` before `true`, then integers,
other numbers and texts in their orders, and references in any order at the end. -/
def precedes (left right : Key) : Bool :=
  match left, right with
  | .boolean a, .boolean b => !a || b
  | .integer a, .integer b => a.toInt ≤ b.toInt
  | .float a, .float b => a.rank ≤ b.rank
  | .text a, .text b => a ≤ b
  | _, _ => left.sortRank ≤ right.sortRank

end Key

end ScriptHost
