/-!
# Sets of characters given by ranges

Character properties are kept as arrays of inclusive code point ranges.
-/

namespace ScriptHost.Text

/-- Whether a character lies in one of the inclusive ranges. -/
def inRanges (ranges : Array (Nat × Nat)) (character : Char) : Bool :=
  ranges.any fun range => range.1 ≤ character.toNat && character.toNat ≤ range.2

end ScriptHost.Text
