import ScriptHost.Library.Arguments
import ScriptHost.Text.CaseMap

/-!
# The string library

Positions are character positions from one, and negative ones count from the end.
-/

namespace ScriptHost.TextLibrary

open ScriptHost.Action

/-- The most bytes that repetition builds, whatever the heap allows. -/
def longestRepetition : Nat := 0x40000000

/-- The number of characters. -/
def len (arguments : List Value) : Action (List Value) := do
  return [.ofNat (← Arguments.text arguments 0 "len").length]

/-- The lower case. -/
def lower (arguments : List Value) : Action (List Value) := do
  let text ← Arguments.text arguments 0 "lower"
  return [.text (String.ofList (Text.lowerCase text.toList))]

/-- The upper case. -/
def upper (arguments : List Value) : Action (List Value) := do
  let text ← Arguments.text arguments 0 "upper"
  return [.text (String.ofList (Text.upperCase text.toList))]

/-- A position counted from the start, given the number of characters. -/
def fromStart (length position : Int64) : Int64 :=
  if position < 0 then max (length + position + 1) 0 else position

/-- The place of the first character from a position on. -/
def firstPlace (length position : Int64) : Int64 := max (fromStart length position) 1

/-- The place of the last character up to a position. -/
def lastPlace (length position : Int64) : Int64 := min (fromStart length position) length

/-- The characters from the one at an index up to another index, absent where the indices are not
in order or beyond the end. -/
def range? (characters : List Char) (start stop : UInt64) : Option (List Char) :=
  if start ≤ stop ∧ stop.toNat ≤ characters.length then
    some ((characters.take stop.toNat).drop start.toNat)
  else none

/-- The characters at positions from `first` to `last`, absent where the range is left. -/
def slice? (characters : List Char) (first last : Int64) : Option (List Char) :=
  let length := Int64.ofNat characters.length
  let start := firstPlace length first
  let stop := lastPlace length last
  if stop < start then some [] else range? characters (start - 1).toUInt64 stop.toUInt64

/-- The part of a text between two positions. -/
def sub (arguments : List Value) : Action (List Value) := do
  let text ← Arguments.text arguments 0 "sub"
  let first ← Arguments.integer arguments 1 "sub" 1
  let last ← Arguments.integer arguments 2 "sub" (-1)
  match slice? text.toList first last with
  | some part => return [.text (String.ofList part)]
  | none => throw .outOfRange

/-- A text a number of times in a row. -/
def repeated (text : String) (count : Nat) : String := count.repeat (· ++ text) ""

/-- A text several times in a row. The result must be small enough for the heap of the
environment, which is not charged. -/
def rep (context : Context) (arguments : List Value) : Action (List Value) := do
  let text ← Arguments.text arguments 0 "rep"
  let count := (← Arguments.integer arguments 1 "rep" 1).toInt
  if count ≤ 0 then return [.text ""]
  let total := text.utf8ByteSize * count.toNat
  if longestRepetition < total then badArgument 2 "rep" .tooLarge
  else
    let heaps ← view fun world =>
      context.environment.toList.map fun id => (world.environment id).heap
    if heaps.all (·.hasRoomFor (UInt64.ofNat total)) then
      return [.text (if text.isEmpty then "" else repeated text count.toNat)]
    else fail .outOfMemory

end ScriptHost.TextLibrary
