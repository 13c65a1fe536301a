import ScriptHost.Text.Blank
import ScriptHost.Value.Comparison

/-!
# Conversion of values

The conversions that built-in functions apply: to a truth value, to a number that
scripts know, and to the text of a number.
-/

namespace ScriptHost

open ScriptHost.Binary

/-- The value of a digit in bases up to thirty-six, letters in either case. -/
def digitValue? (base : Nat) (digit : Char) : Option Nat :=
  let value :=
    if digit.isDigit then some (digit.toNat - '0'.toNat)
    else if 'a' ≤ digit && digit ≤ 'z' then some (digit.toNat - 'a'.toNat + 10)
    else if 'A' ≤ digit && digit ≤ 'Z' then some (digit.toNat - 'A'.toNat + 10)
    else none
  value.filter (· < base)

/-- The number of a text of digits after a known part, absent if it holds anything else. -/
def digitsFrom? (base known : Nat) : List Char → Option Nat
  | [] => some known
  | digit :: rest =>
    match digitValue? base digit with
    | some value => digitsFrom? base (known * base + value) rest
    | none => none

/-- The number of one or more digits. -/
def digitsNumber? (base : Nat) : List Char → Option Nat
  | [] => none
  | digits => digitsFrom? base 0 digits

/-- A text after its sign, and whether the sign is a minus. -/
def splitSign : List Char → Bool × List Char
  | '-' :: rest => (true, rest)
  | '+' :: rest => (false, rest)
  | text => (false, text)

/-- Digits without the mark of base sixteen. -/
def withoutBaseMark (base : Nat) : List Char → List Char
  | '0' :: 'x' :: rest => if base = 16 then rest else '0' :: 'x' :: rest
  | '0' :: 'X' :: rest => if base = 16 then rest else '0' :: 'X' :: rest
  | text => text

/-- The word of a text of digits after a known part, absent if it holds anything else or does not
fit. -/
def wordFrom? (base : Nat) (known : UInt64) : List Char → Option UInt64
  | [] => some known
  | digit :: rest =>
    match digitValue? base digit with
    | some value =>
      if known.toNat * base + value < UInt64.size then
        wordFrom? base (UInt64.ofNat (known.toNat * base + value)) rest
      else none
    | none => none

/-- The unsigned word that a text writes in a base: a plus sign at most, then one or more digits. -/
def readWord? (base : Nat) (text : List Char) : Option UInt64 :=
  let digits :=
    match text with
    | '+' :: rest => rest
    | _ => text
  if digits.isEmpty then none else wordFrom? base 0 digits

/-- The signed word of an unsigned one, if it has one. -/
def signedWord? (word : UInt64) : Option Int64 :=
  if word.toNat ≤ largestInt64 then some (Int64.ofNat word.toNat) else none

/-- Whether a text starts with a digit of a base. -/
def startsWithDigit (base : Nat) (text : List Char) : Bool :=
  text.head?.any fun first => (digitValue? base first).isSome

/-- The 32-bit integer of a sign and digits. A word is read with a sign of its own, so the first
digit is looked for before. -/
def readDigits? (base : Nat) (negative : Bool) (digits : List Char) : Option (Ranged .integer) :=
  if startsWithDigit base digits then do
    let magnitude ← signedWord? (← readWord? base digits)
    Ranged.ofInt? .integer (if negative then -magnitude else magnitude).toInt
  else none

/-- The 32-bit integer that a text writes in a base: blanks around it, at most one sign,
in base sixteen at most one mark, then digits only. -/
def readInteger? (base : Nat) (text : List Char) : Option (Ranged .integer) :=
  let (negative, unsigned) := splitSign (Text.trim text)
  readDigits? base negative (withoutBaseMark base unsigned)

/-- The lower case of an ASCII text. -/
def foldAscii (text : String) : List Char := text.toList.map Char.toLower

namespace Value

/-- The truth value of a value in assertions: numbers by being other than zero, texts by
not spelling falsehood, and everything else but `nil` and `false` as true. -/
def toBoolean (value : Value) : Bool :=
  match value with
  | .nil => false
  | .boolean content => content
  | .text content => (Text.trim content.toList).map Char.toLower != "false".toList
  | _ =>
    match value.toDouble? with
    | some datum => !datum.equals (Datum.zero false)
    | none => true

/-- The 32-bit integer of an integer, if it has one. -/
def narrow (value : Int) : Value :=
  match Ranged.ofInt? .integer value with
  | some content => .int .integer content
  | none => .number (Datum.ofInt value)

/-- The number that a value stands for in a base. Base zero stands for ten. Texts are read as
integers, narrow integer kinds become the script's integers and the other kinds doubles. -/
def toNumber (value : Value) (base : Nat) : Except BadArgument Value :=
  let base := if base = 0 then 10 else base
  if base < 2 || 36 < base then .error (.base base)
  else
    .ok <|
      match value with
      | .text content =>
        match readInteger? base content.toList with
        | some content => .int .integer content
        | none => .nil
      | .int .integer _ | .number _ => value
      | .int .byte content | .int .sbyte content | .int .int16 content | .int .uint16 content =>
        narrow content.value
      | .int .uint32 content | .int .int64 content | .int .uint64 content =>
        .number (Datum.ofInt content.value)
      | .single content => .number (content.convert .double)
      | .boolean content => .int .integer (if content then ⟨1, by decide, by decide⟩
          else ⟨0, by decide, by decide⟩)
      | _ => .nil

/-- The text of a number. -/
def numberText? : Value → Option String
  | .int _ content => some (toString content.value)
  | .single content => some content.text
  | .number content => some content.text
  | _ => none

/-- The text that concatenation takes: texts and numbers only. -/
def concatText? (value : Value) : Option String :=
  match value with
  | .text content => some content
  | _ => value.numberText?

end Value

end ScriptHost
