import ScriptHost.Binary.Decimal
import ScriptHost.Value.Conversion

/-!
# Scalars of configuration texts

Strings come in four notations: with or without escapes, on one line or on several.
Integers have four bases and can have underscores between digits. Floats are checked
for their form and their range; no setting takes one.

Each reader takes the characters at a place and gives its result with those left
over, or nothing where the text is not well formed.
-/

namespace ScriptHost.Config

open ScriptHost.Binary

/-- Whether a character is a blank within a line. -/
def isLineBlank (character : Char) : Bool := character == ' ' || character == '\t'

/-- The text after the blanks of a line. -/
def skipLineBlanks (text : List Char) : List Char := text.dropWhile isLineBlank

/-- The text after a line break. -/
def lineBreak? : List Char → Option (List Char)
  | '\n' :: rest => some rest
  | '\r' :: '\n' :: rest => some rest
  | _ => none

/-- Whether a character can stand in comments and literal strings. -/
def isPlain (character : Char) : Bool :=
  character == '\t' || (0x20 ≤ character.toNat && character.toNat != 0x7F)

/-- Whether a character can stand in a name without quotes. -/
def isBareKey (character : Char) : Bool :=
  character.isAlphanum || character == '_' || character == '-'

/-- The character of a code point in hexadecimal digits. -/
def codePoint? (digits : List Char) : Option Char :=
  match digitsNumber? 16 digits with
  | some code => if h : code.isValidChar then some (Char.ofNatAux code h) else none
  | none => none

/-- The character of an escape, after the backslash. -/
def escape? : List Char → Option (Char × List Char)
  | 'b' :: rest => some ('\x08', rest)
  | 't' :: rest => some ('\t', rest)
  | 'n' :: rest => some ('\n', rest)
  | 'f' :: rest => some ('\x0C', rest)
  | 'r' :: rest => some ('\r', rest)
  | '\x22' :: rest => some ('\x22', rest)
  | '\\' :: rest => some ('\\', rest)
  | 'u' :: rest =>
    if (rest.take 4).length = 4 then (codePoint? (rest.take 4)).map (·, rest.drop 4) else none
  | 'U' :: rest =>
    if (rest.take 8).length = 8 then (codePoint? (rest.take 8)).map (·, rest.drop 8) else none
  | _ => none

/-- A string with escapes on one line, after its opening quote. -/
def basicString? : Nat → List Char → List Char → Option (String × List Char)
  | 0, _, _ => none
  | steps + 1, known, text =>
    match text with
    | '\x22' :: rest => some (String.ofList known.reverse, rest)
    | '\\' :: rest => do
      let (character, rest) ← escape? rest
      basicString? steps (character :: known) rest
    | character :: rest =>
      if isPlain character then basicString? steps (character :: known) rest else none
    | [] => none

/-- A string without escapes on one line, after its opening quote. -/
def literalString? (known : List Char) : List Char → Option (String × List Char)
  | '\x27' :: rest => some (String.ofList known.reverse, rest)
  | character :: rest =>
    if isPlain character then literalString? (character :: known) rest else none
  | [] => none

/-- The text after the blanks and line breaks at its start. -/
def skipBlankLines : List Char → List Char
  | '\r' :: '\n' :: rest => skipBlankLines rest
  | character :: rest =>
    if isLineBlank character || character == '\n' then skipBlankLines rest else character :: rest
  | [] => []

/-- The text after a backslash that joins lines. -/
def joinedLine? (text : List Char) : Option (List Char) :=
  (lineBreak? (skipLineBlanks text)).map skipBlankLines

/-- The end of a string on several lines: three quotes, with up to two that belong to it before. -/
def closing? (quote : Char) (known text : List Char) : Option (String × List Char) :=
  let quotes := (text.takeWhile (· == quote)).length
  if quotes < 3 then none
  else
    let inner := min (quotes - 3) 2
    some (String.ofList (List.replicate inner quote ++ known).reverse, text.drop (inner + 3))

/-- A string on several lines, after its opening quotes. -/
def multilineString? (quote : Char) (escapes : Bool) :
    Nat → List Char → List Char → Option (String × List Char)
  | 0, _, _ => none
  | steps + 1, known, text =>
    match closing? quote known text with
    | some result => some result
    | none =>
      match lineBreak? text with
      | some rest => multilineString? quote escapes steps ('\n' :: known) rest
      | none =>
        match text with
        | [] => none
        | character :: rest =>
          if escapes && character == '\\' then
            match joinedLine? rest with
            | some rest => multilineString? quote escapes steps known rest
            | none =>
              match escape? rest with
              | some (escaped, rest) => multilineString? quote escapes steps (escaped :: known) rest
              | none => none
          else if isPlain character then
            multilineString? quote escapes steps (character :: known) rest
          else none

/-- The text after a line break that follows opening quotes. -/
def afterOpening (text : List Char) : List Char := (lineBreak? text).getD text

/-- A string in any notation. -/
def string? (text : List Char) : Option (String × List Char) :=
  match text with
  | '\x22' :: '\x22' :: '\x22' :: rest =>
    multilineString? '\x22' true (text.length + 1) [] (afterOpening rest)
  | '\x27' :: '\x27' :: '\x27' :: rest =>
    multilineString? '\x27' false (text.length + 1) [] (afterOpening rest)
  | '\x22' :: rest => basicString? text.length [] rest
  | '\x27' :: rest => literalString? [] rest
  | _ => none

/-- Digits of a base with single underscores between them. -/
def groupedDigits? (isDigit : Char → Bool) (text : List Char) : Option (List Char × List Char) :=
  let grouped := text.takeWhile fun character => isDigit character || character == '_'
  let groups := grouped.splitOnP (· == '_')
  if groups.all (!·.isEmpty) then some (groups.flatten, text.drop grouped.length) else none

/-- The number of at least one digit of a base. -/
def digitsIn? (base : Nat) (text : List Char) : Option (Nat × List Char) := do
  let (digits, rest) ← groupedDigits? (fun digit => (digitValue? base digit).isSome) text
  return (← digitsNumber? base digits, rest)

/-- Decimal digits without a leading zero. -/
def decimal? (text : List Char) : Option (List Char × List Char) := do
  let (digits, rest) ← groupedDigits? Char.isDigit text
  match digits with
  | '0' :: _ :: _ => none
  | [] => none
  | _ => some (digits, rest)

/-- A number that is no date. -/
inductive Numeral where
  | integer (value : Int)
  | float
deriving DecidableEq, Repr

/-- The fraction of a float. -/
def fraction? (text : List Char) : Option (List Char × List Char) :=
  match text with
  | '.' :: rest => do
    let (digits, rest) ← groupedDigits? Char.isDigit rest
    if digits.isEmpty then none else some (digits, rest)
  | _ => some ([], text)

/-- The exponent of a float, absent inside where there is none. -/
def exponent? (text : List Char) : Option (Option Int × List Char) :=
  match text with
  | mark :: rest =>
    if mark == 'e' || mark == 'E' then do
      let (negative, unsigned) := splitSign rest
      let (value, rest) ← digitsIn? 10 unsigned
      some (some (if negative then -(value : Int) else value), rest)
    else some (none, text)
  | [] => some (none, text)

/-- Whether a float is in range. Only positive infinity is refused. -/
def floatFits (negative : Bool) (digits fraction : List Char) (exponent : Option Int) : Bool :=
  match digitsNumber? 10 (digits ++ fraction) with
  | some value =>
    negative || (Datum.ofDecimal ⟨value, exponent.getD 0 - fraction.length⟩ : Double).isFinite
  | none => false

/-- A decimal number after its sign. -/
def decimalNumeral? (negative : Bool) (text : List Char) : Option (Numeral × List Char) := do
  let (digits, rest) ← decimal? text
  let (fraction, rest) ← fraction? rest
  let (exponent, rest) ← exponent? rest
  if fraction.isEmpty && exponent.isNone then
    let magnitude ← digitsNumber? 10 digits
    let value : Int := if negative then -(magnitude : Int) else magnitude
    if smallestInt64 ≤ value ∧ value ≤ largestInt64 then some (.integer value, rest) else none
  else if floatFits negative digits fraction exponent then some (.float, rest)
  else none

/-- A number in another base than ten. -/
def basedNumeral? (base : Nat) (text : List Char) : Option (Numeral × List Char) := do
  let (value, rest) ← digitsIn? base text
  if value ≤ largestInt64 then some (.integer value, rest) else none

/-- A number. -/
def numeral? (text : List Char) : Option (Numeral × List Char) :=
  match text with
  | '0' :: 'x' :: rest => basedNumeral? 16 rest
  | '0' :: 'o' :: rest => basedNumeral? 8 rest
  | '0' :: 'b' :: rest => basedNumeral? 2 rest
  | _ =>
    let (negative, unsigned) := splitSign text
    match unsigned with
    | 'i' :: 'n' :: 'f' :: rest => some (.float, rest)
    | 'n' :: 'a' :: 'n' :: rest => some (.float, rest)
    | _ => decimalNumeral? negative unsigned

end ScriptHost.Config
