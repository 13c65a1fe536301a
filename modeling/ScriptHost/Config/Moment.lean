import ScriptHost.Config.Scalar

/-!
# Dates and times

A moment is a day, a time of day, or both, and then it can say how far its clock is
from universal time. Moments are read from several spellings and written in one: a
`T` between day and time, no more digits of a second than it needs and at most nine,
and `Z` for universal time.

Each reader takes the characters at a place and gives its result with those left
over, or nothing where the text is not well formed.
-/

namespace ScriptHost.Config

open ScriptHost.Binary

/-- A day of a calendar year. -/
structure Date where
  year : Nat
  month : Nat
  day : Nat
deriving DecidableEq, Repr

/-- A time of day, with the decimal digits of a fraction of its second. -/
structure Clock where
  hour : Nat
  minute : Nat
  second : Nat
  fraction : List Char := []
deriving DecidableEq, Repr

/-- How far a clock is from universal time. -/
inductive Offset where
  | universal
  /-- By a number of minutes, ahead or behind. -/
  | shifted (behind : Bool) (minutes : Nat)
deriving DecidableEq, Repr

/-- A date, a time or both. -/
inductive Moment where
  | onlyDate (date : Date)
  | onlyClock (clock : Clock)
  | both (date : Date) (clock : Clock) (offset : Option Offset)
deriving DecidableEq, Repr

/-- A number of exactly `count` digits between two bounds. -/
def fixedNumber? (count low high : Nat) (text : List Char) : Option (Nat × List Char) := do
  let digits := text.take count
  if digits.length = count && digits.all Char.isDigit then
    let value ← digitsNumber? 10 digits
    if low ≤ value && value ≤ high then some (value, text.drop count) else none
  else none

/-- The text after one character. -/
def after? (expected : Char) : List Char → Option (List Char)
  | character :: rest => if character == expected then some rest else none
  | [] => none

/-- The decimal digits of a number, at least `width` of them. -/
def padded (width value : Nat) : String :=
  let digits := Nat.toDigits 10 value
  String.ofList (List.replicate (width - digits.length) '0' ++ digits)

namespace Date

/-- The days of a month. -/
def daysIn (year month : Nat) : Nat :=
  if month = 2 then
    if year % 4 = 0 && (year % 100 != 0 || year % 400 = 0) then 29 else 28
  else if [4, 6, 9, 11].contains month then 30
  else 31

/-- A date at the start of a text. -/
def read? (text : List Char) : Option (Date × List Char) := do
  let (year, rest) ← fixedNumber? 4 0 9999 text
  let (month, rest) ← fixedNumber? 2 1 12 (← after? '-' rest)
  let (day, rest) ← fixedNumber? 2 1 (daysIn year month) (← after? '-' rest)
  return ({ year, month, day }, rest)

/-- The text of a date. -/
def text (date : Date) : String :=
  padded 4 date.year ++ "-" ++ padded 2 date.month ++ "-" ++ padded 2 date.day

end Date

namespace Clock

/-- The most digits of a fraction that are kept. -/
def precision : Nat := 9

/-- A time of day at the start of a text. -/
def read? (text : List Char) : Option (Clock × List Char) := do
  let (hour, rest) ← fixedNumber? 2 0 23 text
  let (minute, rest) ← fixedNumber? 2 0 59 (← after? ':' rest)
  let (second, rest) ← fixedNumber? 2 0 60 (← after? ':' rest)
  match rest with
  | '.' :: digits =>
    let fraction := digits.takeWhile Char.isDigit
    if fraction.isEmpty then none
    else return ({ hour, minute, second, fraction }, digits.dropWhile Char.isDigit)
  | _ => return ({ hour, minute, second }, rest)

/-- Digits without the zeros at their end. -/
def withoutZeros (digits : List Char) : List Char := (digits.reverse.dropWhile (· == '0')).reverse

/-- The text of a fraction. -/
def fractionText (fraction : List Char) : String :=
  match withoutZeros (fraction.take precision) with
  | [] => ""
  | digits => "." ++ String.ofList digits

/-- The text of a time of day. -/
def text (clock : Clock) : String :=
  padded 2 clock.hour ++ ":" ++ padded 2 clock.minute ++ ":" ++ padded 2 clock.second ++
    fractionText clock.fraction

end Clock

namespace Offset

/-- An offset at the start of a text. It can be missing. -/
def read? (text : List Char) : Option (Option Offset × List Char) :=
  match text with
  | 'Z' :: rest => some (some .universal, rest)
  | 'z' :: rest => some (some .universal, rest)
  | sign :: rest =>
    if sign == '+' || sign == '-' then do
      let (hours, rest) ← fixedNumber? 2 0 23 rest
      let (minutes, rest) ← fixedNumber? 2 0 59 (← after? ':' rest)
      return (some (.shifted (sign == '-') (hours * 60 + minutes)), rest)
    else some (none, text)
  | [] => some (none, [])

/-- The text of an offset. None at all is ahead. -/
def text : Offset → String
  | .universal => "Z"
  | .shifted behind minutes =>
    let sign := if behind && minutes != 0 then "-" else "+"
    sign ++ padded 2 (minutes / 60) ++ ":" ++ padded 2 (minutes % 60)

end Offset

namespace Moment

/-- The rest of a moment whose date is known: a time, and an offset if there is one. -/
def readClock? (date : Date) (text : List Char) : Option (Moment × List Char) := do
  let (clock, rest) ← Clock.read? text
  let (offset, rest) ← Offset.read? rest
  return (.both date clock offset, rest)

/-- A moment at the start of a text. A blank after a date belongs to it only if a time follows. -/
def read? (text : List Char) : Option (Moment × List Char) :=
  match Date.read? text with
  | some (date, rest) =>
    match rest with
    | mark :: clock =>
      if mark == 'T' || mark == 't' then readClock? date clock
      else if mark == ' ' && (Clock.read? clock).isSome then readClock? date clock
      else some (.onlyDate date, rest)
    | [] => some (.onlyDate date, [])
  | none => (Clock.read? text).map fun (clock, rest) => (.onlyClock clock, rest)

/-- The text of a moment. -/
def text : Moment → String
  | .onlyDate date => date.text
  | .onlyClock clock => clock.text
  | .both date clock offset => date.text ++ "T" ++ clock.text ++ (offset.map Offset.text).getD ""

end Moment

end ScriptHost.Config
