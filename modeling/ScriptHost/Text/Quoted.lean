import ScriptHost.Text.Hidden

/-!
# Quoted text

The form of a text in descriptions: double quotes around it, a backslash before a
double quote and a backslash, names for the common controls and code points for the
characters without a glyph of their own.
-/

namespace ScriptHost.Text

/-- A number in lower-case hexadecimal digits. -/
def hexadecimal (number : Nat) : List Char := Nat.toDigits 16 number

/-- One character of a quoted text. -/
def quotedCharacter (character : Char) : List Char :=
  if character == '\n' then ['\\', 'n']
  else if character == '\r' then ['\\', 'r']
  else if character == '\t' then ['\\', 't']
  else if character == '\x00' then ['\\', '0']
  else if character == '\x22' then ['\\', '\x22']
  else if character == '\\' then ['\\', '\\']
  else if isHidden character then
    ['\\', 'u', '\x7b'] ++ hexadecimal character.toNat ++ ['\x7d']
  else [character]

/-- A text in quotes. -/
def quoted (text : List Char) : List Char :=
  '\x22' :: (text.flatMap quotedCharacter ++ ['\x22'])

/-- A string in quotes. -/
def quotedString (text : String) : String := String.ofList (quoted text.toList)

end ScriptHost.Text
