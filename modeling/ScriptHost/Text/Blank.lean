import ScriptHost.Text.Ranges

/-!
# Blanks around a text

A blank is a character with the white space property. Trimming takes blanks from
both ends and keeps those inside.
-/

namespace ScriptHost.Text

/-- The code points with the white space property. -/
def blankRanges : Array (Nat × Nat) := #[
  (0x9, 0xD), (0x20, 0x20), (0x85, 0x85), (0xA0, 0xA0), (0x1680, 0x1680), (0x2000, 0x200A),
  (0x2028, 0x2029), (0x202F, 0x202F), (0x205F, 0x205F), (0x3000, 0x3000)]

/-- Whether a character is a blank. -/
def isBlank (character : Char) : Bool := inRanges blankRanges character

/-- A text without the blanks at its start. -/
def trimStart (text : List Char) : List Char := text.dropWhile isBlank

/-- A text without the blanks at its ends. -/
def trim (text : List Char) : List Char := (trimStart (trimStart text).reverse).reverse

end ScriptHost.Text
