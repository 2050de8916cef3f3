import IntelHex.Text.CodeRange

/-!
# Blank characters

The twenty-nine characters that may surround a numeral: the horizontal and vertical spaces of every
script, the line and paragraph separators, and the information separators U+001C to U+001F.
-/

namespace IntelHex.Text

/-- The ranges of all blank characters. -/
def blankRanges : List (Nat × Nat) := [
  (0x9, 0xD), (0x1C, 0x20), (0x85, 0x85), (0xA0, 0xA0), (0x1680, 0x1680), (0x2000, 0x200A),
  (0x2028, 0x2029), (0x202F, 0x202F), (0x205F, 0x205F), (0x3000, 0x3000)]

/-- A blank character separates and means nothing. -/
def isBlank (c : Char) : Bool :=
  covered blankRanges c.toNat

/-- A blank of ASCII text: the space, and the tabulator up to the carriage return. -/
def isAsciiBlank (c : Char) : Bool :=
  c = ' ' || (decide (9 ≤ c.toNat) && decide (c.toNat ≤ 13))

end IntelHex.Text
