import IntelHex.Text.Hex
import IntelHex.Text.Printable

/-!
# Quoted text

A text or a byte string is shown between quotation marks. The mark is the apostrophe, unless the
content holds an apostrophe and no double quote. The mark and the backslash are escaped, the
tabulator and the line ends have short escapes, and what is not printable is given by its code.
-/

namespace IntelHex.Text.Quoted

/-- The quotation mark around a content. -/
def mark (content : List Char) : Char :=
  if '\'' ∈ content ∧ '"' ∉ content then '"' else '\''

/-- The escape of a code point that is not shown: two, four or eight digits, as many as it needs. -/
def codeEscape (code : Nat) : List Char :=
  if code < 0x100 then ['\\', 'x'] ++ Hex.padded .lower 2 code
  else if code < 0x10000 then ['\\', 'u'] ++ Hex.padded .lower 4 code
  else ['\\', 'U'] ++ Hex.padded .lower 8 code

/-- One character of the content, as it is written between two marks. -/
def escape (shown : Char → Bool) (quote : Char) (c : Char) : List Char :=
  if c = quote ∨ c = '\\' then ['\\', c]
  else if c = '\t' then ['\\', 't']
  else if c = '\n' then ['\\', 'n']
  else if c = '\r' then ['\\', 'r']
  else if shown c then [c]
  else codeEscape c.toNat

/-- A content between its marks. -/
def enclosed (shown : Char → Bool) (content : List Char) : List Char :=
  let quote := mark content
  quote :: content.flatMap (escape shown quote) ++ [quote]

/-- A quoted text. Printable characters of every script stay as they are. -/
def text (content : List Char) : List Char :=
  enclosed isPrintable content

/-- The character with the code of a byte. -/
def charOfByte (b : UInt8) : Char :=
  Char.ofNat b.toNat

/-- The visible characters of ASCII, and the space. -/
def isVisibleAscii (c : Char) : Bool :=
  decide (0x20 ≤ c.toNat) && decide (c.toNat ≤ 0x7E)

/-- A quoted byte string, marked by a leading `b`. Only visible ASCII characters are shown. -/
def bytes (content : List UInt8) : List Char :=
  'b' :: enclosed isVisibleAscii (content.map charOfByte)

end IntelHex.Text.Quoted
