import IntelHex.Text.Hex

/-!
# Block listings

A data block is listed on one line: its address in at least eight places, a colon and a blank, and the
digits of its bytes.
-/

namespace IntelHex.Listing

/-- The line of one block. -/
def line (letters : LetterCase) (address : Int) (data : List UInt8) : List Char :=
  Text.Hex.paddedInt letters 8 address ++ [':', ' '] ++ Text.Hex.ofBytes letters data

/-- The lines of several blocks, each with its end. -/
def lines (letters : LetterCase) (blocks : List (Int × List UInt8)) : List Char :=
  blocks.flatMap fun block => line letters block.1 block.2 ++ ['\n']

end IntelHex.Listing
