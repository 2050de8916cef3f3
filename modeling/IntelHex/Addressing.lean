/-!
# Addresses

A data record gives the low half of its address. The upper part comes from the last extended address
record and is combined with it in one of two ways; either way the result is taken modulo 2^32.
-/

namespace IntelHex

/-- How the upper part and the low half of an address are combined. -/
inductive Mode
  /-- The upper part counts paragraphs of sixteen bytes and is added. -/
  | segmented
  /-- The upper part is the upper half of the address. -/
  | linear
deriving DecidableEq, Repr

/-- The addressing in force. -/
structure Addressing where
  /-- The way of combination. -/
  mode : Mode := .linear
  /-- The upper part. -/
  high : Nat := 0
deriving DecidableEq, Repr

/-- The absolute address of a low part, which may be any integer: it is combined with the upper part
in 32-bit two's-complement arithmetic. -/
def Addressing.absolute (a : Addressing) (low : Int) : Nat :=
  match a.mode with
  | .linear => (BitVec.ofNat 32 a.high <<< 16 ||| BitVec.ofInt 32 low).toNat
  | .segmented => (BitVec.ofNat 32 a.high <<< 4 + BitVec.ofInt 32 low).toNat

/-- An absolute address has at most 32 bits. -/
theorem Addressing.absolute_lt (a : Addressing) (low : Int) : a.absolute low < 0x100000000 := by
  unfold Addressing.absolute
  cases a.mode <;> exact BitVec.isLt _

end IntelHex
