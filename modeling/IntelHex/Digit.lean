/-!
# Hexadecimal digits

A digit is a number below sixteen. It is read from a character code in either letter case, written
in a chosen one, and two digits make a byte, the higher one first.
-/

namespace IntelHex

/-- The value of a hexadecimal digit. -/
abbrev Digit := Fin 16

/-- The letters that stand for the digits from ten on. -/
inductive LetterCase
  | upper
  | lower
deriving DecidableEq, Repr

namespace Digit

/-- Digits are written as numerals, which needs sixteen not to be zero. This is written out in full, so
that the numerals mean the same in every module, whatever else it imports. -/
instance neZero : @NeZero Nat (@Zero.ofOfNat0 Nat (instOfNatNat 0)) 16 :=
  ⟨Nat.succ_ne_zero 15⟩

/-- The digit that a character code stands for, letters being read in either case. -/
def ofCode? (code : Nat) : Option Digit :=
  if h : 48 ≤ code ∧ code ≤ 57 then some ⟨code - 48, by omega⟩
  else if h : 65 ≤ code ∧ code ≤ 70 then some ⟨code - 55, by omega⟩
  else if h : 97 ≤ code ∧ code ≤ 102 then some ⟨code - 87, by omega⟩
  else none

/-- The digit that a byte of the input stands for. -/
def ofByte? (b : UInt8) : Option Digit :=
  ofCode? b.toNat

/-- The character code of a digit. -/
def code (letters : LetterCase) (d : Digit) : Nat :=
  if d.val < 10 then 48 + d.val
  else match letters with
    | .upper => 55 + d.val
    | .lower => 87 + d.val

/-- The character of a digit. -/
def char (letters : LetterCase) (d : Digit) : Char :=
  Char.ofNat (code letters d)

/-- The byte made of two digits. -/
def byte (high low : Digit) : UInt8 :=
  UInt8.ofNat (16 * high.val + low.val)

/-- The first digit of a byte. -/
def high (b : UInt8) : Digit :=
  ⟨b.toNat / 16, by have := b.toNat_lt; omega⟩

/-- The second digit of a byte. -/
def low (b : UInt8) : Digit :=
  ⟨b.toNat % 16, by omega⟩

/-- A digit written in either case is read back. -/
theorem ofCode?_code (letters : LetterCase) (d : Digit) : ofCode? (code letters d) = some d := by
  revert d
  cases letters <;> decide

/-- A byte is made of its own two digits. -/
theorem byte_high_low (b : UInt8) : byte (high b) (low b) = b := by
  apply UInt8.toNat_inj.1
  have := b.toNat_lt
  simp only [byte, high, low, UInt8.toNat_ofNat']
  omega

end Digit

end IntelHex
