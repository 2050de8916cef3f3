import IntelHex.Digit

/-!
# Pairing digits

Every second digit of a record completes a byte. The first digit of a byte is kept until its partner
comes, and then stays where it is until the first digit of another byte takes its place.
-/

namespace IntelHex

/-- The first digit of a byte, while its partner is due and after it has come. -/
structure Pairing where
  /-- The digit kept last. -/
  high : Digit := 0
  /-- Whether its partner is due. -/
  due : Bool := false
deriving DecidableEq, Repr

namespace Pairing

/-- The first digit of a byte whose second digit is due. -/
def pending (p : Pairing) : Option Digit :=
  if p.due then some p.high else none

/-- The pairing after the first digit of a byte. -/
def keep (digit : Digit) : Pairing where
  high := digit
  due := true

/-- The pairing after the second digit of a byte, or before any digit of a record. -/
def release (p : Pairing) : Pairing :=
  { p with due := false }

/-- The digit that waits is the one kept last. -/
theorem high_of_pending {p : Pairing} {digit : Digit} (h : p.pending = some digit) :
    p.high = digit := by
  unfold pending at h
  split at h
  · exact Option.some.inj h
  · cases h

end Pairing

end IntelHex
