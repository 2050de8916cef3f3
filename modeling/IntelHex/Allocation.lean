/-!
# Blocks of memory

A block of bytes is not to be had in every size. Its length is a signed number of 64 bits, in which its
header has to fit as well, and there has to be room for it. How much room there is depends on the
machine, and is a parameter here. A block is asked for before anything is done with it, whether as a
buffer, as an image or as a chunk of a file.
-/

namespace IntelHex

/-- Why there is no block of some size. -/
inductive AllocationError
  /-- No length is that large. -/
  | sizeOverflow
  /-- The block would be too large with its header. -/
  | tooLarge
  /-- There is not enough memory. -/
  | outOfMemory
deriving DecidableEq, Repr

/-- The wording of a refused block. -/
def AllocationError.message : AllocationError → String
  | .sizeOverflow => "cannot fit 'int' into an index-sized integer"
  | .tooLarge => "byte string is too large"
  | .outOfMemory => ""

namespace Allocation

/-- The largest length. -/
def lengthLimit : Nat := 0x7FFFFFFFFFFFFFFF

/-- The room that the programs are started with. No statement depends on it. -/
def usualRoom : Nat := 0x800000000

/-- Why there is no block of some size behind a header, if there is none: the largest block that there
is room for has `room` bytes. -/
def refusal? (room header size : Nat) : Option AllocationError :=
  if lengthLimit < size then some .sizeOverflow
  else if lengthLimit < header + size then some .tooLarge
  else if room < size then some .outOfMemory
  else none

/-- A block is to be had exactly if it fits into a length with its header, and there is room for it. -/
theorem refusal?_eq_none_iff {room header size : Nat} :
    refusal? room header size = none ↔ header + size ≤ lengthLimit ∧ size ≤ room := by
  unfold refusal?
  split
  · simp only [reduceCtorEq, false_iff]
    omega
  · split
    · simp only [reduceCtorEq, false_iff]
      omega
    · split
      · simp only [reduceCtorEq, false_iff]
        omega
      · simp only [true_iff]
        omega

end Allocation

end IntelHex
