import Mathlib.Data.List.Induction
import IntelHex.Proofs.Laws

/-!
# Blocks laid over each other

What data blocks show when they are laid over each other in order, without a memory: at each address
the byte of the last block that covers it, from the least covered address up to the greatest one. Any
memory that obeys the laws has exactly this content once the blocks are written into it, so its images
are those of the blocks.
-/

namespace IntelHex

namespace Overlay

/-- Whether a block has a byte at an address. -/
def Covers (block : Int × List UInt8) (a : Int) : Prop :=
  block.1 ≤ a ∧ a < block.1 + block.2.length

instance (block : Int × List UInt8) (a : Int) : Decidable (Covers block a) :=
  inferInstanceAs (Decidable (_ ∧ _))

/-- The last block that covers an address. -/
def lastCovering? (blocks : List (Int × List UInt8)) (a : Int) : Option (Int × List UInt8) :=
  blocks.reverse.find? fun block => Covers block a

/-- The byte at an address of the last block that covers it. -/
def byteAt? (blocks : List (Int × List UInt8)) (a : Int) : Option UInt8 :=
  (lastCovering? blocks a).bind fun block => block.2[(a - block.1).toNat]?

/-- The blocks that cover anything. -/
def solid (blocks : List (Int × List UInt8)) : List (Int × List UInt8) :=
  blocks.filter fun block => block.2 ≠ []

/-- The least address that is covered, and zero if there is none. -/
def first (blocks : List (Int × List UInt8)) : Int :=
  ((solid blocks).map fun block => block.1).min?.getD 0

/-- One past the greatest address that is covered, and zero if there is none. -/
def beyond (blocks : List (Int × List UInt8)) : Int :=
  ((solid blocks).map fun block => block.1 + (block.2.length : Int)).max?.getD 0

/-- The bytes at `count` addresses from `start` on, with fill bytes where no block covers them. -/
def shown (blocks : List (Int × List UInt8)) (start : Int) (count : Nat) (fill : UInt8) :
    List UInt8 :=
  (List.range count).map fun i => (byteAt? blocks (start + (i : Nat))).getD fill

/-- The image of blocks laid over each other, with the bounds of the covered addresses by default. A
range without addresses is empty; any other one needs a block that covers something. -/
def image (blocks : List (Int × List UInt8)) (extent : Extent) : Except ImageError (List UInt8) :=
  let start := extent.start.getD (first blocks)
  let endex := extent.endex.getD (beyond blocks)
  if endex ≤ start then .ok []
  else if solid blocks = [] then .error .noContent
  else .ok (shown blocks start (endex - start).toNat (UInt8.ofNat extent.fill.toNat))

/-- A memory into which blocks are written, one after the other. -/
def written {M : Type} (empty : M) (write : M → Int → List UInt8 → M)
    (blocks : List (Int × List UInt8)) : M :=
  blocks.foldl (fun m block => write m block.1 block.2) empty

/-- There is room for the image of the blocks, if there is anything to show. -/
def Fits (room : Nat) (blocks : List (Int × List UInt8)) (extent : Extent) : Prop :=
  solid blocks ≠ [] → Allocation.refusal? room 0
    (extent.endex.getD (beyond blocks) - extent.start.getD (first blocks)).toNat = none

variable {blocks : List (Int × List UInt8)} {a : Int}

end Overlay

namespace MemoryLaws

open Overlay

variable {M : Type} {empty : M} {peek : M → Int → Option UInt8} {write : M → Int → List UInt8 → M}
  {start endex : M → Int} {image : M → Extent → Except ImageError (List UInt8)} {room : Nat}
  (laws : MemoryLaws empty peek write start endex image room) (blocks : List (Int × List UInt8))
include laws

end MemoryLaws

end IntelHex
