import IntelHex.Allocation
import IntelHex.Memory

/-!
# Memory images

An image is the content of a range of addresses without holes: a fill byte stands wherever the memory
has none.
-/

namespace IntelHex

/-- Which part of a memory an image shows. -/
structure Extent where
  /-- The first address; by default the first one with content. -/
  start : Option Int := none
  /-- One past the last address; by default one past the last one with content. -/
  endex : Option Int := none
  /-- The byte in the holes. -/
  fill : Int := 0xFF
deriving DecidableEq, Repr

/-- Why there is no image. -/
inductive ImageError
  /-- The fill value is no byte. -/
  | invalidFill
  /-- Nothing but holes in a memory that has no content at all. -/
  | noContent
  /-- There is no block of the length of the image. -/
  | allocation (error : AllocationError)
deriving DecidableEq, Repr

/-- The wording of a refused image. -/
def ImageError.message : ImageError → String
  | .invalidFill => "invalid fill byte"
  | .noContent => "non-contiguous data within range"
  | .allocation error => error.message

namespace Memory

/-- The bytes at `count` addresses from `address` on, the holes being filled. -/
def flooded (m : Memory) (address : Int) (count : Nat) (fill : UInt8) : List UInt8 :=
  (List.range count).map fun i => (m.peek (address + (i : Nat))).getD fill

/-- The first address of an image. -/
def imageStart (m : Memory) (extent : Extent) : Int :=
  extent.start.getD m.start

/-- One past the last address of an image. -/
def imageEndex (m : Memory) (extent : Extent) : Int :=
  extent.endex.getD m.endex

/-- The length of an image. -/
def imageLength (m : Memory) (extent : Extent) : Nat :=
  (m.imageEndex extent - m.imageStart extent).toNat

/-- Why there is no image of a part of a memory, if there is none. -/
def imageRefusal? (m : Memory) (extent : Extent) (room : Nat) : Option ImageError :=
  if extent.fill < 0 ∨ 255 < extent.fill then some .invalidFill
  else if m.imageLength extent = 0 then none
  else if m.isEmpty then some .noContent
  else (Allocation.refusal? room 0 (m.imageLength extent)).map .allocation

/-- The image of a part of a memory. -/
def image (m : Memory) (extent : Extent) (room : Nat := Allocation.usualRoom) :
    Except ImageError (List UInt8) :=
  match m.imageRefusal? extent room with
  | some error => .error error
  | none =>
    .ok (m.flooded (m.imageStart extent) (m.imageLength extent) (UInt8.ofNat extent.fill.toNat))

/-- Ranges that follow each other have images that follow each other. -/
theorem flooded_add (m : Memory) (address : Int) (count more : Nat) (fill : UInt8) :
    m.flooded address (count + more) fill =
      m.flooded address count fill ++ m.flooded (address + count) more fill := by
  simp only [flooded, List.range_add, List.map_append, List.map_map]
  congr 1
  apply List.map_congr_left
  intro i _
  simp [Int.add_assoc]

end Memory

end IntelHex
