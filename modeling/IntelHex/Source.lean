import IntelHex.Run

/-!
# Reading from a source

A source gives its bytes in chunks. Bytes in one piece are given in chunks of at most as many bytes as
are asked for; a source that was cut beforehand gives its parcels one by one. An empty chunk means the
end.
-/

namespace IntelHex

/-- What bytes in one piece are read from. -/
inductive Medium
  /-- A buffer: a read makes a block for as many bytes as there are. -/
  | buffer
  /-- A file: a read makes a block for as many bytes as are asked for, if there is room for it, and then
  looks what there is. -/
  | file (room : Nat)
deriving DecidableEq, Repr

/-- The size of the header in front of a block that a file is read into. -/
def Medium.headerSize : Nat := 33

/-- Why a read of that many bytes is refused, if it is. -/
def Medium.refusal? (size : Nat) : Medium → Option AllocationError
  | .buffer => if Allocation.lengthLimit < size then some .sizeOverflow else none
  | .file room => Allocation.refusal? room headerSize size

/-- Bytes that are read in chunks, with the amount read so far. -/
inductive Source
  /-- Bytes in one piece; the amount is counted in bytes. -/
  | whole (medium : Medium) (rest : List UInt8) (taken : Nat)
  /-- Bytes in parcels; the amount is counted in parcels. -/
  | parcels (rest : List (List UInt8)) (taken : Nat)
deriving DecidableEq, Repr

namespace Source

/-- A source over the bytes of a buffer. -/
def ofBytes (data : List UInt8) : Source :=
  .whole .buffer data 0

/-- A source over the bytes of a file. -/
def ofFile (room : Nat) (data : List UInt8) : Source :=
  .whole (.file room) data 0

/-- A source over bytes in parcels. -/
def ofParcels (parcels : List (List UInt8)) : Source :=
  .parcels parcels 0

/-- The amount read so far. -/
def taken : Source → Nat
  | .whole _ _ taken => taken
  | .parcels _ taken => taken

/-- The amount left. -/
def left : Source → Nat
  | .whole _ rest _ => rest.length
  | .parcels rest _ => rest.length

/-- Why a read of that many bytes is refused, if it is. Parcels come in their own size, whatever is
asked for. -/
def refusal? (size : Nat) : Source → Option AllocationError
  | .whole medium _ _ => medium.refusal? size
  | .parcels _ _ => none

/-- The next chunk, and the source after it. -/
def read (size : Nat) : Source → List UInt8 × Source
  | .whole medium rest taken =>
    (rest.take size, .whole medium (rest.drop size) (taken + (rest.take size).length))
  | .parcels [] taken => ([], .parcels [] taken)
  | .parcels (parcel :: rest) taken => (parcel, .parcels rest (taken + 1))

/-- A chunk that is not empty leaves less in the source. -/
theorem left_read_lt {size : Nat} {s : Source} (h : (s.read size).1 ≠ []) :
    (s.read size).2.left < s.left := by
  match s with
  | .whole medium rest taken =>
    simp only [read, left, List.length_drop, ne_eq, List.take_eq_nil_iff, not_or] at h ⊢
    have := List.length_pos_iff.2 h.2
    have := Nat.pos_of_ne_zero h.1
    omega
  | .parcels [] taken => simp [read] at h
  | .parcels (parcel :: rest) taken => simp [read, left]

end Source

namespace Run

variable {κ σ : Type}

/-- The chunk size if none is given. -/
def defaultChunk : Nat := 4096

/-- Feeds chunk after chunk up to the end, a chunk with a terminator, or a failure. -/
def drain (host : Host κ σ) (size : Nat) (source : Source) (r : Run κ σ) :
    Except Abort Intake × Run κ σ × Source :=
  if _h : (source.read size).1 = [] then (.ok .accepted, r, (source.read size).2)
  else match r.feed host (source.read size).1 with
    | (.ok .accepted, r) =>
      if terminator ∈ (source.read size).1 then (.ok .accepted, r, (source.read size).2)
      else r.drain host size (source.read size).2
    | (stopped, r) => (stopped, r, (source.read size).2)
termination_by source.left
decreasing_by exact Source.left_read_lt _h

/-- Feeds a whole source in chunks of the given size. -/
def feedSource (host : Host κ σ) (size : Int) (source : Source) (r : Run κ σ) :
    Except Abort Intake × Run κ σ × Source :=
  if size ≤ 0 then (.error .nonPositiveChunk, r, source)
  else match source.refusal? size.toNat with
    | some error => (.error (.allocation error), r, source)
    | none => r.drain host size.toNat source

end Run

end IntelHex
