import IntelHex.Digit
import IntelHex.Record.Buffer

/-!
# Records under construction

The fields of a record grow digit by digit. The payload is collected in a buffer, each byte being built
in place from its two digits; the rest of the buffer is zero.
-/

namespace IntelHex

/-- The part of a record that has been read. -/
structure Frame where
  /-- The declared number of payload bytes. -/
  byteCount : Nat
  /-- The low half of the address. -/
  addressLow : Nat
  /-- The type code. -/
  typeCode : Digit
  /-- The payload buffer. -/
  payload : Buffer
  /-- The number of payload digits read. -/
  payloadDigits : Nat
deriving DecidableEq, Repr

namespace Frame

/-- An empty record with a zeroed buffer of `capacity` bytes. -/
def blank (capacity : Nat) : Frame where
  byteCount := 0
  addressLow := 0
  typeCode := 0
  payload := .zeroed capacity
  payloadDigits := 0

/-- The byte count after one more digit. -/
def pushByteCount (f : Frame) (d : Digit) : Frame :=
  { f with byteCount := 16 * f.byteCount + d.val }

/-- The address after one more digit; it keeps its last four digits. -/
def pushAddress (f : Frame) (d : Digit) : Frame :=
  { f with addressLow := (16 * f.addressLow + d.val) % 0x10000 }

/-- A byte after one more digit; it keeps its last two digits. -/
def pushByte (b : UInt8) (d : Digit) : UInt8 :=
  16 * b + UInt8.ofNat d.val

/-- The number of complete payload bytes. -/
def size (f : Frame) : Nat :=
  f.payloadDigits / 2

/-- The payload after one more digit, unless the buffer has no byte to hold it. -/
def pushPayload? (f : Frame) (d : Digit) : Option Frame :=
  match f.payload.get? f.size with
  | some b =>
    some { f with
      payload := f.payload.set f.size (pushByte b d)
      payloadDigits := f.payloadDigits + 1 }
  | none => none

/-- The complete payload bytes. -/
def data (f : Frame) : List UInt8 :=
  f.payload.take f.size

/-- The number given by the first two payload bytes, a missing one counting as zero. -/
def extension (f : Frame) : Nat :=
  256 * ((f.payload.get? 0).getD 0).toNat + ((f.payload.get? 1).getD 0).toNat

/-- A payload digit has a place as long as the buffer has a byte for it. -/
theorem isSome_pushPayload? (f : Frame) (d : Digit) :
    (f.pushPayload? d).isSome ↔ f.size < f.payload.size := by
  unfold pushPayload? Buffer.get?
  by_cases h : f.size < f.payload.size <;> simp [h]

/-- The buffer keeps its size. -/
theorem size_pushPayload? {f g : Frame} {d : Digit} (h : f.pushPayload? d = some g) :
    g.payload.size = f.payload.size := by
  unfold pushPayload? at h
  split at h
  · cases h
    exact f.payload.size_set f.size _
  · cases h

end Frame

end IntelHex
