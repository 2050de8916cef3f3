import IntelHex.Proofs.Advance

/-!
# A record that is too large

When the payload of a record has been found too large, the decoder still waits for the type of the
record, with one digit too many already counted. Every further digit is taken for the type again, and
the byte count has not become smaller; so every byte is refused. The byte count, the payload buffer, the
addressing and the position are left alone meanwhile, and so are the reasons to refuse a byte.
-/

namespace IntelHex

namespace Decoder

variable {κ : Type} {d stuck after : Decoder κ} {b : UInt8}

/-- The payload of the record was found too large for the buffer. -/
structure Oversized (d : Decoder κ) : Prop where
  phase : d.phase = .within .recordType
  later : d.fieldDigits ≠ 0
  some : d.frame.byteCount ≠ 0
  large : d.capacity < d.frame.byteCount

/-- A refusal for the size of the payload says so. -/
theorem Moves.oversized {declared capacity : Nat}
    (h : Moves d b after (.refuse (.countOverflow declared capacity))) : after.Oversized := by
  cases h with
  | digit field digit after action hphase hb hreads =>
    cases hreads with
    | countOverflow hlater htype hlarge hsome =>
      exact ⟨(phase_absorb d digit).trans hphase, Nat.succ_ne_zero _, hsome, hlarge⟩

/-- Why a byte is refused where the type of a record that is too large is due. -/
def objection (d : Decoder κ) (b : UInt8) : Cause :=
  match Digit.ofByte? b with
  | none => .invalidDigit b
  | some digit =>
    if (digit.val : Int) ∈ d.supported then .countOverflow d.frame.byteCount d.capacity
    else .unsupportedType digit

/-- What a decoder shows of a record that is too large, and what it answers by, is still that of the
decoder that got stuck. -/
structure HeldAt (stuck d : Decoder κ) : Prop where
  oversized : d.Oversized
  capacity : d.capacity = stuck.capacity
  supported : d.supported = stuck.supported
  byteCount : d.frame.byteCount = stuck.frame.byteCount
  addressLow : d.frame.addressLow = stuck.frame.addressLow
  payload : d.frame.payload = stuck.frame.payload
  addressing : d.addressing = stuck.addressing
  position : d.position = stuck.position

namespace HeldAt

/-- A decoder is stuck where it is stuck. -/
theorem refl (h : d.Oversized) : HeldAt d d :=
  ⟨h, rfl, rfl, rfl, rfl, rfl, rfl, rfl⟩

/-- The same bytes are refused for the same reasons. -/
theorem objection_eq (h : HeldAt stuck d) : d.objection = stuck.objection := by
  funext b
  rw [objection, objection, h.supported, h.byteCount, h.capacity]

/-- The address of the record stays the same. -/
theorem address_eq (h : HeldAt stuck d) : d.address = stuck.address := by
  rw [address, address, h.addressing, h.addressLow]

/-- Neither the checksum nor the consumer nor the error that is remembered has a part in it. -/
theorem touch (h : HeldAt stuck d) (pairing : Pairing) (checksum : UInt8) (consumer : Option κ)
    (error : Option DecodingError) :
    HeldAt stuck { d with
      pairing := pairing, checksum := checksum, consumer := consumer, lastError := error } := by
  obtain ⟨hphase, hlater, hsome, hlarge⟩ := h.oversized
  exact { h with oversized := ⟨hphase, hlater, hsome, hlarge⟩ }

/-- A digit that is added to the checksum or kept leads nowhere. -/
theorem absorb (h : HeldAt stuck d) (digit : Digit) : HeldAt stuck (d.absorb digit) := by
  rw [absorb_eq]
  exact h.touch _ _ _ _

/-- A digit is taken for the type of the record, and refused. -/
theorem reads (h : HeldAt stuck d) {digit : Digit} (hb : Digit.ofByte? b = some digit) :
    ∃ after, Reads d digit .recordType after (.refuse (stuck.objection b)) ∧
      HeldAt stuck after := by
  obtain ⟨hphase, hlater, hsome, hlarge⟩ := h.oversized
  have hcounted := Nat.succ_ne_zero d.fieldDigits
  rw [← h.objection_eq, objection, hb]
  by_cases htype : (digit.val : Int) ∈ d.supported
  · simp only [if_pos htype]
    exact ⟨_, .countOverflow hlater htype hlarge hsome,
      { h with oversized := ⟨hphase, hcounted, hsome, hlarge⟩ }⟩
  · simp only [if_neg htype]
    exact ⟨_, .unsupportedType hlater htype,
      { h with oversized := ⟨hphase, hcounted, hsome, hlarge⟩ }⟩

/-- Every byte is refused, and leads nowhere. -/
theorem advance (h : HeldAt stuck d) (b : UInt8) :
    (d.advance b).2 = .refuse (stuck.objection b) ∧ HeldAt stuck (d.advance b).1 := by
  cases hb : Digit.ofByte? b with
  | none =>
    have hmoves : Moves d b d (.refuse (.invalidDigit b)) :=
      .invalidDigit .recordType h.oversized.phase hb
    rw [hmoves.eq, objection, hb]
    exact ⟨rfl, h⟩
  | some digit =>
    obtain ⟨after, hreads, hafter⟩ := (h.absorb digit).reads hb
    rw [(Moves.digit .recordType digit _ _ h.oversized.phase hb hreads).eq]
    exact ⟨rfl, hafter⟩

end HeldAt

end Decoder

end IntelHex
