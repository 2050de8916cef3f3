import IntelHex.Proofs.Advance
import IntelHex.Proofs.Holding

/-!
# In the middle of a record

The state of a decoder that has read some digits of a record and refused none is computed from these
digits alone: where the next digit belongs, what is pending, the checksum, and each field. A digit
takes the state of the digits before it to the state of one digit more as long as they only begin a
record. A digit of the type that ends them is refused.
-/

namespace IntelHex

namespace Digit

/-- Where the next digit belongs, and how many digits of that field are counted. -/
def place (digits : List Digit) : Phase × Nat :=
  if digits.length < 2 then (.within .byteCount, digits.length)
  else if digits.length < 6 then (.within .address, digits.length - 2)
  else if digits.length < 8 then (.within .recordType, digits.length - 6)
  else if digits.length < 8 + 2 * declared digits then (.within .data, 0)
  else (.within .checksum, digits.length - (8 + 2 * declared digits))

variable {digits : List Digit}

/-- The byte count comes first. -/
theorem place_byteCount (hlast : digits.length < 2) :
    place digits = (.within .byteCount, digits.length) := by
  rw [place, if_pos hlast]

/-- The address follows the byte count. -/
theorem place_address (hfirst : 2 ≤ digits.length) (hlast : digits.length < 6) :
    place digits = (.within .address, digits.length - 2) := by
  rw [place, if_neg (by omega), if_pos hlast]

/-- The type follows the address. -/
theorem place_recordType (hfirst : 6 ≤ digits.length) (hlast : digits.length < 8) :
    place digits = (.within .recordType, digits.length - 6) := by
  rw [place, if_neg (by omega), if_neg (by omega), if_pos hlast]

/-- The payload follows the type. -/
theorem place_data (hfirst : 8 ≤ digits.length) (hlast : digits.length < 8 + 2 * declared digits) :
    place digits = (.within .data, 0) := by
  rw [place, if_neg (by omega), if_neg (by omega), if_neg (by omega), if_pos hlast]

/-- The checksum follows the payload. -/
theorem place_checksum (hfirst : 8 + 2 * declared digits ≤ digits.length) :
    place digits = (.within .checksum, digits.length - (8 + 2 * declared digits)) := by
  rw [place, if_neg (by omega), if_neg (by omega), if_neg (by omega), if_neg (by omega)]

end Digit

namespace Decoder

variable {κ : Type} {d : Decoder κ} {digits : List Digit} {b : UInt8} {digit : Digit}

/-- The decoder has read some digits since the last record mark and refused none. -/
structure Midway (d : Decoder κ) (digits : List Digit) : Prop where
  place : (d.phase, d.fieldDigits) = Digit.place digits
  pending : d.pending = Digit.odd? digits
  checksum : d.checksum = (Digit.bytes digits).sum
  frame : d.frame.Holds d.capacity digits

namespace Midway

/-- A record mark begins a record with no digits. -/
theorem of_recordMark (hphase : d.phase = .start) :
    (d.advance recordMark).2 = .proceed ∧ (d.advance recordMark).1.Midway [] := by
  have hadvance : d.advance recordMark =
      ({ d with
          checksum := 0, pairing := d.pairing.release, position := d.position.recordMark
          frame := .blank d.capacity, phase := .within .byteCount, fieldDigits := 0 }, .proceed) := by
    rw [Decoder.advance, hphase]
    rfl
  rw [hadvance]
  exact ⟨rfl, rfl, rfl, rfl, Frame.Holds.blank d.capacity⟩

/-- The position has no part in a record. -/
theorem move (h : d.Midway digits) (position : Position) :
    Midway { d with position := position } digits :=
  ⟨h.place, h.pending, h.checksum, h.frame⟩

/-- Inside a record the phase is never that between records. -/
theorem phase_ne_start (h : d.Midway digits) : d.phase ≠ .start := by
  intro hphase
  have hplace := h.place
  rw [hphase] at hplace
  unfold Digit.place at hplace
  split_ifs at hplace <;> exact absurd (congrArg Prod.fst hplace) nofun

/-- A byte that is no digit is refused. -/
theorem advance_invalidDigit (h : d.Midway digits) (hb : Digit.ofByte? b = none) :
    (d.advance b).2 = .refuse (.invalidDigit b) := by
  cases hphase : d.phase with
  | start => exact absurd hphase h.phase_ne_start
  | within field => simp only [Decoder.advance, hphase, hb]

/-- A digit is read into its field after it has been added to the checksum or kept. -/
theorem reads (h : d.Midway digits) {field : Field} (hphase : d.phase = .within field)
    (hb : Digit.ofByte? b = some digit) :
    ∃ pairing after action, pairing.pending = Digit.odd? (digits ++ [digit]) ∧
      d.advance b = (after, action) ∧
      Reads { d with checksum := (Digit.bytes (digits ++ [digit])).sum, pairing := pairing }
        digit field after action := by
  have habsorb : ∃ pairing : Pairing, pairing.pending = Digit.odd? (digits ++ [digit]) ∧
      d.absorb digit =
        { d with checksum := (Digit.bytes (digits ++ [digit])).sum, pairing := pairing } := by
    rw [Digit.odd?_concat, Digit.bytes_concat, ← h.pending]
    unfold Decoder.absorb
    cases d.pending with
    | none => exact ⟨.keep digit, rfl, by rw [h.checksum]⟩
    | some high =>
      refine ⟨d.pairing.release, rfl, ?_⟩
      rw [List.sum_append, List.sum_singleton, h.checksum]
  obtain ⟨pairing, hpending, habsorb⟩ := habsorb
  exact ⟨pairing, _, _, hpending, rfl, habsorb ▸ reads_advance hphase hb⟩

/-- A digit of the byte count is accepted. -/
theorem advance_byteCount (h : d.Midway digits) (hb : Digit.ofByte? b = some digit)
    (hlast : digits.length < 2) :
    (d.advance b).2 = .proceed ∧ (d.advance b).1.Midway (digits ++ [digit]) := by
  obtain ⟨hphase, hcount⟩ := Prod.mk.inj (h.place.trans (Digit.place_byteCount hlast))
  have hframe := h.frame.pushByteCount digit hlast
  have hlength : (digits ++ [digit]).length = digits.length + 1 := List.length_append
  obtain ⟨pairing, after, action, hpending, hadvance, hreads⟩ := h.reads hphase hb
  rw [hadvance]
  cases hreads with
  | countDigit hmore =>
    refine ⟨rfl, ?_, hpending, rfl, hframe⟩
    change d.fieldDigits + 1 < 2 at hmore
    rw [Digit.place_byteCount (by omega), hlength, ← hcount]
    exact congrArg (·, d.fieldDigits + 1) hphase
  | countEnd hlast =>
    refine ⟨rfl, ?_, hpending, rfl, hframe⟩
    change 2 ≤ d.fieldDigits + 1 at hlast
    rw [Digit.place_address (by omega) (by omega), hlength, Nat.sub_eq_zero_of_le (by omega)]

/-- A digit of the address is accepted. -/
theorem advance_address (h : d.Midway digits) (hb : Digit.ofByte? b = some digit)
    (hfirst : 2 ≤ digits.length) (hlast : digits.length < 6) :
    (d.advance b).2 = .proceed ∧ (d.advance b).1.Midway (digits ++ [digit]) := by
  obtain ⟨hphase, hcount⟩ := Prod.mk.inj (h.place.trans (Digit.place_address hfirst hlast))
  have hframe := h.frame.pushAddress digit hfirst hlast
  have hlength : (digits ++ [digit]).length = digits.length + 1 := List.length_append
  obtain ⟨pairing, after, action, hpending, hadvance, hreads⟩ := h.reads hphase hb
  rw [hadvance]
  cases hreads with
  | addressDigit hmore =>
    change d.fieldDigits + 1 < 4 at hmore
    refine ⟨rfl, ?_, hpending, rfl, hframe⟩
    rw [Digit.place_address (by omega) (by omega), hlength, Nat.sub_add_comm hfirst, ← hcount]
    exact congrArg (·, d.fieldDigits + 1) hphase
  | addressEnd hend =>
    change 4 ≤ d.fieldDigits + 1 at hend
    refine ⟨rfl, ?_, hpending, rfl, hframe⟩
    rw [Digit.place_recordType (by omega) (by omega), hlength, Nat.sub_eq_zero_of_le (by omega)]

/-- The first digit of the type is accepted if it is zero. -/
theorem advance_typeHigh (h : d.Midway digits) (hb : Digit.ofByte? b = some digit)
    (hlength : digits.length = 6) :
    (d.advance b).2 = (if digit = 0 then .proceed else .refuse .typeNotSmall) ∧
      (d.advance b).1.Midway (digits ++ [digit]) := by
  obtain ⟨hphase, hcount⟩ :=
    Prod.mk.inj (h.place.trans (Digit.place_recordType (by omega) (by omega)))
  have hfirst : d.fieldDigits = 0 := by omega
  have hplace : (d.phase, d.fieldDigits + 1) = Digit.place (digits ++ [digit]) := by
    have hconcat : (digits ++ [digit]).length = 7 := by
      rw [List.length_append, hlength, List.length_singleton]
    rw [Digit.place_recordType (by omega) (by omega), hphase, hfirst, hconcat]
  have hframe := h.frame.keep digit (by omega) (by omega)
    (Digit.dataDigits_concat_of_lt digit (by omega))
  obtain ⟨pairing, after, action, hpending, hadvance, hreads⟩ := h.reads hphase hb
  rw [hadvance]
  cases hreads with
  | typeDigit _ hzero => exact ⟨(if_pos hzero).symm, hplace, hpending, rfl, hframe⟩
  | typeNotSmall _ hzero => exact ⟨(if_neg hzero).symm, hplace, hpending, rfl, hframe⟩
  | unsupportedType hlater _ => exact absurd hfirst hlater
  | typeBeforeChecksum hlater _ _ => exact absurd hfirst hlater
  | countOverflow hlater _ _ _ => exact absurd hfirst hlater
  | typeBeforeData hlater _ _ _ => exact absurd hfirst hlater

/-- An accepted type is accepted if the payload fits. -/
theorem advance_typeLow (h : d.Midway digits) (hb : Digit.ofByte? b = some digit)
    (hlength : digits.length = 7) (hcode : (digit.val : Int) ∈ d.supported)
    (hpayload : Digit.declared digits = 0 ∨ Digit.declared digits ≤ d.capacity) :
    (d.advance b).2 = .proceed ∧ (d.advance b).1.Midway (digits ++ [digit]) := by
  obtain ⟨hphase, hcount⟩ :=
    Prod.mk.inj (h.place.trans (Digit.place_recordType (by omega) (by omega)))
  have hsecond : d.fieldDigits ≠ 0 := by omega
  have hframe := h.frame.typeLow digit hlength
  have hbyteCount := h.frame.byteCount
  have hconcat : (digits ++ [digit]).length = 8 := by
    rw [List.length_append, hlength, List.length_singleton]
  have hdeclared : Digit.declared (digits ++ [digit]) = Digit.declared digits :=
    Digit.declared_concat_of_le digit (by omega)
  obtain ⟨pairing, after, action, hpending, hadvance, hreads⟩ := h.reads hphase hb
  rw [hadvance]
  cases hreads with
  | typeDigit hfirst _ => exact absurd hfirst hsecond
  | typeNotSmall hfirst _ => exact absurd hfirst hsecond
  | unsupportedType _ htype => exact absurd hcode htype
  | typeBeforeChecksum _ _ hempty =>
    change d.frame.byteCount = 0 at hempty
    refine ⟨rfl, ?_, hpending, rfl, hframe⟩
    rw [Digit.place_checksum (by omega), hconcat, Nat.sub_eq_zero_of_le (by omega)]
  | countOverflow _ _ hlarge hsome =>
    change d.capacity < d.frame.byteCount at hlarge
    change d.frame.byteCount ≠ 0 at hsome
    omega
  | typeBeforeData _ _ _ hsome =>
    change d.frame.byteCount ≠ 0 at hsome
    refine ⟨rfl, ?_, hpending, rfl, hframe⟩
    rw [Digit.place_data (by omega) (by omega)]

/-- Any other type is refused. -/
theorem advance_unsupportedType (h : d.Midway digits) (hb : Digit.ofByte? b = some digit)
    (hlength : digits.length = 7) (hcode : (digit.val : Int) ∉ d.supported) :
    (d.advance b).2 = .refuse (.unsupportedType digit) := by
  obtain ⟨hphase, hcount⟩ :=
    Prod.mk.inj (h.place.trans (Digit.place_recordType (by omega) (by omega)))
  have hsecond : d.fieldDigits ≠ 0 := by omega
  obtain ⟨pairing, after, action, -, hadvance, hreads⟩ := h.reads hphase hb
  rw [hadvance]
  cases hreads with
  | typeDigit hfirst _ => exact absurd hfirst hsecond
  | typeNotSmall hfirst _ => exact absurd hfirst hsecond
  | unsupportedType _ _ => rfl
  | typeBeforeChecksum _ htype _ => exact absurd htype hcode
  | countOverflow _ htype _ _ => exact absurd htype hcode
  | typeBeforeData _ htype _ _ => exact absurd htype hcode

/-- An accepted type is refused if the payload does not fit. -/
theorem advance_countOverflow (h : d.Midway digits) (hb : Digit.ofByte? b = some digit)
    (hlength : digits.length = 7) (hcode : (digit.val : Int) ∈ d.supported)
    (hsome : 0 < Digit.declared digits) (hlarge : d.capacity < Digit.declared digits) :
    (d.advance b).2 = .refuse (.countOverflow (Digit.declared digits) d.capacity) := by
  obtain ⟨hphase, hcount⟩ :=
    Prod.mk.inj (h.place.trans (Digit.place_recordType (by omega) (by omega)))
  have hsecond : d.fieldDigits ≠ 0 := by omega
  have hbyteCount := h.frame.byteCount
  obtain ⟨pairing, after, action, -, hadvance, hreads⟩ := h.reads hphase hb
  rw [← hbyteCount] at hsome hlarge ⊢
  rw [hadvance]
  cases hreads with
  | typeDigit hfirst _ => exact absurd hfirst hsecond
  | typeNotSmall hfirst _ => exact absurd hfirst hsecond
  | unsupportedType _ htype => exact absurd hcode htype
  | typeBeforeChecksum _ _ hempty => exact absurd hempty (Nat.ne_of_gt hsome)
  | countOverflow _ _ _ _ => rfl
  | typeBeforeData _ _ hfits _ => exact absurd hfits (Nat.not_le_of_lt hlarge)

/-- A digit of the payload is accepted. -/
theorem advance_data (h : d.Midway digits) (hb : Digit.ofByte? b = some digit)
    (hfirst : 8 ≤ digits.length) (hlast : digits.length < 8 + 2 * Digit.declared digits)
    (hpayload : Digit.declared digits ≤ d.capacity) :
    (d.advance b).2 = .proceed ∧ (d.advance b).1.Midway (digits ++ [digit]) := by
  obtain ⟨hphase, hcount⟩ := Prod.mk.inj (h.place.trans (Digit.place_data hfirst hlast))
  have hconcat : (digits ++ [digit]).length = digits.length + 1 := List.length_append
  have hdeclared : Digit.declared (digits ++ [digit]) = Digit.declared digits :=
    Digit.declared_concat_of_le digit (by omega)
  have hpushed {frame : Frame} (hpush : d.frame.pushPayload? digit = some frame) :
      frame.Holds d.capacity (digits ++ [digit]) ∧ frame.byteCount = Digit.declared digits ∧
        frame.size = (digits.length - 7) / 2 := by
    have hframe := h.frame.pushPayload digit hfirst hlast hpush
    refine ⟨hframe, hframe.byteCount.trans hdeclared, ?_⟩
    rw [Frame.size, hframe.payloadDigits, Digit.length_dataDigits, hdeclared, hconcat]
    omega
  obtain ⟨pairing, after, action, hpending, hadvance, hreads⟩ := h.reads hphase hb
  rw [hadvance]
  cases hreads with
  | overrun hfull => exact absurd (h.frame.place_of_lt hpayload hlast hfirst) (Nat.not_lt_of_le hfull)
  | dataDigit frame hpush hmore =>
    obtain ⟨hframe, hbyteCount, hsize⟩ := hpushed hpush
    refine ⟨rfl, ?_, hpending, rfl, hframe⟩
    rw [Digit.place_data (by omega) (by omega), ← hcount]
    exact congrArg (·, d.fieldDigits) hphase
  | dataEnd frame hpush hend =>
    obtain ⟨hframe, hbyteCount, hsize⟩ := hpushed hpush
    refine ⟨rfl, ?_, hpending, rfl, hframe⟩
    rw [Digit.place_checksum (by omega), Nat.sub_eq_zero_of_le (by omega)]

/-- The first digit of the checksum is accepted. -/
theorem advance_checksum (h : d.Midway digits) (hb : Digit.ofByte? b = some digit)
    (hlength : digits.length = 8 + 2 * Digit.declared digits) :
    (d.advance b).2 = .proceed ∧ (d.advance b).1.Midway (digits ++ [digit]) := by
  obtain ⟨hphase, hcount⟩ :=
    Prod.mk.inj (h.place.trans (Digit.place_checksum (Nat.le_of_eq hlength.symm)))
  have hfirst : d.fieldDigits = 0 := by omega
  have hframe := h.frame.keep digit (by omega) (by omega)
    (Digit.dataDigits_concat_of_le digit (Nat.le_of_eq hlength.symm))
  have hconcat : (digits ++ [digit]).length = digits.length + 1 := List.length_append
  have hdeclared : Digit.declared (digits ++ [digit]) = Digit.declared digits :=
    Digit.declared_concat_of_le digit (by omega)
  have hplace : (d.phase, d.fieldDigits + 1) = Digit.place (digits ++ [digit]) := by
    rw [Digit.place_checksum (by omega), hconcat, hdeclared, hphase, hcount,
      Nat.sub_add_comm (Nat.le_of_eq hlength.symm)]
  obtain ⟨pairing, after, action, hpending, hadvance, hreads⟩ := h.reads hphase hb
  rw [hadvance]
  cases hreads with
  | checksumDigit _ => exact ⟨rfl, hplace, hpending, rfl, hframe⟩
  | countMismatch hlater _ => exact absurd hfirst hlater
  | checksumMismatch hlater _ _ => exact absurd hfirst hlater
  | deliver _ hlater _ _ _ _ => exact absurd hfirst hlater
  | finish hlater _ _ _ => exact absurd hfirst hlater

/-- A digit that leaves the record unfinished is accepted. -/
theorem advance (h : d.Midway digits) (hb : Digit.ofByte? b = some digit)
    (hopen : Unfinished d.setting (digits ++ [digit])) :
    (d.advance b).2 = .proceed ∧ (d.advance b).1.Midway (digits ++ [digit]) := by
  have hshort := hopen.short
  rw [List.length_append, List.length_singleton] at hshort
  by_cases hcount : digits.length < 2
  · exact h.advance_byteCount hb hcount
  · rw [Digit.declared_concat_of_le digit (Nat.le_of_not_lt hcount)] at hshort
    have hfield : digits.length < 6 ∨ digits.length = 6 ∨ digits.length = 7 ∨
        (8 ≤ digits.length ∧ digits.length < 8 + 2 * Digit.declared digits) ∨
          digits.length = 8 + 2 * Digit.declared digits := by omega
    rcases hfield with haddress | hhigh | hlow | ⟨hfirst, hlast⟩ | hchecksum
    · exact h.advance_address hb (Nat.le_of_not_lt hcount) haddress
    · have hzero : digit = 0 := hopen.typeHigh digit (hhigh ▸ List.getElem?_concat_length)
      have htype := h.advance_typeHigh hb hhigh
      rwa [if_pos hzero] at htype
    · have htype := hopen.typeLow digit (hlow ▸ List.getElem?_concat_length)
      rw [Digit.declared_concat_of_le digit (Nat.le_of_not_lt hcount)] at htype
      exact h.advance_typeLow hb hlow htype.1 htype.2
    · have hcode : 7 < digits.length := by omega
      have htype := hopen.of_concat.typeLow _ (List.getElem?_eq_getElem hcode)
      exact h.advance_data hb hfirst hlast (htype.2.resolve_left (by omega))
    · exact h.advance_checksum hb hchecksum

end Midway

end Decoder

end IntelHex
