import IntelHex.Proofs.Collecting
import IntelHex.Proofs.Fields

/-!
# What a record under construction holds

A record under construction holds some digits if each of its fields is the one that these digits give.
Each way to push a digit takes what holds some digits to what holds one digit more, in the field
where this digit belongs. Once the digits are those of a complete record, the fields are its own.
-/

namespace IntelHex

/-- The fields of a record under construction are those of some digits. -/
structure Frame.Holds (f : Frame) (capacity : Nat) (digits : List Digit) : Prop where
  byteCount : f.byteCount = Digit.declared digits
  addressLow : f.addressLow = Digit.number (Digit.lowDigits digits)
  typeCode : ∀ code ∈ digits[7]?, f.typeCode = code
  payloadDigits : f.payloadDigits = (Digit.dataDigits digits).length
  payload : f.payload.toList = Digit.padded capacity (Digit.dataDigits digits)

namespace Frame.Holds

variable {f g : Frame} {capacity : Nat} {digits : List Digit}

/-- A blank record has no digits. -/
theorem blank (capacity : Nat) : (Frame.blank capacity).Holds capacity [] where
  byteCount := rfl
  addressLow := rfl
  typeCode := nofun
  payloadDigits := rfl
  payload := by
    rw [Frame.blank, Buffer.toList_zeroed]
    rfl

/-- A digit that is not the second one of the type leaves the type code alone. -/
theorem typeCode_concat (h : f.Holds capacity digits) (digit : Digit) (hlength : digits.length ≠ 7) :
    ∀ code ∈ (digits ++ [digit])[7]?, f.typeCode = code := by
  intro code hcode
  rcases Digit.mem_getElem?_concat hcode with ⟨hseven, -⟩ | hcode
  · exact absurd hseven hlength
  · exact h.typeCode code hcode

/-- A digit of the byte count. -/
theorem pushByteCount (h : f.Holds capacity digits) (digit : Digit) (hlast : digits.length < 2) :
    (f.pushByteCount digit).Holds capacity (digits ++ [digit]) where
  byteCount := by
    rw [Digit.declared_concat_of_lt digit hlast, ← h.byteCount]
    rfl
  addressLow := by
    rw [Digit.lowDigits_concat_of_lt digit hlast]
    exact h.addressLow
  typeCode := h.typeCode_concat digit (by omega)
  payloadDigits := by
    rw [Digit.dataDigits_concat_of_lt digit (by omega)]
    exact h.payloadDigits
  payload := by
    rw [Digit.dataDigits_concat_of_lt digit (by omega)]
    exact h.payload

/-- A digit of the address: four of them keep it within 16 bits. -/
theorem pushAddress (h : f.Holds capacity digits) (digit : Digit) (hfirst : 2 ≤ digits.length)
    (hlast : digits.length < 6) : (f.pushAddress digit).Holds capacity (digits ++ [digit]) where
  byteCount := by
    rw [Digit.declared_concat_of_le digit hfirst]
    exact h.byteCount
  addressLow := by
    have hwidth := Digit.number_lt (Digit.lowDigits (digits ++ [digit]))
    have hlength : (Digit.lowDigits (digits ++ [digit])).length ≤ 4 := List.length_take_le 4 _
    have hbound := Nat.lt_of_lt_of_le hwidth (Nat.pow_le_pow_right (by decide) hlength)
    rw [Digit.lowDigits_concat digit hfirst hlast, Digit.number_concat, ← h.addressLow] at hbound ⊢
    exact Nat.mod_eq_of_lt hbound
  typeCode := h.typeCode_concat digit (by omega)
  payloadDigits := by
    rw [Digit.dataDigits_concat_of_lt digit (by omega)]
    exact h.payloadDigits
  payload := by
    rw [Digit.dataDigits_concat_of_lt digit (by omega)]
    exact h.payload

/-- A digit behind the address that is neither the type code nor one of the payload is kept nowhere. -/
theorem keep (h : f.Holds capacity digits) (digit : Digit) (hfirst : 6 ≤ digits.length)
    (hlength : digits.length ≠ 7)
    (hdata : Digit.dataDigits (digits ++ [digit]) = Digit.dataDigits digits) :
    f.Holds capacity (digits ++ [digit]) where
  byteCount := by
    rw [Digit.declared_concat_of_le digit (by omega)]
    exact h.byteCount
  addressLow := by
    rw [Digit.lowDigits_concat_of_le digit hfirst]
    exact h.addressLow
  typeCode := h.typeCode_concat digit hlength
  payloadDigits := by
    rw [hdata]
    exact h.payloadDigits
  payload := by
    rw [hdata]
    exact h.payload

/-- The second digit of the type is the type code. -/
theorem typeLow (h : f.Holds capacity digits) (code : Digit) (hlength : digits.length = 7) :
    Frame.Holds { f with typeCode := code } capacity (digits ++ [code]) where
  byteCount := by
    rw [Digit.declared_concat_of_le code (by omega)]
    exact h.byteCount
  addressLow := by
    rw [Digit.lowDigits_concat_of_le code (by omega)]
    exact h.addressLow
  typeCode found hfound := by
    rcases Digit.mem_getElem?_concat hfound with ⟨-, hcode⟩ | hbefore
    · exact hcode
    · obtain ⟨hlong, -⟩ := List.getElem?_eq_some_iff.1 hbefore
      omega
  payloadDigits := by
    rw [Digit.dataDigits_concat_of_lt code (by omega)]
    exact h.payloadDigits
  payload := by
    rw [Digit.dataDigits_concat_of_lt code (by omega)]
    exact h.payload

/-- The buffer has collected the digits of the payload. -/
theorem collects (h : f.Holds capacity digits) : f.Collects capacity (Digit.dataDigits digits) :=
  ⟨h.payloadDigits, h.payload⟩

/-- A digit of the payload. -/
theorem pushPayload (h : f.Holds capacity digits) (digit : Digit) (hfirst : 8 ≤ digits.length)
    (hlast : digits.length < 8 + 2 * Digit.declared digits)
    (hpush : f.pushPayload? digit = some g) : g.Holds capacity (digits ++ [digit]) := by
  have hcollects := h.collects.push digit hpush
  rw [← Digit.dataDigits_concat digit hfirst hlast] at hcollects
  unfold Frame.pushPayload? at hpush
  split at hpush
  · cases hpush
    refine ⟨?_, ?_, h.typeCode_concat digit (by omega), hcollects.payloadDigits, hcollects.payload⟩
    · rw [Digit.declared_concat_of_le digit (by omega)]
      exact h.byteCount
    · rw [Digit.lowDigits_concat_of_le digit (by omega)]
      exact h.addressLow
  · cases hpush

/-- As long as the payload is not complete, its next digit has a place. -/
theorem place_of_lt (h : f.Holds capacity digits) (hfits : Digit.declared digits ≤ capacity)
    (hlast : digits.length < 8 + 2 * Digit.declared digits) (hfirst : 8 ≤ digits.length) :
    f.size < f.payload.size := by
  have hlength := Digit.le_length_padded capacity (Digit.dataDigits digits)
  rw [← h.payload, Buffer.length_toList] at hlength
  have hcount := h.payloadDigits
  rw [Digit.length_dataDigits] at hcount
  have hplace : f.size < Digit.declared digits := by
    rw [Frame.size]
    omega
  omega

variable {r : Record}

/-- The complete payload has as many bytes as the record declares. -/
theorem size_eq (h : f.Holds capacity r.digits) : f.size = r.payload.length := by
  rw [h.collects.size_eq, r.dataDigits_digits, Digit.length_ofBytes]
  omega

/-- The complete payload is that of the record. -/
theorem data_eq (h : f.Holds capacity r.digits) : f.data = r.payload := by
  rw [h.collects.data_eq, r.dataDigits_digits, Digit.bytes_ofBytes]

/-- The number given by the first two payload bytes is that of the record. -/
theorem extension_eq (h : f.Holds capacity r.digits) : f.extension = r.extension := by
  rw [h.collects.extension_eq, r.dataDigits_digits, Digit.packed_ofBytes]
  rfl

end Frame.Holds

end IntelHex
