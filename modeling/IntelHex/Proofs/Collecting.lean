import IntelHex.Proofs.Digits

/-!
# What a payload buffer collects

All records share one buffer, and a byte of it is built in place from what already stands there. If
the buffer holds some digits, packed two by two, and zeros behind them, then it holds one digit more
after the next one has been pushed. So the bytes that are taken out of it are those of the digits, and
a byte that none of them has reached reads as zero.
-/

namespace IntelHex

/-- The payload buffer holds some digits and nothing else. -/
structure Frame.Collects (f : Frame) (capacity : Nat) (digits : List Digit) : Prop where
  /-- All of the digits are counted. -/
  payloadDigits : f.payloadDigits = digits.length
  /-- They are packed two by two, and zeros stand behind them up to the capacity. -/
  payload : f.payload.toList = Digit.padded capacity digits

namespace Frame.Collects

variable {f g : Frame} {capacity : Nat} {digits : List Digit}

/-- A blank record has collected nothing. -/
theorem blank (capacity : Nat) : (Frame.blank capacity).Collects capacity [] where
  payloadDigits := rfl
  payload := by
    rw [Frame.blank, Buffer.toList_zeroed]
    rfl

/-- The digits pair up to as many bytes as are complete. -/
theorem size_eq (h : f.Collects capacity digits) : f.size = digits.length / 2 := by
  rw [Frame.size, h.payloadDigits]

/-- Another digit is collected behind those before it. -/
theorem push (h : f.Collects capacity digits) (digit : Digit)
    (hpush : f.pushPayload? digit = some g) : g.Collects capacity (digits ++ [digit]) := by
  unfold Frame.pushPayload? at hpush
  split at hpush
  · next b hplace =>
    cases hpush
    rw [Buffer.get?_eq, h.payload, h.size_eq] at hplace
    refine ⟨?_, ?_⟩
    · rw [List.length_append, ← h.payloadDigits]
      rfl
    · rw [Buffer.toList_set, h.payload, h.size_eq]
      exact Digit.set_padded digit hplace
  · cases hpush

/-- What leaves the buffer and its counter alone leaves the digits there. -/
theorem of_eq (h : f.Collects capacity digits) (hpayload : g.payload = f.payload)
    (hcount : g.payloadDigits = f.payloadDigits) : g.Collects capacity digits :=
  ⟨hcount.trans h.payloadDigits, hpayload ▸ h.payload⟩

/-- A buffer of the capacity has room for the digits. -/
theorem length_packed_le (h : f.Collects capacity digits) (hsize : f.payload.size = capacity) :
    (Digit.packed digits).length ≤ capacity := by
  have hlength := f.payload.length_toList
  rw [h.payload, hsize, Digit.padded, List.length_append] at hlength
  omega

/-- The complete bytes are those that the digits pair up to. -/
theorem data_eq (h : f.Collects capacity digits) : f.data = Digit.bytes digits := by
  have hpaired := congrArg List.length (Digit.take_packed digits)
  rw [Digit.length_bytes, List.length_take] at hpaired
  rw [Frame.data, Buffer.take_eq, h.payload, h.size_eq, Digit.padded,
    List.take_append_of_le_length (by omega), Digit.take_packed]

/-- A byte that the digits have not reached reads as zero. -/
theorem get?_getD (h : f.Collects capacity digits) (i : Nat) :
    (f.payload.get? i).getD 0 = (Digit.packed digits).getD i 0 := by
  rw [Buffer.get?_eq, h.payload, Digit.padded, List.getElem?_append, List.getD_eq_getElem?_getD]
  by_cases hinside : i < (Digit.packed digits).length
  · rw [if_pos hinside]
  · rw [if_neg hinside, List.getElem?_replicate, List.getElem?_eq_none (Nat.le_of_not_lt hinside)]
    split <;> rfl

/-- The number given by the first two bytes is that of the first two that the digits fill, a missing
one counting as zero. -/
theorem extension_eq (h : f.Collects capacity digits) :
    f.extension = 256 * ((Digit.packed digits).getD 0 0).toNat +
      ((Digit.packed digits).getD 1 0).toNat := by
  rw [Frame.extension, h.get?_getD, h.get?_getD]

end Frame.Collects

end IntelHex
