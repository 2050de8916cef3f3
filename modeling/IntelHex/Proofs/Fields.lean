import IntelHex.Proofs.Grammar

/-!
# The fields among the digits of a record

The digits of a record are cut into fields by their number: the first two declare how many of them
the payload has. Each field of the digits read so far has its equations for one more digit. The digits
of a complete record show its bytes, and all that begins a record and reaches the declared length is
the digits of a record.
-/

namespace IntelHex

namespace Digit

/-- The digits of the address among those of a record. -/
def lowDigits (digits : List Digit) : List Digit :=
  (digits.drop 2).take 4

/-- The digits of the payload among those of a record. -/
def dataDigits (digits : List Digit) : List Digit :=
  (digits.drop 8).take (2 * declared digits)

variable {digits : List Digit} (digit : Digit)

/-- One more digit stays within the next bound. -/
theorem length_concat_le {bound : Nat} (h : digits.length < bound) :
    (digits ++ [digit]).length ≤ bound := by
  rw [List.length_append]
  exact h

/-- A digit is the last one, or it was there before. -/
theorem mem_getElem?_concat {digit found : Digit} {i : Nat}
    (h : found ∈ (digits ++ [digit])[i]?) :
    (digits.length = i ∧ digit = found) ∨ found ∈ digits[i]? := by
  rw [List.getElem?_append] at h
  by_cases hlength : i < digits.length
  · rw [if_pos hlength] at h
    exact .inr h
  · rw [if_neg hlength] at h
    obtain ⟨hlast, hfound⟩ := List.getElem?_eq_some_iff.1 h
    rw [List.length_singleton] at hlast
    rw [List.getElem_singleton] at hfound
    exact .inl ⟨by omega, hfound⟩

/-- A digit of the byte count. -/
theorem declared_concat_of_lt (h : digits.length < 2) :
    declared (digits ++ [digit]) = 16 * declared digits + digit.val := by
  rw [declared, List.take_of_length_le (length_concat_le digit h), number_concat, declared,
    List.take_of_length_le (Nat.le_of_lt h)]

/-- Later digits leave the byte count alone. -/
theorem declared_concat_of_le (h : 2 ≤ digits.length) :
    declared (digits ++ [digit]) = declared digits := by
  rw [declared, List.take_append_of_le_length h, declared]

/-- The digits before the address are none of it. -/
theorem lowDigits_concat_of_lt (h : digits.length < 2) :
    lowDigits (digits ++ [digit]) = lowDigits digits := by
  rw [lowDigits, List.drop_eq_nil_of_le (length_concat_le digit h), lowDigits,
    List.drop_eq_nil_of_le (Nat.le_of_lt h)]

/-- A digit of the address. -/
theorem lowDigits_concat (h : 2 ≤ digits.length) (hlast : digits.length < 6) :
    lowDigits (digits ++ [digit]) = lowDigits digits ++ [digit] := by
  have hlength : (digits.drop 2).length < 4 := by
    rw [List.length_drop]
    omega
  rw [lowDigits, lowDigits, List.drop_append_of_le_length h,
    List.take_of_length_le (length_concat_le digit hlength),
    List.take_of_length_le (Nat.le_of_lt hlength)]

/-- Later digits leave the address alone. -/
theorem lowDigits_concat_of_le (h : 6 ≤ digits.length) :
    lowDigits (digits ++ [digit]) = lowDigits digits := by
  have hlength : 4 ≤ (digits.drop 2).length := by
    rw [List.length_drop]
    omega
  rw [lowDigits, List.drop_append_of_le_length (by omega), List.take_append_of_le_length hlength,
    lowDigits]

/-- The digits before the payload are none of it. -/
theorem dataDigits_concat_of_lt (h : digits.length < 8) :
    dataDigits (digits ++ [digit]) = dataDigits digits := by
  rw [dataDigits, List.drop_eq_nil_of_le (length_concat_le digit h), dataDigits,
    List.drop_eq_nil_of_le (Nat.le_of_lt h), List.take_nil, List.take_nil]

/-- A digit of the payload. -/
theorem dataDigits_concat (h : 8 ≤ digits.length)
    (hlast : digits.length < 8 + 2 * declared digits) :
    dataDigits (digits ++ [digit]) = dataDigits digits ++ [digit] := by
  have hlength : (digits.drop 8).length < 2 * declared digits := by
    rw [List.length_drop]
    omega
  rw [dataDigits, dataDigits, declared_concat_of_le digit (by omega),
    List.drop_append_of_le_length h, List.take_of_length_le (length_concat_le digit hlength),
    List.take_of_length_le (Nat.le_of_lt hlength)]

/-- The digits after the payload leave it alone. -/
theorem dataDigits_concat_of_le (h : 8 + 2 * declared digits ≤ digits.length) :
    dataDigits (digits ++ [digit]) = dataDigits digits := by
  have hlength : 2 * declared digits ≤ (digits.drop 8).length := by
    rw [List.length_drop]
    omega
  rw [dataDigits, declared_concat_of_le digit (by omega), List.drop_append_of_le_length (by omega),
    List.take_append_of_le_length hlength, dataDigits]

/-- The payload so far has as many digits as have been read behind the type. -/
theorem length_dataDigits (digits : List Digit) :
    (dataDigits digits).length = min (2 * declared digits) (digits.length - 8) := by
  rw [dataDigits, List.length_take, List.length_drop]

end Digit

namespace Record

variable {κ : Type} (r : Record)

/-- The digits of a record, field by field. -/
theorem digits_eq :
    r.digits =
      [Digit.high (UInt8.ofNat r.payload.length), Digit.low (UInt8.ofNat r.payload.length),
        Digit.high r.addressHigh, Digit.low r.addressHigh, Digit.high r.addressLow,
        Digit.low r.addressLow, 0, r.code] ++
        (Digit.ofBytes r.payload ++ Digit.ofBytes [r.checksum]) := by
  rw [← Digit.ofBytes_append]
  simp only [digits, bytes, Digit.ofBytes, List.flatMap_cons, Digit.high_byte, Digit.low_byte]
  rfl

/-- A record has ten digits and two for each byte of the payload. -/
@[simp] theorem length_digits : r.digits.length = 2 * (r.payload.length + 5) := by
  rw [digits, Digit.length_ofBytes]
  simp only [bytes, List.length_cons, List.length_append, List.length_nil]

/-- The digits of a record pair up to its bytes. -/
theorem bytes_digits : Digit.bytes r.digits = r.bytes :=
  Digit.bytes_ofBytes r.bytes

/-- A record declares the length of its payload. -/
@[simp] theorem declared_digits : Digit.declared r.digits = r.payload.length := by
  have hshort := r.short
  rw [digits_eq]
  change Digit.number [Digit.high _, Digit.low _] = _
  rw [Digit.number_byte, UInt8.toNat_ofNat', Nat.mod_eq_of_lt hshort]

/-- The digits of the address write its low half. -/
theorem number_lowDigits : Digit.number (Digit.lowDigits r.digits) = r.low := by
  have hhigh := Digit.number_byte r.addressHigh
  have hlow := Digit.number_byte r.addressLow
  rw [digits_eq]
  change Digit.number [_, _, _, _] = _
  simp only [Digit.number, List.foldl_cons, List.foldl_nil] at hhigh hlow ⊢
  rw [low]
  omega

/-- The first digit of the type is zero. -/
theorem typeHigh_digits : r.digits[6]? = some 0 := by
  rw [digits_eq]
  rfl

/-- The second digit of the type is the code. -/
theorem typeLow_digits : r.digits[7]? = some r.code := by
  rw [digits_eq]
  rfl

/-- The digits of the payload are those of its bytes. -/
theorem dataDigits_digits : Digit.dataDigits r.digits = Digit.ofBytes r.payload := by
  rw [Digit.dataDigits, declared_digits, digits_eq]
  exact List.take_left' (Digit.length_ofBytes r.payload)

/-- A record has a last digit. -/
theorem exists_last : ∃ digits digit, r.digits = digits ++ [digit] := by
  have hlength := r.length_digits
  have hsome : r.digits ≠ [] := List.ne_nil_of_length_pos (by omega)
  exact ⟨_, _, (List.dropLast_concat_getLast hsome).symm⟩

/-- Digits that reach the declared length are those of a record, if the first digit of the type is
zero. -/
theorem exists_record {digits : List Digit}
    (hlength : digits.length = 2 * (Digit.declared digits + 5)) (htype : digits[6]? = some 0) :
    ∃ r : Record, r.digits = digits := by
  have hpaired : Digit.odd? digits = none := by
    rw [Digit.odd?_eq_none_iff]
    omega
  have hdigits := Digit.ofBytes_bytes hpaired
  have hbytes : (Digit.bytes digits).length = Digit.declared digits + 5 := by
    rw [Digit.length_bytes]
    omega
  match hsplit : Digit.bytes digits with
  | count :: addressHigh :: addressLow :: type :: tail =>
    rw [hsplit] at hdigits hbytes
    subst hdigits
    have hcount : Digit.declared (Digit.ofBytes (count :: addressHigh :: addressLow :: type :: tail)) =
        count.toNat := Digit.number_byte count
    have hhigh : Digit.high type = 0 := Option.some.inj htype
    have hcode : Digit.byte 0 (Digit.low type) = type := by
      rw [← hhigh, Digit.byte_high_low]
    rw [hcount] at hbytes
    have htail : tail.length = count.toNat + 1 := by
      simp only [List.length_cons] at hbytes
      omega
    have hsome : tail ≠ [] := List.ne_nil_of_length_eq_add_one htail
    have hpayload : tail.dropLast.length = count.toNat := by
      rw [List.length_dropLast, htail, Nat.add_sub_cancel]
    refine ⟨⟨addressHigh, addressLow, Digit.low type, tail.dropLast, tail.getLast hsome, ?_⟩, ?_⟩
    · rw [hpayload]
      exact count.toNat_lt
    · change Digit.ofBytes (UInt8.ofNat tail.dropLast.length :: addressHigh :: addressLow ::
        Digit.byte 0 (Digit.low type) :: (tail.dropLast ++ [tail.getLast hsome])) = _
      rw [hcode, hpayload, UInt8.ofNat_toNat, List.dropLast_concat_getLast hsome]
  | [] | [_] | [_, _] | [_, _, _] =>
    rw [hsplit] at hbytes
    simp only [List.length_cons, List.length_nil] at hbytes
    omega

end Record

namespace Unfinished

variable {κ : Type} {setting : Setting κ} {digits : List Digit} {digit : Digit}

/-- Up to the address nothing can be wrong. -/
theorem of_length_le (setting : Setting κ) (h : digits.length ≤ 6) : Unfinished setting digits where
  short := by omega
  typeHigh digit hdigit := by
    obtain ⟨hlength, -⟩ := List.getElem?_eq_some_iff.1 hdigit
    omega
  typeLow code hcode := by
    obtain ⟨hlength, -⟩ := List.getElem?_eq_some_iff.1 hcode
    omega

/-- The digits before the last one begin a record if all of them do. -/
theorem of_concat (h : Unfinished setting (digits ++ [digit])) : Unfinished setting digits where
  short := by
    have hshort := h.short
    rw [List.length_append, List.length_singleton] at hshort
    by_cases hcount : digits.length < 2
    · omega
    · rw [Digit.declared_concat_of_le digit (Nat.le_of_not_lt hcount)] at hshort
      omega
  typeHigh first hfirst := by
    obtain ⟨hlength, -⟩ := List.getElem?_eq_some_iff.1 hfirst
    exact h.typeHigh first ((List.getElem?_append_left hlength).trans hfirst)
  typeLow code hcode := by
    obtain ⟨hlength, -⟩ := List.getElem?_eq_some_iff.1 hcode
    have htype := h.typeLow code ((List.getElem?_append_left hlength).trans hcode)
    rwa [Digit.declared_concat_of_le digit (by omega)] at htype

/-- Digits begin a record, or there is a first one that completes it or does not belong there. -/
theorem or_exists_first (setting : Setting κ) (digits : List Digit) :
    Unfinished setting digits ∨ ∃ done digit later, digits = done ++ [digit] ++ later ∧
      Unfinished setting done ∧ ¬Unfinished setting (done ++ [digit]) := by
  induction digits using List.reverseRecOn with
  | nil => exact .inl (of_length_le setting (Nat.zero_le 6))
  | append_singleton digits digit ih =>
    rcases ih with hopen | ⟨done, first, later, rfl, hdone, hfirst⟩
    · by_cases hnext : Unfinished setting (digits ++ [digit])
      · exact .inl hnext
      · exact .inr ⟨digits, digit, [], (List.append_nil _).symm, hopen, hnext⟩
    · exact .inr ⟨done, first, later ++ [digit], List.append_assoc _ _ _, hdone, hfirst⟩

/-- Digits that lack one of their declared length lack one of a record. -/
theorem exists_record (h : Unfinished setting digits)
    (hlength : digits.length + 1 = 2 * (Digit.declared digits + 5)) (digit : Digit) :
    ∃ r : Record, r.digits = digits ++ [digit] ∧ r.Admitted setting := by
  have hdeclared : Digit.declared (digits ++ [digit]) = Digit.declared digits :=
    Digit.declared_concat_of_le digit (by omega)
  have htype : (digits ++ [digit])[6]? = some 0 := by
    have hsix : 6 < digits.length := by omega
    rw [List.getElem?_append_left hsix, List.getElem?_eq_getElem hsix,
      h.typeHigh _ (List.getElem?_eq_getElem hsix)]
  have hcomplete : (digits ++ [digit]).length = 2 * (Digit.declared (digits ++ [digit]) + 5) := by
    rw [List.length_append, hdeclared]
    exact hlength
  obtain ⟨r, hr⟩ := Record.exists_record hcomplete htype
  have hcode : digits[7]? = some r.code := by
    rw [← r.typeLow_digits, hr, List.getElem?_append_left (by omega)]
  obtain ⟨hsupported, hfits⟩ := h.typeLow r.code hcode
  rw [← hdeclared, ← hr, Record.declared_digits] at hfits
  exact ⟨r, hr, hsupported, hfits⟩

/-- One more digit that is not the last one and is no type to be refused. -/
theorem concat (h : Unfinished setting digits)
    (hlast : digits.length + 1 ≠ 2 * (Digit.declared digits + 5))
    (hhigh : digits.length = 6 → digit = 0)
    (hlow : digits.length = 7 → (digit.val : Int) ∈ setting.supported ∧
      (Digit.declared digits = 0 ∨ Digit.declared digits ≤ setting.capacity)) :
    Unfinished setting (digits ++ [digit]) where
  short := by
    have hshort := h.short
    rw [List.length_append, List.length_singleton]
    by_cases hcount : digits.length < 2
    · omega
    · rw [Digit.declared_concat_of_le digit (Nat.le_of_not_lt hcount)]
      omega
  typeHigh first hfirst := by
    rcases Digit.mem_getElem?_concat hfirst with ⟨hlength, rfl⟩ | hfirst
    · exact hhigh hlength
    · exact h.typeHigh first hfirst
  typeLow code hcode := by
    rcases Digit.mem_getElem?_concat hcode with ⟨hlength, rfl⟩ | hcode
    · rw [Digit.declared_concat_of_le digit (by omega)]
      exact hlow hlength
    · obtain ⟨hlength, -⟩ := List.getElem?_eq_some_iff.1 hcode
      rw [Digit.declared_concat_of_le digit (by omega)]
      exact h.typeLow code hcode

/-- A zero can follow the address. -/
theorem concat_zero (setting : Setting κ) (h : digits.length = 6) :
    Unfinished setting (digits ++ [0]) :=
  (of_length_le setting (Nat.le_of_eq h)).concat (by omega) (fun _ => rfl) fun hseven => by omega

/-- A digit ends the beginning of a record in one of four ways. -/
theorem of_not_concat (h : Unfinished setting digits)
    (hnot : ¬Unfinished setting (digits ++ [digit])) :
    (digits.length = 6 ∧ digit ≠ 0) ∨
      (digits.length = 7 ∧ (digit.val : Int) ∉ setting.supported) ∨
      (digits.length = 7 ∧ (digit.val : Int) ∈ setting.supported ∧ 0 < Digit.declared digits ∧
        setting.capacity < Digit.declared digits) ∨
      ∃ r : Record, r.digits = digits ++ [digit] ∧ r.Admitted setting := by
  by_cases hlast : digits.length + 1 = 2 * (Digit.declared digits + 5)
  · exact .inr (.inr (.inr (h.exists_record hlast digit)))
  · by_cases hhigh : digits.length = 6 ∧ digit ≠ 0
    · exact .inl hhigh
    · by_cases hlow : digits.length = 7 ∧ (digit.val : Int) ∉ setting.supported
      · exact .inr (.inl hlow)
      · refine .inr (.inr (.inl ?_))
        by_contra hfits
        refine hnot (h.concat hlast (fun hlength => ?_) fun hlength => ?_)
        · exact Classical.not_not.1 fun hdigit => hhigh ⟨hlength, hdigit⟩
        · have hsupported := Classical.not_not.1 fun hcode => hlow ⟨hlength, hcode⟩
          refine ⟨hsupported, Nat.eq_zero_or_pos _ |>.imp_right fun hsome => ?_⟩
          exact Nat.le_of_not_lt fun hlarge => hfits ⟨hlength, hsupported, hsome, hlarge⟩

end Unfinished

/-- All digits of an admitted record but the last one begin it. -/
theorem Record.Admitted.unfinished {κ : Type} {setting : Setting κ} {r : Record}
    (h : r.Admitted setting) {digits : List Digit} {digit : Digit}
    (hr : r.digits = digits ++ [digit]) : Unfinished setting digits where
  short := by
    have hlength := r.length_digits
    rw [hr, List.length_append, List.length_singleton] at hlength
    have hdeclared := r.declared_digits
    rw [hr, Digit.declared_concat_of_le digit (by omega)] at hdeclared
    omega
  typeHigh first hfirst := by
    obtain ⟨hlength, -⟩ := List.getElem?_eq_some_iff.1 hfirst
    have hzero := r.typeHigh_digits
    rw [hr, List.getElem?_append_left hlength, hfirst] at hzero
    exact Option.some.inj hzero
  typeLow code hcode := by
    obtain ⟨hlength, -⟩ := List.getElem?_eq_some_iff.1 hcode
    have hr7 := r.typeLow_digits
    rw [hr, List.getElem?_append_left hlength, hcode] at hr7
    obtain rfl := Option.some.inj hr7
    have hdeclared := r.declared_digits
    rw [hr, Digit.declared_concat_of_le digit (by omega)] at hdeclared
    rw [hdeclared]
    exact ⟨h.supported, h.fits⟩

end IntelHex
