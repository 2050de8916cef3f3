import IntelHex.Proofs.Midway

/-!
# The last digit of a record

The last digit finds all digits of the record in their places. Then the decoder refuses the record,
or delivers its data block under the addressing in force, or takes over the addressing that the record
sets.
-/

namespace IntelHex

/-- A type code is that of data if it is zero. -/
theorem Kind.ofCode?_eq_data_iff (code : Digit) : ofCode? code.val = some data ↔ code = 0 := by
  revert code
  decide

/-- A type code is that of an extended segment address if it is two. -/
theorem Kind.ofCode?_eq_segment_iff (code : Digit) :
    ofCode? code.val = some extendedSegmentAddress ↔ code = 2 := by
  revert code
  decide

/-- A type code is that of an extended linear address if it is four. -/
theorem Kind.ofCode?_eq_linear_iff (code : Digit) :
    ofCode? code.val = some extendedLinearAddress ↔ code = 4 := by
  revert code
  decide

namespace Decoder

variable {κ : Type} {d : Decoder κ} {digits : List Digit} {b : UInt8} {digit : Digit} {r : Record}

/-- All digits of a record are in place, and it is due to be checked. -/
structure Filled (d : Decoder κ) (r : Record) : Prop where
  frame : d.frame.Holds d.capacity r.digits
  later : d.fieldDigits ≠ 0
  checksum : d.checksum = r.residue

namespace Filled

/-- The payload has the declared length. -/
theorem count_eq (h : d.Filled r) : 2 * d.frame.byteCount = d.frame.payloadDigits := by
  rw [h.frame.byteCount, h.frame.payloadDigits, r.declared_digits, r.dataDigits_digits,
    Digit.length_ofBytes]

/-- The kind is that of the type code. -/
theorem kind?_eq (h : d.Filled r) : d.kind? = Kind.ofCode? r.code.val := by
  rw [kind?, h.frame.typeCode r.code r.typeLow_digits]

/-- The addressing after the record is the one that the record sets. -/
theorem extendedAddressing_eq (h : d.Filled r) : d.extendedAddressing = r.extend d.addressing := by
  rw [extendedAddressing, h.kind?_eq, h.frame.extension_eq, Record.extend]
  by_cases hsegment : r.code = 2
  · rw [if_pos hsegment, (Kind.ofCode?_eq_segment_iff r.code).2 hsegment]
  · rw [if_neg hsegment]
    by_cases hlinear : r.code = 4
    · rw [if_pos hlinear, (Kind.ofCode?_eq_linear_iff r.code).2 hlinear]
    · rw [if_neg hlinear]
      split
      · next hkind => exact absurd ((Kind.ofCode?_eq_segment_iff r.code).1 hkind) hsegment
      · next hkind => exact absurd ((Kind.ofCode?_eq_linear_iff r.code).1 hkind) hlinear
      · rfl

/-- The data block is that of the record. -/
theorem block_eq (h : d.Filled r) (hhigh : d.addressing.high < 65536) :
    d.block = r.block d.addressing := by
  rw [block, address, h.frame.addressLow, r.number_lowDigits, h.frame.data_eq, h.frame.size_eq,
    r.absolute_low hhigh, Record.block]

end Filled

namespace Midway

/-- The last digit of a record is read with all of its digits in place. -/
theorem reads_last (h : d.Midway digits) (hb : Digit.ofByte? b = some digit)
    (hr : r.digits = digits ++ [digit]) :
    ∃ (e after : Decoder κ) (action : Action κ), e.Filled r ∧ e.addressing = d.addressing ∧
      e.consumer = d.consumer ∧ d.advance b = (after, action) ∧
        Reads e digit .checksum after action := by
  have hlength := r.length_digits
  rw [hr, List.length_append, List.length_singleton] at hlength
  have hdeclared := r.declared_digits
  rw [hr, Digit.declared_concat_of_le digit (by omega)] at hdeclared
  obtain ⟨hphase, hcount⟩ := Prod.mk.inj (h.place.trans (Digit.place_checksum (by omega)))
  have hlater : d.fieldDigits ≠ 0 := by omega
  have hframe := h.frame.keep digit (by omega) (by omega)
    (Digit.dataDigits_concat_of_le digit (by omega))
  have hsum : (Digit.bytes (digits ++ [digit])).sum = r.residue := by
    rw [← hr, r.bytes_digits, Record.residue]
  rw [← hr] at hframe
  obtain ⟨pairing, after, action, -, hadvance, hreads⟩ := h.reads hphase hb
  let e : Decoder κ := { d with
    checksum := (Digit.bytes (digits ++ [digit])).sum
    pairing := pairing }
  exact ⟨e, after, action, ⟨hframe, hlater, hsum⟩, rfl, rfl, hadvance, hreads⟩

/-- A record whose bytes do not sum up to zero is refused. -/
theorem advance_checksumMismatch (h : d.Midway digits) (hb : Digit.ofByte? b = some digit)
    (hr : r.digits = digits ++ [digit]) (hsum : r.residue ≠ 0) :
    (d.advance b).2 = .refuse (.checksumMismatch r.residue) := by
  obtain ⟨e, after, action, hfilled, -, -, hadvance, hreads⟩ := h.reads_last hb hr
  rw [hadvance]
  rw [← hfilled.checksum] at hsum ⊢
  cases hreads with
  | checksumDigit hfirst => exact absurd hfirst hfilled.later
  | countMismatch _ hdifferent => exact absurd hfilled.count_eq hdifferent
  | checksumMismatch _ _ _ => rfl
  | deliver _ _ _ hzero _ _ => exact absurd hzero hsum
  | finish _ _ hzero _ => exact absurd hzero hsum

/-- A valid data record is due to the consumer. -/
theorem advance_deliver (h : d.Midway digits) (hb : Digit.ofByte? b = some digit)
    (hr : r.digits = digits ++ [digit]) (hsum : r.residue = 0) (hcode : r.code = 0) {consumer : κ}
    (hconsumer : d.consumer = some consumer) (hhigh : d.addressing.high < 65536) :
    (∃ event, (d.advance b).2 = .deliver event consumer (r.block d.addressing)) ∧
      (d.advance b).1.addressing = d.addressing := by
  obtain ⟨e, after, action, hfilled, haddressing, hsame, hadvance, hreads⟩ :=
    h.reads_last hb hr
  have hkind : e.kind? = some .data := by
    rw [hfilled.kind?_eq, Kind.ofCode?_eq_data_iff, hcode]
  have hblock := hfilled.block_eq (haddressing ▸ hhigh)
  rw [hadvance]
  cases hreads with
  | checksumDigit hfirst => exact absurd hfirst hfilled.later
  | countMismatch _ hdifferent => exact absurd hfilled.count_eq hdifferent
  | checksumMismatch _ _ hnonzero => exact absurd (hfilled.checksum.trans hsum) hnonzero
  | deliver due _ _ _ _ hdue =>
    obtain rfl : consumer = due := Option.some.inj (hconsumer.symm.trans (hsame.symm.trans hdue))
    rw [← haddressing, ← hblock]
    exact ⟨⟨_, rfl⟩, rfl⟩
  | finish _ _ _ hnone => cases (hnone hkind).symm.trans (hsame.trans hconsumer)

/-- Any other valid record is finished. -/
theorem advance_finish (h : d.Midway digits) (hb : Digit.ofByte? b = some digit)
    (hr : r.digits = digits ++ [digit]) (hsum : r.residue = 0)
    (hnone : r.code = 0 → d.consumer = none) :
    (∃ event, (d.advance b).2 = .finish event) ∧ (d.advance b).1.phase = .start ∧
      (d.advance b).1.addressing = r.extend d.addressing := by
  obtain ⟨e, after, action, hfilled, haddressing, hsame, hadvance, hreads⟩ :=
    h.reads_last hb hr
  rw [hadvance]
  cases hreads with
  | checksumDigit hfirst => exact absurd hfirst hfilled.later
  | countMismatch _ hdifferent => exact absurd hfilled.count_eq hdifferent
  | checksumMismatch _ _ hnonzero => exact absurd (hfilled.checksum.trans hsum) hnonzero
  | deliver due _ _ _ hdata hdue =>
    have hcode := (Kind.ofCode?_eq_data_iff r.code).1 (hfilled.kind?_eq.symm.trans hdata)
    cases (hnone hcode).symm.trans (hsame.symm.trans hdue)
  | finish _ _ _ _ =>
    rw [← haddressing, ← hfilled.extendedAddressing_eq]
    exact ⟨⟨_, rfl⟩, rfl, rfl⟩

end Midway

end Decoder

end IntelHex
