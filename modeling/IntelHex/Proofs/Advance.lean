import IntelHex.Decoder

/-!
# Everything that one byte can do

The transition function of the decoder is inverted once. `Reads` lists what a digit can do in each
field and `Moves` what a byte can do in each phase, every case with its condition, the decoder after
it and the action that it asks for. Invariants and frame conditions are proved by cases on these two
relations, without opening the handlers of the decoder again. The cases are exact, so what another
decoder does is shown by naming the case that holds of it.
-/

namespace IntelHex

/-- The event that is traced for an action. -/
def Action.event? {κ : Type} : Action κ → Option Event
  | .finish event => some event
  | .deliver event _ _ => some event
  | _ => none

namespace Decoder

variable {κ : Type}

/-- The cases of a digit, read into a field after it has been added to the checksum. -/
inductive Reads (d : Decoder κ) (digit : Digit) : Field → Decoder κ → Action κ → Prop
  /-- The byte count has more digits to come. -/
  | countDigit (hmore : d.fieldDigits + 1 < 2) :
    Reads d digit .byteCount
      { d with frame := d.frame.pushByteCount digit, fieldDigits := d.fieldDigits + 1 } .proceed
  /-- The byte count is complete. -/
  | countEnd (hlast : 2 ≤ d.fieldDigits + 1) :
    Reads d digit .byteCount
      { d with
        frame := d.frame.pushByteCount digit, phase := .within .address, fieldDigits := 0 } .proceed
  /-- The address has more digits to come. -/
  | addressDigit (hmore : d.fieldDigits + 1 < 4) :
    Reads d digit .address
      { d with frame := d.frame.pushAddress digit, fieldDigits := d.fieldDigits + 1 } .proceed
  /-- The address is complete. -/
  | addressEnd (hlast : 4 ≤ d.fieldDigits + 1) :
    Reads d digit .address
      { d with
        frame := d.frame.pushAddress digit, phase := .within .recordType, fieldDigits := 0 } .proceed
  /-- The first digit of the type is zero. -/
  | typeDigit (hfirst : d.fieldDigits = 0) (hzero : digit = 0) :
    Reads d digit .recordType { d with fieldDigits := d.fieldDigits + 1 } .proceed
  /-- The first digit of the type is not zero. -/
  | typeNotSmall (hfirst : d.fieldDigits = 0) (hzero : digit ≠ 0) :
    Reads d digit .recordType { d with fieldDigits := d.fieldDigits + 1 } (.refuse .typeNotSmall)
  /-- The type is not accepted. -/
  | unsupportedType (hlater : d.fieldDigits ≠ 0) (htype : (digit.val : Int) ∉ d.supported) :
    Reads d digit .recordType { d with fieldDigits := d.fieldDigits + 1 }
      (.refuse (.unsupportedType digit))
  /-- The type is accepted, and there is no payload. -/
  | typeBeforeChecksum (hlater : d.fieldDigits ≠ 0) (htype : (digit.val : Int) ∈ d.supported)
      (hempty : d.frame.byteCount = 0) :
    Reads d digit .recordType
      { d with
        frame := { d.frame with typeCode := digit }, phase := .within .checksum, fieldDigits := 0 }
      .proceed
  /-- The type is accepted, and the payload does not fit. -/
  | countOverflow (hlater : d.fieldDigits ≠ 0) (htype : (digit.val : Int) ∈ d.supported)
      (hlarge : d.capacity < d.frame.byteCount) (hsome : d.frame.byteCount ≠ 0) :
    Reads d digit .recordType
      { d with frame := { d.frame with typeCode := digit }, fieldDigits := d.fieldDigits + 1 }
      (.refuse (.countOverflow d.frame.byteCount d.capacity))
  /-- The type is accepted, and the payload fits. -/
  | typeBeforeData (hlater : d.fieldDigits ≠ 0) (htype : (digit.val : Int) ∈ d.supported)
      (hfits : d.frame.byteCount ≤ d.capacity) (hsome : d.frame.byteCount ≠ 0) :
    Reads d digit .recordType
      { d with
        frame := { d.frame with typeCode := digit }, phase := .within .data, fieldDigits := 0 }
      .proceed
  /-- The payload buffer ends before the digit. -/
  | overrun (hfull : d.frame.payload.size ≤ d.frame.size) : Reads d digit .data d .overrun
  /-- The payload has more digits to come. -/
  | dataDigit (frame : Frame) (hpush : d.frame.pushPayload? digit = some frame)
      (hmore : frame.size < frame.byteCount) :
    Reads d digit .data { d with frame := frame } .proceed
  /-- The payload is complete. -/
  | dataEnd (frame : Frame) (hpush : d.frame.pushPayload? digit = some frame)
      (hlast : frame.byteCount ≤ frame.size) :
    Reads d digit .data
      { d with frame := frame, phase := .within .checksum, fieldDigits := 0 } .proceed
  /-- The checksum has one more digit to come. -/
  | checksumDigit (hfirst : d.fieldDigits = 0) :
    Reads d digit .checksum { d with fieldDigits := d.fieldDigits + 1 } .proceed
  /-- The payload has not the declared length. -/
  | countMismatch (hlater : d.fieldDigits ≠ 0)
      (hcount : 2 * d.frame.byteCount ≠ d.frame.payloadDigits) :
    Reads d digit .checksum { d with fieldDigits := d.fieldDigits + 1 }
      (.refuse (.countMismatch d.frame.byteCount d.frame.size))
  /-- The bytes of the record do not sum up to zero. -/
  | checksumMismatch (hlater : d.fieldDigits ≠ 0)
      (hcount : 2 * d.frame.byteCount = d.frame.payloadDigits) (hsum : d.checksum ≠ 0) :
    Reads d digit .checksum { d with fieldDigits := d.fieldDigits + 1 }
      (.refuse (.checksumMismatch d.checksum))
  /-- The record is valid: a data record that is due to a consumer. -/
  | deliver (consumer : κ) (hlater : d.fieldDigits ≠ 0)
      (hcount : 2 * d.frame.byteCount = d.frame.payloadDigits) (hsum : d.checksum = 0)
      (hkind : d.kind? = some .data) (hconsumer : d.consumer = some consumer) :
    Reads d digit .checksum { d with fieldDigits := d.fieldDigits + 1 }
      (.deliver d.recordEvent consumer d.block)
  /-- The record is valid, and there is nothing to deliver. -/
  | finish (hlater : d.fieldDigits ≠ 0)
      (hcount : 2 * d.frame.byteCount = d.frame.payloadDigits) (hsum : d.checksum = 0)
      (hkind : d.kind? = some .data → d.consumer = none) :
    Reads d digit .checksum
      { d with addressing := d.extendedAddressing, phase := .start, fieldDigits := 0 }
      (.finish { d with addressing := d.extendedAddressing }.recordEvent)

/-- The cases of a byte. -/
inductive Moves (d : Decoder κ) (b : UInt8) : Decoder κ → Action κ → Prop
  /-- A line feed between records. -/
  | lineFeed (hphase : d.phase = .start) (hb : b = lineFeed) :
    Moves d b
      { d with checksum := 0, pairing := d.pairing.release, position := d.position.lineFeed }
      .proceed
  /-- A carriage return between records. -/
  | carriageReturn (hphase : d.phase = .start) (hb : b = carriageReturn) :
    Moves d b
      { d with checksum := 0, pairing := d.pairing.release, position := d.position.carriageReturn }
      .proceed
  /-- The beginning of a record. -/
  | recordMark (hphase : d.phase = .start) (hb : b = recordMark) :
    Moves d b
      { d with
        checksum := 0, pairing := d.pairing.release, position := d.position.recordMark
        frame := .blank d.capacity, phase := .within .byteCount, fieldDigits := 0 } .proceed
  /-- Any other byte between records. -/
  | invalidStart (hphase : d.phase = .start) (hlf : b ≠ IntelHex.lineFeed)
      (hcr : b ≠ IntelHex.carriageReturn) (hmark : b ≠ IntelHex.recordMark) :
    Moves d b { d with checksum := 0, pairing := d.pairing.release } (.refuse (.invalidStart b))
  /-- A byte in a record that is no digit. -/
  | invalidDigit (field : Field) (hphase : d.phase = .within field)
      (hb : Digit.ofByte? b = none) :
    Moves d b d (.refuse (.invalidDigit b))
  /-- A digit in a record. -/
  | digit (field : Field) (digit : Digit) (after : Decoder κ) (action : Action κ)
      (hphase : d.phase = .within field) (hb : Digit.ofByte? b = some digit)
      (hreads : Reads (d.absorb digit) digit field after action) :
    Moves d b after action

/-- A digit is added to the checksum or kept, and nothing else is touched. -/
theorem absorb_eq (d : Decoder κ) (digit : Digit) :
    d.absorb digit =
      { d with checksum := (d.absorb digit).checksum, pairing := (d.absorb digit).pairing } := by
  unfold absorb
  split <;> rfl

/-- A digit that is added to the checksum leaves the phase alone. -/
@[simp] theorem phase_absorb (d : Decoder κ) (digit : Digit) : (d.absorb digit).phase = d.phase := by
  rw [absorb_eq]

/-- A data record leaves the addressing as it is. -/
theorem extendedAddressing_of_data {d : Decoder κ} (h : d.kind? = some .data) :
    d.extendedAddressing = d.addressing := by
  rw [extendedAddressing, h]

/-- A complete data record is delivered if there is a consumer. -/
theorem complete_of_consumer {d : Decoder κ} {consumer : κ} (hkind : d.kind? = some .data)
    (hconsumer : d.consumer = some consumer) :
    d.complete = (d, .deliver d.recordEvent consumer d.block) := by
  rw [complete, extendedAddressing_of_data hkind]
  unfold dispatch
  split
  · next hdue =>
    cases hconsumer.symm.trans hdue
    rfl
  · next hnot => exact absurd hconsumer (hnot consumer hkind)

/-- Any other complete record is finished. -/
theorem complete_of_none {d : Decoder κ} (h : d.kind? = some .data → d.consumer = none) :
    d.complete =
      ({ d with addressing := d.extendedAddressing }.enter .start,
        .finish { d with addressing := d.extendedAddressing }.recordEvent) := by
  unfold complete dispatch
  split
  · next hkind hconsumer =>
    have hnone : d.consumer = none := h hkind
    cases hnone.symm.trans hconsumer
  · rfl

/-- The second digit of the type is read as one of the cases. -/
theorem reads_onTypeCode (d : Decoder κ) (digit : Digit) (hlater : d.fieldDigits ≠ 0) :
    Reads d digit .recordType (d.countDigit.onTypeCode digit).1 (d.countDigit.onTypeCode digit).2 := by
  by_cases htype : (digit.val : Int) ∈ d.supported
  · rw [onTypeCode, if_pos (show (digit.val : Int) ∈ d.countDigit.supported from htype),
      onAcceptedType]
    by_cases hempty : d.frame.byteCount = 0
    · rw [if_pos (by exact hempty)]
      exact .typeBeforeChecksum hlater htype hempty
    · rw [if_neg (by exact hempty)]
      by_cases hlarge : d.capacity < d.frame.byteCount
      · rw [if_pos (by exact hlarge)]
        exact .countOverflow hlater htype hlarge hempty
      · rw [if_neg (by exact hlarge)]
        exact .typeBeforeData hlater htype (Nat.le_of_not_lt hlarge) hempty
  · rw [onTypeCode, if_neg (show (digit.val : Int) ∉ d.countDigit.supported from htype)]
    exact .unsupportedType hlater htype

/-- A payload digit is read as one of the cases. -/
theorem reads_onData (d : Decoder κ) (digit : Digit) :
    Reads d digit .data (d.onData digit).1 (d.onData digit).2 := by
  unfold onData
  cases hpush : d.frame.pushPayload? digit with
  | none =>
    refine .overrun (Nat.le_of_not_lt fun hfits => ?_)
    have hsome := (d.frame.isSome_pushPayload? digit).2 hfits
    rw [hpush] at hsome
    cases hsome
  | some frame =>
    by_cases hlast : frame.byteCount ≤ frame.size
    · simp only [if_pos hlast]
      exact .dataEnd frame hpush hlast
    · simp only [if_neg hlast]
      exact .dataDigit frame hpush (Nat.lt_of_not_le hlast)

/-- The second digit of the checksum is read as one of the cases. -/
theorem reads_check (d : Decoder κ) (digit : Digit) (hlater : d.fieldDigits ≠ 0) :
    Reads d digit .checksum d.countDigit.check.1 d.countDigit.check.2 := by
  unfold check
  by_cases hcount : 2 * d.frame.byteCount = d.frame.payloadDigits
  · rw [if_neg (by exact not_not_intro hcount)]
    by_cases hsum : d.checksum = 0
    · rw [if_neg (by exact not_not_intro hsum)]
      by_cases hnone : d.kind? = some .data → d.consumer = none
      · rw [complete_of_none (d := d.countDigit) hnone]
        exact .finish hlater hcount hsum hnone
      · obtain ⟨hdata, hsome⟩ := Classical.not_imp.1 hnone
        obtain ⟨consumer, hconsumer⟩ := Option.ne_none_iff_exists'.1 hsome
        rw [complete_of_consumer (d := d.countDigit) hdata hconsumer]
        exact .deliver consumer hlater hcount hsum hdata hconsumer
    · rw [if_pos (by exact hsum)]
      exact .checksumMismatch hlater hcount hsum
  · rw [if_pos (by exact hcount)]
    exact .countMismatch hlater hcount

/-- A digit of a field is read as one of the cases. -/
theorem reads_onDigit (d : Decoder κ) (field : Field) (digit : Digit) :
    Reads d digit field (d.onDigit field digit).1 (d.onDigit field digit).2 := by
  cases field with
  | byteCount =>
    unfold onDigit onByteCount countOrEnter
    by_cases hlast : 2 ≤ d.fieldDigits + 1
    · simp only [if_pos hlast]
      exact .countEnd hlast
    · simp only [if_neg hlast]
      exact .countDigit (Nat.lt_of_not_le hlast)
  | address =>
    unfold onDigit onAddress countOrEnter
    by_cases hlast : 4 ≤ d.fieldDigits + 1
    · simp only [if_pos hlast]
      exact .addressEnd hlast
    · simp only [if_neg hlast]
      exact .addressDigit (Nat.lt_of_not_le hlast)
  | recordType =>
    unfold onDigit onRecordType
    by_cases hfirst : d.fieldDigits = 0
    · simp only [if_pos hfirst]
      by_cases hzero : digit = 0
      · rw [if_pos hzero]
        exact .typeDigit hfirst hzero
      · rw [if_neg hzero]
        exact .typeNotSmall hfirst hzero
    · simp only [if_neg hfirst]
      exact reads_onTypeCode d digit hfirst
  | data => exact reads_onData d digit
  | checksum =>
    unfold onDigit onChecksum
    by_cases hfirst : d.fieldDigits = 0
    · simp only [if_pos hfirst]
      exact .checksumDigit hfirst
    · simp only [if_neg hfirst]
      exact reads_check d digit hfirst

/-- A digit inside a record is read into its field. -/
theorem reads_advance {d : Decoder κ} {b : UInt8} {field : Field} {digit : Digit}
    (hphase : d.phase = .within field) (hb : Digit.ofByte? b = some digit) :
    Reads (d.absorb digit) digit field (d.advance b).1 (d.advance b).2 := by
  unfold advance
  rw [hphase]
  simp only [hb]
  exact reads_onDigit _ _ _

/-- A line end between records leads nowhere else. -/
theorem advance_lineEnd {d : Decoder κ} {b : UInt8} (hphase : d.phase = .start)
    (hb : b = IntelHex.lineFeed ∨ b = IntelHex.carriageReturn) :
    (d.advance b).2 = .proceed ∧ (d.advance b).1.phase = .start := by
  unfold advance
  rw [hphase]
  rcases hb with rfl | rfl <;> exact ⟨rfl, hphase⟩

/-- Any byte between records but a colon and a line end is refused. -/
theorem advance_invalidStart {d : Decoder κ} {b : UInt8} (hphase : d.phase = .start)
    (hlf : b ≠ IntelHex.lineFeed) (hcr : b ≠ IntelHex.carriageReturn)
    (hmark : b ≠ IntelHex.recordMark) : (d.advance b).2 = .refuse (.invalidStart b) := by
  simp only [advance, hphase, onStart, if_neg hlf, if_neg hcr, if_neg hmark]

/-- A byte moves the decoder as one of the cases. -/
theorem moves_advance (d : Decoder κ) (b : UInt8) : Moves d b (d.advance b).1 (d.advance b).2 := by
  cases hphase : d.phase with
  | start =>
    simp only [advance, hphase, onStart]
    by_cases hlf : b = IntelHex.lineFeed
    · rw [if_pos hlf]
      exact .lineFeed hphase hlf
    · rw [if_neg hlf]
      by_cases hcr : b = IntelHex.carriageReturn
      · rw [if_pos hcr]
        exact .carriageReturn hphase hcr
      · rw [if_neg hcr]
        by_cases hmark : b = IntelHex.recordMark
        · rw [if_pos hmark]
          exact .recordMark hphase hmark
        · rw [if_neg hmark]
          exact .invalidStart hphase hlf hcr hmark
  | within field =>
    cases hb : Digit.ofByte? b with
    | none =>
      simp only [advance, hphase, hb]
      exact .invalidDigit field hphase hb
    | some digit => exact .digit field digit _ _ hphase hb (reads_advance hphase hb)

variable {d after : Decoder κ} {action : Action κ}

/-- The cases of a digit are exact: it is read as the case that holds. -/
theorem Reads.eq {digit : Digit} {field : Field} (h : Reads d digit field after action) :
    d.onDigit field digit = (after, action) := by
  cases h with
  | countDigit hmore | addressDigit hmore =>
    exact congrArg (·, Action.proceed) (if_neg (Nat.not_le_of_lt hmore))
  | countEnd hlast | addressEnd hlast => exact congrArg (·, Action.proceed) (if_pos hlast)
  | typeDigit hfirst hzero =>
    exact (if_pos hfirst).trans (congrArg (_, ·) (if_pos hzero))
  | typeNotSmall hfirst hzero =>
    exact (if_pos hfirst).trans (congrArg (_, ·) (if_neg hzero))
  | unsupportedType hlater htype => exact (if_neg hlater).trans (if_neg htype)
  | typeBeforeChecksum hlater htype hempty =>
    exact (if_neg hlater).trans ((if_pos htype).trans (if_pos hempty))
  | countOverflow hlater htype hlarge hsome =>
    exact (if_neg hlater).trans ((if_pos htype).trans ((if_neg hsome).trans (if_pos hlarge)))
  | typeBeforeData hlater htype hfits hsome =>
    exact (if_neg hlater).trans
      ((if_pos htype).trans ((if_neg hsome).trans (if_neg (Nat.not_lt_of_le hfits))))
  | overrun hfull =>
    have hnone : d.frame.pushPayload? digit = none := by
      rw [← Option.not_isSome_iff_eq_none, Frame.isSome_pushPayload?]
      exact Nat.not_lt_of_le hfull
    simp only [onDigit, onData, hnone]
  | dataDigit frame hpush hmore =>
    simp only [onDigit, onData, hpush, if_neg (Nat.not_le_of_lt hmore)]
  | dataEnd frame hpush hlast =>
    simp only [onDigit, onData, hpush, if_pos hlast]
    rfl
  | checksumDigit hfirst => exact if_pos hfirst
  | countMismatch hlater hcount => exact (if_neg hlater).trans (if_pos hcount)
  | checksumMismatch hlater hcount hsum =>
    exact (if_neg hlater).trans ((if_neg (not_not_intro hcount)).trans (if_pos hsum))
  | deliver consumer hlater hcount hsum hkind hconsumer =>
    exact (if_neg hlater).trans ((if_neg (not_not_intro hcount)).trans
      ((if_neg (not_not_intro hsum)).trans
        (complete_of_consumer (d := d.countDigit) hkind hconsumer)))
  | finish hlater hcount hsum hkind =>
    exact (if_neg hlater).trans ((if_neg (not_not_intro hcount)).trans
      ((if_neg (not_not_intro hsum)).trans (complete_of_none (d := d.countDigit) hkind)))

/-- A byte between records forgets the checksum first. -/
theorem advance_of_start (hphase : d.phase = .start) (b : UInt8) :
    d.advance b = d.clearSum.onStart b := by
  unfold advance
  rw [hphase]

/-- The cases of a byte are exact: it moves the decoder as the case that holds. -/
theorem Moves.eq {b : UInt8} (h : Moves d b after action) : d.advance b = (after, action) := by
  cases h with
  | lineFeed hphase hb => exact (advance_of_start hphase b).trans (if_pos hb)
  | carriageReturn hphase hb =>
    have hlf : b ≠ IntelHex.lineFeed := hb ▸ by decide
    exact (advance_of_start hphase b).trans ((if_neg hlf).trans (if_pos hb))
  | recordMark hphase hb =>
    have hlf : b ≠ IntelHex.lineFeed := hb ▸ by decide
    have hcr : b ≠ IntelHex.carriageReturn := hb ▸ by decide
    exact (advance_of_start hphase b).trans ((if_neg hlf).trans ((if_neg hcr).trans (if_pos hb)))
  | invalidStart hphase hlf hcr hmark =>
    exact (advance_of_start hphase b).trans
      ((if_neg hlf).trans ((if_neg hcr).trans (if_neg hmark)))
  | invalidDigit field hphase hb => simp only [advance, hphase, hb]
  | digit field digit after action hphase hb hreads =>
    simp only [advance, hphase, hb, hreads.eq]

/-- A digit leaves alone what no record can change. -/
theorem Reads.frame {digit : Digit} {field : Field} (h : Reads d digit field after action) :
    after.capacity = d.capacity ∧ after.supported = d.supported ∧ after.consumer = d.consumer ∧
      after.position = d.position ∧ after.lastError = d.lastError := by
  cases h <;> exact ⟨rfl, rfl, rfl, rfl, rfl⟩

/-- A byte leaves alone how the decoder was set up and which failure it remembers. -/
theorem Moves.frame {b : UInt8} (h : Moves d b after action) :
    after.capacity = d.capacity ∧ after.supported = d.supported ∧ after.consumer = d.consumer ∧
      after.lastError = d.lastError := by
  cases h with
  | digit field digit after action hphase hb hreads =>
    obtain ⟨hcapacity, hsupported, hconsumer, -, hfailure⟩ := hreads.frame
    rw [absorb_eq] at hcapacity hsupported hconsumer hfailure
    exact ⟨hcapacity, hsupported, hconsumer, hfailure⟩
  | _ => exact ⟨rfl, rfl, rfl, rfl⟩

/-- A byte is not counted before its action is done. -/
theorem Moves.offset {b : UInt8} (h : Moves d b after action) :
    after.position.offset = d.position.offset := by
  cases h with
  | digit field digit after action hphase hb hreads =>
    obtain ⟨-, -, -, hposition, -⟩ := hreads.frame
    rw [absorb_eq] at hposition
    rw [hposition]
  | _ => rfl

/-- Only the end of a record changes the addressing. -/
theorem Moves.addressing {b : UInt8} (h : Moves d b after action)
    (hopen : ∀ event, action ≠ .finish event) : after.addressing = d.addressing := by
  cases h with
  | digit field digit after action hphase hb hreads =>
    rw [absorb_eq] at hreads
    cases hreads with
    | finish => exact absurd rfl (hopen _)
    | _ => rfl
  | _ => rfl

end Decoder

end IntelHex
