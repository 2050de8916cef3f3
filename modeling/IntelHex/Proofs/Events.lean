import IntelHex.Proofs.Advance
import IntelHex.Proofs.HexText

/-!
# What the events of records tell

The messages of data records and of failures are known by how they begin, and that of a data record
determines the record. A byte completes a record exactly if it makes the record pass its checks: then
the addressing is set, the event is that of the record under it, and what is delivered is what the event
tells.
-/

namespace IntelHex

namespace Event

/-- The error that an event tells. -/
def error? : Event → Option DecodingError
  | .failed error => some error
  | _ => none

/-- The address and the bytes of the data record that an event tells. -/
def block? : Event → Option (Nat × List UInt8)
  | .data address payload => some (address, payload)
  | _ => none

/-- Whether a message tells a data record, by how it begins. -/
def tellsData (message : String) : Bool :=
  "data (".toList.isPrefixOf message.toList

/-- Whether a message tells a failure, by how it begins. -/
def tellsFailure (message : String) : Bool :=
  "line ".toList.isPrefixOf message.toList

/-- The messages of data records begin like no other. -/
theorem tellsData_message (event : Event) : tellsData event.message = event.block?.isSome := by
  cases event <;> simp [tellsData, message, block?, List.isPrefixOf]

/-- The messages of failures begin like no other. -/
theorem tellsFailure_message (event : Event) :
    tellsFailure event.message = event.error?.isSome := by
  cases event <;> simp [tellsFailure, message, error?, List.isPrefixOf]

/-- A data record is told by its address and its bytes. -/
theorem block?_eq_some {event : Event} {block : Nat × List UInt8} (h : event.block? = some block) :
    event = .data block.1 block.2 := by
  cases event with
  | data address payload =>
    cases h
    rfl
  | _ => cases h

/-- The messages of data records with addresses of 32 bits tell the records apart. -/
theorem message_data_inj {address other : Nat} {payload data : List UInt8}
    (haddress : address < 2 ^ 32) (hother : other < 2 ^ 32)
    (h : (Event.data address payload).message = (Event.data other data).message) :
    address = other ∧ payload = data := by
  have hchars := congrArg String.toList h
  simp only [message, Text.Hex.marked, String.toList_append, String.toList_ofList,
    List.append_assoc, List.append_cancel_left_eq] at hchars
  obtain ⟨haddresses, hbehind⟩ :=
    Text.Hex.padded_append_inj .upper (by decide) haddress hother hchars
  exact ⟨haddresses, Text.Hex.ofBytes_injective .upper (List.append_cancel_left hbehind)⟩

/-- The message of a data record: its address with eight digits and its bytes, in capital digits. -/
def dataMessage (block : Nat × List UInt8) : String :=
  "data (" ++ Text.Hex.marked 8 block.1 ++ "): " ++ String.ofList (Text.Hex.ofBytes .upper block.2)

/-- The messages that begin as those of data records are those of the data records. -/
theorem filter_tellsData (trace : List Event) :
    (trace.map message).filter tellsData = (trace.filterMap block?).map dataMessage := by
  induction trace with
  | nil => rfl
  | cons event trace ih =>
    rw [List.map_cons, List.filter_cons, tellsData_message, List.filterMap_cons, ih]
    cases hblock : event.block? with
    | none => rfl
    | some block =>
      rw [block?_eq_some hblock]
      rfl

/-- Different data records with addresses of 32 bits have different messages, one by one. -/
theorem map_dataMessage_inj {blocks others : List (Nat × List UInt8)}
    (hblocks : ∀ block ∈ blocks, block.1 < 2 ^ 32) (hothers : ∀ block ∈ others, block.1 < 2 ^ 32)
    (h : blocks.map dataMessage = others.map dataMessage) : blocks = others := by
  induction blocks generalizing others with
  | nil => exact (List.map_eq_nil_iff.1 h.symm).symm
  | cons block blocks ih =>
    cases others with
    | nil => cases h
    | cons other others =>
      obtain ⟨hfirst, hrest⟩ := List.cons.inj h
      obtain ⟨hblock, hblocks⟩ := List.forall_mem_cons.1 hblocks
      obtain ⟨hother, hothers⟩ := List.forall_mem_cons.1 hothers
      obtain ⟨haddress, hbytes⟩ := message_data_inj hblock hother hfirst
      rw [Prod.ext haddress hbytes, ih hblocks hothers hrest]

end Event

namespace Decoder

variable {κ : Type} {d after : Decoder κ} {action : Action κ}

/-- A byte ends the checksum of a record whose payload has the declared length and whose bytes sum up
to zero. -/
def Passes (d : Decoder κ) (b : UInt8) : Prop :=
  d.phase = .within .checksum ∧ d.fieldDigits ≠ 0 ∧
    2 * d.frame.byteCount = d.frame.payloadDigits ∧
      ∃ digit, Digit.ofByte? b = some digit ∧ (d.absorb digit).checksum = 0

/-- A digit completes a record exactly if the record passes its checks. -/
theorem Reads.event_iff {digit : Digit} {field : Field} (h : Reads d digit field after action) :
    action.event?.isSome ↔ field = .checksum ∧ d.fieldDigits ≠ 0 ∧
      2 * d.frame.byteCount = d.frame.payloadDigits ∧ d.checksum = 0 := by
  cases h with
  | deliver consumer hlater hcount hsum hkind hconsumer =>
    exact ⟨fun _ => ⟨rfl, hlater, hcount, hsum⟩, fun _ => rfl⟩
  | finish hlater hcount hsum hkind => exact ⟨fun _ => ⟨rfl, hlater, hcount, hsum⟩, fun _ => rfl⟩
  | checksumDigit hfirst => simp [Action.event?, hfirst]
  | countMismatch hlater hcount => simp [Action.event?, hcount]
  | checksumMismatch hlater hcount hsum => simp [Action.event?, hsum]
  | _ => simp [Action.event?]

/-- A byte completes a record exactly if the record passes its checks. -/
theorem Moves.event_iff {b : UInt8} (h : Moves d b after action) :
    action.event?.isSome ↔ d.Passes b := by
  cases h with
  | lineFeed hphase | carriageReturn hphase | recordMark hphase | invalidStart hphase =>
    simp [Action.event?, Passes, hphase]
  | invalidDigit field hphase hb => simp [Action.event?, Passes, hb]
  | digit field digit after action hphase hb hreads =>
    have hdigit := hreads.event_iff
    rw [absorb_eq] at hdigit
    rw [hdigit]
    simp [Passes, hphase, hb]

/-- What the end of a record does: the addressing is set first, and the event is that of the record
under it; then a data record is delivered, if there is a consumer. -/
theorem Moves.completes {b : UInt8} {event : Event} (h : Moves d b after action)
    (hevent : action.event? = some event) :
    after.addressing = d.extendedAddressing ∧
      event = { d with addressing := d.extendedAddressing }.recordEvent ∧
      (action = .finish event ∧ (d.kind? = some .data → d.consumer = none) ∨
        ∃ consumer, action = .deliver event consumer d.block ∧ d.kind? = some .data) := by
  cases h with
  | digit field digit after action hphase hb hreads =>
    rw [absorb_eq] at hreads
    cases hreads with
    | deliver consumer hlater hcount hsum hkind hconsumer =>
      cases hevent
      have hkept : d.extendedAddressing = d.addressing := extendedAddressing_of_data hkind
      rw [hkept]
      exact ⟨rfl, rfl, .inr ⟨consumer, rfl, hkind⟩⟩
    | finish hlater hcount hsum hkind =>
      cases hevent
      exact ⟨rfl, rfl, .inl ⟨rfl, hkind⟩⟩
    | _ => cases hevent
  | _ => cases hevent

/-- A record is not told as a failure. -/
theorem error?_recordEvent (d : Decoder κ) : d.recordEvent.error? = none := by
  unfold recordEvent
  split <;> rfl

/-- A data record is told with its address and its bytes. -/
theorem recordEvent_of_data (h : d.kind? = some .data) :
    d.recordEvent = .data d.address d.frame.data := by
  rw [recordEvent, h]

/-- No other record is told as one. -/
theorem block?_recordEvent (h : d.kind? ≠ some .data) : d.recordEvent.block? = none := by
  unfold recordEvent
  split
  · rfl
  · next hdata => exact absurd hdata h
  all_goals rfl

/-- A data record is told with an address of 32 bits. -/
theorem block?_recordEvent_lt {block : Nat × List UInt8} (h : d.recordEvent.block? = some block) :
    block.1 < 2 ^ 32 := by
  by_cases hkind : d.kind? = some .data
  · rw [recordEvent_of_data hkind] at h
    cases h
    exact d.addressing.absolute_lt _
  · rw [block?_recordEvent hkind] at h
    cases h

/-- What is delivered has been told. -/
theorem Moves.eq_of_deliver {b : UInt8} {event : Event} {consumer : κ} {block : Delivery}
    (h : Moves d b after (.deliver event consumer block)) :
    event = .data d.address d.frame.data ∧ block = d.block := by
  obtain ⟨-, hevent, ⟨hfinish, -⟩ | ⟨asked, hdeliver, hkind⟩⟩ := h.completes rfl
  · cases hfinish
  · rw [recordEvent_of_data (by exact hkind), extendedAddressing_of_data hkind] at hevent
    exact ⟨hevent, (Action.deliver.inj hdeliver).2.2⟩

/-- With a consumer, no data record is finished without being delivered. -/
theorem Moves.block?_of_finish {b : UInt8} {event : Event} (h : Moves d b after (.finish event))
    (hconsumer : d.consumer.isSome) : event.block? = none := by
  obtain ⟨-, rfl, ⟨-, hnone⟩ | ⟨asked, hdeliver, -⟩⟩ := h.completes rfl
  · apply block?_recordEvent
    intro hdata
    rw [hnone hdata] at hconsumer
    cases hconsumer
  · cases hdeliver

/-- The event of an extended address record tells the addressing that the record has set. -/
theorem recordEvent_extended {mode : Mode} {base : Nat}
    (h : { d with addressing := d.extendedAddressing }.recordEvent = .extended mode base) :
    d.extendedAddressing = ⟨mode, d.frame.extension⟩ ∧
      base = d.extendedAddressing.absolute 0 := by
  have hkind : { d with addressing := d.extendedAddressing }.kind? = d.kind? := rfl
  rw [recordEvent, hkind] at h
  unfold extendedAddressing at h ⊢
  cases hrecord : d.kind? with
  | none =>
    rw [hrecord] at h
    cases h
  | some kind =>
    rw [hrecord] at h
    cases kind <;> cases h <;> exact ⟨rfl, rfl⟩

end Decoder

end IntelHex
