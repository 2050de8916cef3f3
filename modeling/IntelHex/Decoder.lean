import IntelHex.Allocation
import IntelHex.Consumer
import IntelHex.Event
import IntelHex.Record.Frame
import IntelHex.Record.Kind
import IntelHex.Record.Pairing
import IntelHex.Record.Phase

/-!
# The record decoder

A decoder reads records one byte at a time. Each byte either moves it on, or is refused, or completes
a record; a completed data record is then due to the registered consumer. A refused byte leaves the
decoder where it is, with whatever the byte has already contributed, and the next byte is read from
there.
-/

namespace IntelHex

/-- The byte that begins a record. -/
def recordMark : UInt8 := 0x3A

/-- The byte that ends the input before its end. -/
def terminator : UInt8 := 0x00

/-- The line feed byte. -/
def lineFeed : UInt8 := 0x0A

/-- The carriage return byte. -/
def carriageReturn : UInt8 := 0x0D

/-- The state of a decoder whose consumers have handles in `κ`. -/
structure Decoder (κ : Type) where
  /-- The size of the payload buffer. -/
  capacity : Nat
  /-- The accepted record type codes. -/
  supported : List Int
  /-- The registered consumer. -/
  consumer : Option κ
  /-- Where the next byte belongs. -/
  phase : Phase
  /-- The digits read in the current field; only fields of fixed width are counted. -/
  fieldDigits : Nat
  /-- The first digit of the byte being read, or of the last one. -/
  pairing : Pairing
  /-- The sum of the complete bytes of the record. -/
  checksum : UInt8
  /-- The record being read. -/
  frame : Frame
  /-- The addressing in force. -/
  addressing : Addressing
  /-- How far the input has been accepted. -/
  position : Position
  /-- Why the last input ended early. -/
  lastError : Option DecodingError
deriving DecidableEq, Repr

/-- What one byte asks for. -/
inductive Action (κ : Type)
  /-- Nothing: the byte has been accepted. -/
  | proceed
  /-- The byte is refused. -/
  | refuse (cause : Cause)
  /-- A payload digit has no place in the buffer. -/
  | overrun
  /-- A record is complete, and there is nothing to deliver. -/
  | finish (event : Event)
  /-- A data record is complete and due to a consumer. -/
  | deliver (event : Event) (consumer : κ) (block : Delivery)
deriving DecidableEq, Repr

namespace Decoder

variable {κ : Type}

/-- The size of the payload buffer if none is given. -/
def defaultCapacity : Nat := 255

/-- The record type codes accepted if none are given. -/
def defaultSupported : List Int := [0x0, 0x1, 0x2, 0x3, 0x4, 0x5, 0xE]

/-- A decoder that has read nothing. -/
def fresh (consumer : Option κ) (capacity : Nat) (supported : List Int) : Decoder κ where
  capacity := capacity
  supported := supported
  consumer := consumer
  phase := .start
  fieldDigits := 0
  pairing := {}
  checksum := 0
  frame := .blank capacity
  addressing := {}
  position := {}
  lastError := none

/-- Why there is no buffer of a size. -/
inductive CapacityError
  /-- The size is negative. -/
  | negative
  /-- There is no block of the size. -/
  | allocation (error : AllocationError)
deriving DecidableEq, Repr

/-- The wording of a refused buffer size. -/
def CapacityError.message : CapacityError → String
  | .negative => "negative capacity"
  | .allocation error => error.message

/-- A decoder that has read nothing, with the default buffer size if none is given. -/
def create (consumer : Option κ) (capacity : Option Int) (supported : List Int) (room : Nat) :
    Except CapacityError (Decoder κ) :=
  match capacity with
  | none => .ok (fresh consumer defaultCapacity supported)
  | some size =>
    if size < 0 then .error .negative
    else match Allocation.refusal? room 0 size.toNat with
      | some error => .error (.allocation error)
      | none => .ok (fresh consumer size.toNat supported)

/-- The absolute address of the record being read. -/
def address (d : Decoder κ) : Nat :=
  d.addressing.absolute d.frame.addressLow

/-- The absolute address of a low part, by default that of the record being read. -/
def addressOf (d : Decoder κ) : Option Int → Nat
  | some low => d.addressing.absolute low
  | none => d.address

/-- Starts over, for a new input. The consumer stays registered. What is left of the last record
stays in place: the next colon clears it. -/
def reset (d : Decoder κ) : Decoder κ :=
  { d with
    phase := .start
    fieldDigits := 0
    pairing := d.pairing.release
    checksum := 0
    frame := { d.frame with addressLow := 0 }
    addressing := {}
    position := {}
    lastError := none }

/-- Registers a consumer in place of the last one; without one, data records are only checked. -/
def register (d : Decoder κ) (consumer : Option κ) : Decoder κ :=
  { d with consumer := consumer }

/-- Moves on to the beginning of a phase. -/
def enter (d : Decoder κ) (phase : Phase) : Decoder κ :=
  { d with phase := phase, fieldDigits := 0 }

/-- Counts a digit of a field of fixed width. -/
def countDigit (d : Decoder κ) : Decoder κ :=
  { d with fieldDigits := d.fieldDigits + 1 }

/-- Counts a digit, or moves on if it is the last one of the field. -/
def countOrEnter (d : Decoder κ) (width : Nat) (next : Phase) : Decoder κ :=
  if width ≤ d.fieldDigits + 1 then d.enter next else d.countDigit

/-- The first digit of a byte whose second digit is due. -/
def pending (d : Decoder κ) : Option Digit :=
  d.pairing.pending

/-- Pairs a digit with the one before it and adds the byte to the checksum, or keeps the digit until
its partner comes. -/
def absorb (d : Decoder κ) (digit : Digit) : Decoder κ :=
  match d.pending with
  | some high =>
    { d with checksum := d.checksum + Digit.byte high digit, pairing := d.pairing.release }
  | none => { d with pairing := .keep digit }

/-- Forgets the checksum, as every byte between records does. -/
def clearSum (d : Decoder κ) : Decoder κ :=
  { d with checksum := 0, pairing := d.pairing.release }

/-- A byte between records. -/
def onStart (d : Decoder κ) (b : UInt8) : Decoder κ × Action κ :=
  if b = lineFeed then ({ d with position := d.position.lineFeed }, .proceed)
  else if b = carriageReturn then ({ d with position := d.position.carriageReturn }, .proceed)
  else if b = IntelHex.recordMark then
    ({ d with
        position := d.position.recordMark
        frame := .blank d.capacity
        phase := .within .byteCount
        fieldDigits := 0 }, .proceed)
  else (d, .refuse (.invalidStart b))

/-- A digit of the byte count. -/
def onByteCount (d : Decoder κ) (digit : Digit) : Decoder κ × Action κ :=
  ({ d with frame := d.frame.pushByteCount digit }.countOrEnter 2 (.within .address), .proceed)

/-- A digit of the address. -/
def onAddress (d : Decoder κ) (digit : Digit) : Decoder κ × Action κ :=
  ({ d with frame := d.frame.pushAddress digit }.countOrEnter 4 (.within .recordType), .proceed)

/-- An accepted record type: what follows depends on the byte count, and the payload has to fit into
the buffer. -/
def onAcceptedType (d : Decoder κ) : Decoder κ × Action κ :=
  if d.frame.byteCount = 0 then (d.enter (.within .checksum), .proceed)
  else if d.capacity < d.frame.byteCount then
    (d, .refuse (.countOverflow d.frame.byteCount d.capacity))
  else (d.enter (.within .data), .proceed)

/-- The second digit of the record type, or a later one after a failure: an accepted code is due. -/
def onTypeCode (d : Decoder κ) (digit : Digit) : Decoder κ × Action κ :=
  if (digit.val : Int) ∈ d.supported then
    { d with frame := { d.frame with typeCode := digit } }.onAcceptedType
  else (d, .refuse (.unsupportedType digit))

/-- A digit of the record type. The first one has to be zero. -/
def onRecordType (d : Decoder κ) (digit : Digit) : Decoder κ × Action κ :=
  if d.fieldDigits = 0 then
    (d.countDigit, if digit = 0 then .proceed else .refuse .typeNotSmall)
  else d.countDigit.onTypeCode digit

/-- A digit of the payload. -/
def onData (d : Decoder κ) (digit : Digit) : Decoder κ × Action κ :=
  match d.frame.pushPayload? digit with
  | none => (d, .overrun)
  | some frame =>
    if frame.byteCount ≤ frame.size then
      ({ d with frame := frame }.enter (.within .checksum), .proceed)
    else ({ d with frame := frame }, .proceed)

/-- The kind of the record being read, if its type code has a meaning. -/
def kind? (d : Decoder κ) : Option Kind :=
  Kind.ofCode? d.frame.typeCode.val

/-- The addressing after the record being read. -/
def extendedAddressing (d : Decoder κ) : Addressing :=
  match d.kind? with
  | some .extendedSegmentAddress => ⟨.segmented, d.frame.extension⟩
  | some .extendedLinearAddress => ⟨.linear, d.frame.extension⟩
  | _ => d.addressing

/-- The event of the record being read, under the addressing in force. -/
def recordEvent (d : Decoder κ) : Event :=
  match d.kind? with
  | none => .ignored d.frame.typeCode
  | some .data => .data d.address d.frame.data
  | some .endOfFile => .endOfFile
  | some .extendedSegmentAddress | some .extendedLinearAddress =>
    .extended d.addressing.mode (d.addressing.absolute 0)
  | some .startSegmentAddress => .start .segmented
  | some .startLinearAddress => .start .linear

/-- The data block of the record being read. -/
def block (d : Decoder κ) : Delivery where
  address := d.address
  data := d.frame.data
  size := d.frame.size

/-- A record has taken its effect on the addressing: a data record is delivered, if there is a
consumer, and any other is finished. -/
def dispatch (d : Decoder κ) : Decoder κ × Action κ :=
  match d.kind?, d.consumer with
  | some .data, some consumer => (d, .deliver d.recordEvent consumer d.block)
  | _, _ => (d.enter .start, .finish d.recordEvent)

/-- A record has passed its checks. -/
def complete (d : Decoder κ) : Decoder κ × Action κ :=
  { d with addressing := d.extendedAddressing }.dispatch

/-- The second digit of the checksum, or a later one after a failure: the record is checked. -/
def check (d : Decoder κ) : Decoder κ × Action κ :=
  if 2 * d.frame.byteCount ≠ d.frame.payloadDigits then
    (d, .refuse (.countMismatch d.frame.byteCount d.frame.size))
  else if d.checksum ≠ 0 then (d, .refuse (.checksumMismatch d.checksum))
  else d.complete

/-- A digit of the checksum. -/
def onChecksum (d : Decoder κ) : Decoder κ × Action κ :=
  if d.fieldDigits = 0 then (d.countDigit, .proceed) else d.countDigit.check

/-- A digit of a field. -/
def onDigit (d : Decoder κ) (field : Field) (digit : Digit) : Decoder κ × Action κ :=
  match field with
  | .byteCount => d.onByteCount digit
  | .address => d.onAddress digit
  | .recordType => d.onRecordType digit
  | .data => d.onData digit
  | .checksum => d.onChecksum

/-- Reads one byte. -/
def advance (d : Decoder κ) (b : UInt8) : Decoder κ × Action κ :=
  match d.phase with
  | .start => d.clearSum.onStart b
  | .within field =>
    match Digit.ofByte? b with
    | none => (d, .refuse (.invalidDigit b))
    | some digit => (d.absorb digit).onDigit field digit

/-- The failure of a refused byte. -/
def failure (d : Decoder κ) (cause : Cause) : Failure :=
  .located d.position cause

/-- The failure that ended the last input, if the decoder found it itself. -/
def lastFailure (d : Decoder κ) : Option Failure :=
  d.lastError.bind DecodingError.failure?

end Decoder

end IntelHex
