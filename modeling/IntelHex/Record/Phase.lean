/-!
# The fields of a record

A record is a colon and five fields of hexadecimal digits. Between records only line ends may stand.
-/

namespace IntelHex

/-- The fields of a record, in the order in which they are written. -/
inductive Field
  /-- The number of payload bytes. -/
  | byteCount
  /-- The low half of the address. -/
  | address
  /-- The record type code. -/
  | recordType
  /-- The payload. -/
  | data
  /-- The byte that makes the sum of all bytes vanish. -/
  | checksum
deriving DecidableEq, Repr

/-- The number of digits of a field, unless it depends on the byte count. -/
def Field.width? : Field → Option Nat
  | .byteCount => some 2
  | .address => some 4
  | .recordType => some 2
  | .data => none
  | .checksum => some 2

/-- Where in the text of records the next byte belongs. -/
inductive Phase
  /-- Between records: a colon or a line end is due. -/
  | start
  /-- Inside a field: a digit is due. -/
  | within (field : Field)
deriving DecidableEq, Repr

namespace Phase

/-- All phases, in the order in which a record passes them. -/
def all : List Phase :=
  [start, within .byteCount, within .address, within .recordType, within .data, within .checksum]

/-- The number under which a phase is reported. -/
def code : Phase → Nat
  | start => 0
  | within .byteCount => 1
  | within .address => 2
  | within .recordType => 3
  | within .data => 4
  | within .checksum => 5

/-- The name under which a phase is reported. -/
def name : Phase → String
  | start => "START"
  | within .byteCount => "BYTE_COUNT"
  | within .address => "ADDRESS"
  | within .recordType => "RECORD_TYPE"
  | within .data => "DATA"
  | within .checksum => "CHECKSUM"

/-- The phase with a given name. -/
def ofName? (name : String) : Option Phase :=
  all.find? fun phase => phase.name = name

/-- The number of digits due in a phase, where it is fixed. -/
def width? : Phase → Option Nat
  | start => none
  | within field => field.width?

/-- A number that is no phase's is reported by its value. -/
structure UnknownCode where
  code : Int
deriving DecidableEq, Repr

/-- The wording of an unknown phase number. -/
def UnknownCode.message (e : UnknownCode) : String :=
  toString e.code ++ " is not a valid DecoderState"

/-- The phase with a given number, or the reason why there is none. -/
def ofCode (code : Int) : Except UnknownCode Phase :=
  match all.find? fun phase => (phase.code : Int) = code with
  | some phase => .ok phase
  | none => .error ⟨code⟩

end Phase

end IntelHex
