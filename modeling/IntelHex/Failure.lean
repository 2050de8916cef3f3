import IntelHex.Consumer
import IntelHex.Position
import IntelHex.Text.Quoted

/-!
# Decoding failures

Why a byte of the input was refused, and where. The decoder finds most failures itself and locates
them; a consumer that is asked to take a block may raise a decoding error of its own instead, and this
counts as one, just as it is.
-/

namespace IntelHex

/-- The reasons to refuse a byte. -/
inductive Cause
  /-- Between records, a byte that is neither a colon nor a line end. -/
  | invalidStart (byte : UInt8)
  /-- Inside a record, a byte that is no hexadecimal digit. -/
  | invalidDigit (byte : UInt8)
  /-- The first digit of the record type is not zero. -/
  | typeNotSmall
  /-- A record type that the decoder does not accept. -/
  | unsupportedType (code : Digit)
  /-- More payload bytes are declared than the buffer holds. -/
  | countOverflow (declared capacity : Nat)
  /-- The payload has not the declared length. -/
  | countMismatch (declared found : Nat)
  /-- The sum of the bytes of the record is not zero. -/
  | checksumMismatch (residue : UInt8)
  /-- The consumer did not take the data block at the given address. -/
  | rejected (address : Nat)
deriving DecidableEq, Repr

/-- The wording of a cause. -/
def Cause.message : Cause → String
  | .invalidStart b => "invalid start code: " ++ String.ofList (Text.Quoted.bytes [b])
  | .invalidDigit b => "invalid hex digit: " ++ String.ofList (Text.Quoted.bytes [b])
  | .typeNotSmall => "record type high nibble not zero"
  | .unsupportedType code => "unsupported record type: " ++ Text.Hex.marked 2 code.val
  | .countOverflow declared capacity =>
    "byte count overflow: " ++ toString declared ++ " > " ++ toString capacity
  | .countMismatch declared found =>
    "byte count mismatch: " ++ toString declared ++ " declared, " ++ toString found ++ " found"
  | .checksumMismatch residue => "checksum mismatch: residue " ++ Text.Hex.marked 2 residue.toNat
  | .rejected address => "data block rejected at " ++ Text.Hex.marked 8 address

/-- A cause with the place of the refused byte. -/
structure Failure where
  /-- Why the byte was refused. -/
  cause : Cause
  /-- The number of bytes accepted before it. -/
  offset : Nat
  /-- The line that it stands in. -/
  line : Nat
deriving DecidableEq, Repr

/-- The failure of a byte at a position. -/
def Failure.located (p : Position) (cause : Cause) : Failure where
  cause := cause
  offset := p.offset
  line := p.line

/-- The wording of a failure. -/
def Failure.message (f : Failure) : String :=
  f.cause.message

/-- What ends an input early. -/
inductive DecodingError
  /-- A failure that the decoder found. -/
  | own (failure : Failure)
  /-- A decoding error that the consumer raised. -/
  | foreign (error : ForeignError)
deriving DecidableEq, Repr

namespace DecodingError

/-- The offset that an error names. -/
def offset : DecodingError → Int
  | own failure => failure.offset
  | foreign error => error.offset

/-- The line that an error names. -/
def line : DecodingError → Int
  | own failure => failure.line
  | foreign error => error.line

/-- The wording of an error. -/
def message : DecodingError → String
  | own failure => failure.message
  | foreign error => error.message

/-- The failure that the decoder found, if it is one. -/
def failure? : DecodingError → Option Failure
  | own failure => some failure
  | foreign _ => none

end DecodingError

end IntelHex
