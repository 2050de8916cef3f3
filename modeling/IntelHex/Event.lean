import IntelHex.Addressing
import IntelHex.Failure

/-!
# The trace of a decoder

One event for each record that has passed its checksum, and one for each error that ends an
input early.
-/

namespace IntelHex

/-- What a decoder reports while it works. -/
inductive Event
  /-- A record with an accepted type code that has no meaning. -/
  | ignored (code : Digit)
  /-- A data record. -/
  | data (address : Nat) (payload : List UInt8)
  /-- An end of file record. -/
  | endOfFile
  /-- An extended address record; `base` is the address of low part zero from now on. -/
  | extended (mode : Mode) (base : Nat)
  /-- A start address record. -/
  | start (mode : Mode)
  /-- An input that ended early. -/
  | failed (error : DecodingError)
deriving DecidableEq, Repr

/-- The word for an addressing mode. -/
def Mode.word : Mode → String
  | .linear => "linear"
  | .segmented => "segment"

/-- The wording of an event. -/
def Event.message : Event → String
  | .ignored code => "record type " ++ Text.Hex.marked 2 code.val ++ " ignored"
  | .data address payload =>
    "data (" ++ Text.Hex.marked 8 address ++ "): "
      ++ String.ofList (Text.Hex.ofBytes .upper payload)
  | .endOfFile => "end of file"
  | .extended mode base => "extended " ++ mode.word ++ " address: " ++ Text.Hex.marked 8 base
  | .start mode => "start " ++ mode.word ++ " address"
  | .failed error =>
    "line " ++ toString error.line ++ ", offset " ++ toString error.offset ++ ": " ++ error.message

end IntelHex
