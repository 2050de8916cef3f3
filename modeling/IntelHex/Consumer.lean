/-!
# Consumers of data blocks

A consumer is asked to take one data block at a time and answers with a verdict. It may also reset
the decoder that asks. Consumers are known to a decoder by a handle; a host says what stands behind
each handle and keeps the state of all of them.
-/

namespace IntelHex

/-- One data block on its way to a consumer. -/
structure Delivery where
  /-- The absolute address of the block. -/
  address : Int
  /-- The bytes offered. -/
  data : List UInt8
  /-- The declared number of bytes. -/
  size : Int
deriving DecidableEq, Repr

/-- The bytes of a delivery that its size selects. A negative size drops as many bytes from the end;
one that is too large selects them all. -/
def Delivery.selected (d : Delivery) : List UInt8 :=
  d.data.take (if d.size < 0 then d.data.length + d.size else d.size).toNat

/-- A decoding error that a consumer raises itself. What it says, and the place that it names, are up
to the consumer. -/
structure ForeignError where
  /-- The kind of decoding error. -/
  kind : String
  /-- The wording. -/
  message : String
  /-- The offset that it names. -/
  offset : Int
  /-- The line that it names. -/
  line : Int
deriving DecidableEq, Repr

/-- How a consumer answers. -/
inductive Verdict
  /-- The block has been taken. -/
  | accept
  /-- The block has not been taken. -/
  | reject
  /-- The consumer broke off with a decoding error. -/
  | fail (error : ForeignError)
  /-- The consumer broke off with any other error. -/
  | raise (message : String)
deriving DecidableEq, Repr

/-- The answer to a delivery. -/
structure Reply where
  /-- Whether the consumer reset the decoder that asked. -/
  restart : Bool := false
  /-- The verdict on the block. -/
  verdict : Verdict
deriving DecidableEq, Repr

/-- The behaviour of the consumers with handles in `κ` on a state in `σ`. -/
abbrev Host (κ σ : Type) := κ → Delivery → σ → Reply × σ

end IntelHex
