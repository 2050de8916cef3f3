import IntelHex.Decoder

/-!
# Feeding a decoder

A run is a decoder at work: the decoder, the state of the consumers that it delivers to, and the trace
of events so far. Input is fed in pieces of any size; where it is cut makes no difference.
-/

namespace IntelHex

/-- A decoder at work, with consumers that share a state in `σ`. -/
structure Run (κ σ : Type) where
  /-- The decoder. -/
  decoder : Decoder κ
  /-- The state of the consumers. -/
  world : σ
  /-- Whether events are traced. -/
  traced : Bool
  /-- The events traced so far. -/
  trace : List Event

/-- Why a byte was the last one to be read. -/
inductive Stop
  /-- It was refused, or the consumer raised a decoding error. -/
  | failed (error : DecodingError)
  /-- A consumer broke off with another error. -/
  | raised (message : String)
  /-- A payload digit had no place in the buffer. -/
  | overrun
deriving DecidableEq, Repr

/-- Whether an input was taken in. -/
inductive Intake
  /-- Every byte up to the end or a terminator was accepted. -/
  | accepted
  /-- It ended early. -/
  | refused (error : DecodingError)
deriving DecidableEq, Repr

/-- Whether every byte was accepted. -/
def Intake.isAccepted : Intake → Bool
  | .accepted => true
  | .refused _ => false

/-- Why a call did not return. -/
inductive Abort
  /-- More or fewer bytes than there are were to be fed. -/
  | countOverflow
  /-- Input was to be read in chunks of no bytes. -/
  | nonPositiveChunk
  /-- Input was to be read in chunks that there are no blocks for. -/
  | allocation (error : AllocationError)
  /-- A consumer broke off. -/
  | raised (message : String)
  /-- A payload digit had no place in the buffer. -/
  | overrun
deriving DecidableEq, Repr

/-- The wording of an abort. -/
def Abort.message : Abort → String
  | .countOverflow => "count overflow"
  | .nonPositiveChunk => "non-positive chunk size"
  | .allocation error => error.message
  | .raised message => message
  | .overrun => "payload buffer overrun"

namespace Run

variable {κ σ : Type}

/-- A run that begins with an empty trace. -/
def start (decoder : Decoder κ) (world : σ) (traced : Bool) : Run κ σ where
  decoder := decoder
  world := world
  traced := traced
  trace := []

/-- Adds an event to the trace. -/
def note (r : Run κ σ) (event : Event) : Run κ σ :=
  if r.traced then { r with trace := r.trace ++ [event] } else r

/-- Goes on after the reply to a data block. If the block was taken, the record is finished;
otherwise the decoder stays at the end of the record. -/
def settle (block : Delivery) (verdict : Verdict) (r : Run κ σ) : Option Stop × Run κ σ :=
  match verdict with
  | .accept => (none, { r with decoder := r.decoder.enter .start })
  | .reject => (some (.failed (.own (r.decoder.failure (.rejected block.address.toNat)))), r)
  | .fail error => (some (.failed (.foreign error)), r)
  | .raise message => (some (.raised message), r)

/-- Takes over what a consumer did: its own state has changed, and perhaps it reset the decoder. -/
def afterReply (reply : Reply) (world : σ) (r : Run κ σ) : Run κ σ :=
  { r with decoder := if reply.restart then r.decoder.reset else r.decoder, world := world }

/-- Delivers a data block. -/
def deliver (host : Host κ σ) (consumer : κ) (block : Delivery) (r : Run κ σ) :
    Option Stop × Run κ σ :=
  match host consumer block r.world with
  | (reply, world) => (r.afterReply reply world).settle block reply.verdict

/-- Does what a byte asks for, once the decoder has read it. -/
def act (host : Host κ σ) (action : Action κ) (r : Run κ σ) : Option Stop × Run κ σ :=
  match action with
  | .proceed => (none, r)
  | .refuse cause => (some (.failed (.own (r.decoder.failure cause))), r)
  | .overrun => (some .overrun, r)
  | .finish event => (none, r.note event)
  | .deliver event consumer block => (r.note event).deliver host consumer block

/-- Reads one byte. -/
def step (host : Host κ σ) (b : UInt8) (r : Run κ σ) : Option Stop × Run κ σ :=
  match r.decoder.advance b with
  | (decoder, action) => { r with decoder := decoder }.act host action

/-- Counts an accepted byte. -/
def countByte (r : Run κ σ) : Run κ σ :=
  { r with decoder := { r.decoder with position := r.decoder.position.advanceByte } }

/-- Reads bytes up to the end, a terminator, or the first byte that stops the run. -/
def readBytes (host : Host κ σ) : List UInt8 → Run κ σ → Option Stop × Run κ σ
  | [], r => (none, r)
  | b :: rest, r =>
    if b = terminator then (none, r)
    else match r.step host b with
      | (none, next) => readBytes host rest next.countByte
      | stopped => stopped

/-- Sets the error that the decoder remembers. -/
def setError (r : Run κ σ) (error : Option DecodingError) : Run κ σ :=
  { r with decoder := { r.decoder with lastError := error } }

/-- What feeding comes to after reading: an error that ended the input early is remembered and
traced. -/
def conclude (read : Option Stop × Run κ σ) : Except Abort Intake × Run κ σ :=
  match read with
  | (none, r) => (.ok .accepted, r)
  | (some (.failed error), r) => (.ok (.refused error), (r.setError (some error)).note (.failed error))
  | (some (.raised message), r) => (.error (.raised message), r)
  | (some .overrun, r) => (.error .overrun, r)

/-- Feeds bytes to the decoder, once the last error has been forgotten. -/
def feed (host : Host κ σ) (data : List UInt8) (r : Run κ σ) : Except Abort Intake × Run κ σ :=
  conclude (readBytes host data (r.setError none))

/-- Reads as many bytes as are left to read, from an index on, up to a terminator or the first byte that
stops the run. -/
def readRange (host : Host κ σ) (data : Array UInt8) :
    (left index : Nat) → index + left ≤ data.size → Run κ σ → Option Stop × Run κ σ
  | 0, _, _, r => (none, r)
  | left + 1, index, hinside, r =>
    let b := data[index]
    if b = terminator then (none, r)
    else match r.step host b with
      | (none, next) => readRange host data left (index + 1) (by omega) next.countByte
      | stopped => stopped

/-- Feeds the given number of leading bytes, by default all of them, index by index. -/
def feedCounted (host : Host κ σ) (data : List UInt8) (count : Option Int) (r : Run κ σ) :
    Except Abort Intake × Run κ σ :=
  let bytes := data.toArray
  let count := count.getD bytes.size
  if hcount : 0 ≤ count ∧ count ≤ bytes.size then
    conclude (readRange host bytes count.toNat 0 (by omega) (r.setError none))
  else (.error .countOverflow, r)

end Run

end IntelHex
