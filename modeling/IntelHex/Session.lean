import IntelHex.Image.Crc
import IntelHex.Session.Bench
import IntelHex.Source

/-!
# Sessions

A session answers requests on the decoders and consumers of a bench. Sources stay open, so that a
source can be read on. There is also a shared session, whose entry points for feeding, resetting and
registering are deprecated and say so each time.
-/

namespace IntelHex

/-- A bench with the sources that its decoders have read from. -/
structure Session where
  /-- The decoders and consumers. -/
  bench : Bench
  /-- The last source of each decoder. -/
  sources : List Source
  /-- Whether events are traced. -/
  traced : Bool
  /-- Whether this is the shared session. -/
  shared : Bool
  /-- The largest block that there is room for. -/
  room : Nat

/-- What can be asked of a session. -/
inductive Request
  /-- Feeds bytes to a decoder, by default all of them. -/
  | feed (decoder : Nat) (data : List UInt8) (count : Option Int)
  /-- Feeds a new source to a decoder. -/
  | stream (decoder : Nat) (source : Source) (size : Int)
  /-- Feeds on from the last source. -/
  | streamOn (decoder : Nat) (size : Int)
  /-- Resets a decoder. -/
  | reset (decoder : Nat)
  /-- Registers a consumer with a decoder, or none. -/
  | register (decoder : Nat) (consumer : Option String)
  /-- Computes an absolute address, by default that of the record being read. -/
  | address (decoder : Nat) (low : Option Int)
  /-- Offers a block to a consumer, without a decoder. -/
  | offer (consumer : String) (block : Delivery)
  /-- Takes the image of a memory. -/
  | image (consumer : String) (extent : Extent)
  /-- Takes the check value of the image of a memory. -/
  | crc (consumer : String) (extent : Extent)

/-- The decoder that a request is about. -/
def Request.decoder? : Request → Option Nat
  | .feed i _ _ | .stream i _ _ | .streamOn i _ | .reset i | .register i _ | .address i _ => some i
  | .offer _ _ | .image _ _ | .crc _ _ => none

/-- Whether a request reads from a source. -/
def Request.readsSource : Request → Bool
  | .stream _ _ _ | .streamOn _ _ => true
  | _ => false

/-- The answer to a request. -/
inductive Answer
  /-- Whether something was accepted. -/
  | accepted (yes : Bool)
  /-- It is done. -/
  | done
  /-- A number. -/
  | number (value : Nat)
  /-- The bytes of an image. -/
  | bytes (data : List UInt8)
deriving DecidableEq, Repr

/-- Why a request was not answered. -/
inductive RequestError
  | aborted (abort : Abort)
  | image (error : ImageError)
deriving DecidableEq, Repr

/-- The wording of a request that was not answered. -/
def RequestError.message : RequestError → String
  | .aborted abort => abort.message
  | .image error => error.message

/-- The advice to use something else in place of a deprecated entry point. -/
structure Notice where
  /-- What was used. -/
  used : String
  /-- What is to be used. -/
  instead : String
deriving DecidableEq, Repr

/-- The kind of warning that a notice is. -/
def Notice.category : String := "DeprecationWarning"

/-- The wording of a notice. -/
def Notice.message (n : Notice) : String :=
  "Call to deprecated function (or staticmethod) " ++ n.used ++ ". (Use " ++ n.instead
    ++ " instead)"

/-- The notice of a request to the shared session, if its entry point is deprecated. -/
def Request.notice? : Request → Option Notice
  | .feed _ _ _ => some ⟨"parse", "IhexDecoder.feed()"⟩
  | .reset _ => some ⟨"reset_state", "IhexDecoder.reset()"⟩
  | .register _ _ => some ⟨"set_callback_func", "IhexDecoder.register_consumer()"⟩
  | _ => none

/-- What comes of a request. -/
structure Report where
  /-- The answer. -/
  outcome : Except RequestError Answer
  /-- The events traced meanwhile. -/
  trace : List Event := []

namespace Session

/-- A decoder to be put on a bench. -/
structure Setup where
  /-- The consumer registered at first. -/
  consumer : Option String := none
  /-- The size of the payload buffer. -/
  capacity : Option Int := none
  /-- The accepted record type codes. -/
  supported : List Int := Decoder.defaultSupported

/-- A new session. -/
def create (consumers : List (String × Collector)) (setups : List Setup) (traced : Bool)
    (room : Nat := Allocation.usualRoom) : Except Decoder.CapacityError Session := do
  let decoders ← setups.mapM fun s => Decoder.create s.consumer s.capacity s.supported room
  return {
    bench := { consumers := consumers, decoders := decoders }
    sources := decoders.map fun _ => .ofBytes []
    traced := traced
    shared := false
    room := room }

/-- The shared session, with one decoder that has no consumer yet. -/
def createShared (consumers : List (String × Collector)) (traced : Bool)
    (room : Nat := Allocation.usualRoom) : Session where
  bench := {
    consumers := consumers
    decoders := [.fresh none Decoder.defaultCapacity Decoder.defaultSupported] }
  sources := [.ofBytes []]
  traced := traced
  shared := true
  room := room

/-- The decoder with a number; beyond the last one there is a new decoder without a consumer. -/
def decoder (s : Session) (i : Nat) : Decoder String :=
  s.bench.decoders.getD i (.fresh none Decoder.defaultCapacity Decoder.defaultSupported)

/-- The last source of a decoder. -/
def source (s : Session) (i : Nat) : Source :=
  s.sources.getD i (.ofBytes [])

/-- Puts a decoder in its place. -/
def setDecoder (s : Session) (i : Nat) (d : Decoder String) : Session :=
  { s with bench := { s.bench with decoders := s.bench.decoders.set i d } }

/-- Sets a decoder to work. -/
def start (s : Session) (i : Nat) : Run String Bench :=
  .start (s.decoder i) s.bench s.traced

/-- Puts a decoder back after its work, with what it has done to the bench. -/
def finish (s : Session) (i : Nat) (run : Run String Bench) : Session :=
  { s with bench := run.world }.setDecoder i run.decoder

/-- Whether an input was accepted, as an answer. -/
def intakeAnswer (outcome : Except Abort Intake) : Except RequestError Answer :=
  match outcome with
  | .ok intake => .ok (.accepted intake.isAccepted)
  | .error abort => .error (.aborted abort)

/-- Feeds a source to a decoder. -/
def stream (s : Session) (i : Nat) (source : Source) (size : Int) : Report × Session :=
  let (outcome, run, source) := (s.start i).feedSource Bench.host size source
  ({ outcome := intakeAnswer outcome, trace := run.trace },
    { s.finish i run with sources := s.sources.set i source })

/-- Offers a block to a named consumer. Without a decoder nobody takes up its errors. -/
def offer (s : Session) (name : String) (block : Delivery) : Report × Session :=
  let (reply, bench) := Bench.host name block s.bench
  let outcome := match reply.verdict with
    | .accept => .ok (.accepted true)
    | .reject => .ok (.accepted false)
    | .fail error => .error (.aborted (.raised error.message))
    | .raise message => .error (.aborted (.raised message))
  ({ outcome := outcome }, { s with bench := bench })

/-- Answers a request. -/
def perform (s : Session) : Request → Report × Session
  | .feed i data count =>
    let (outcome, run) := (s.start i).feedCounted Bench.host data count
    ({ outcome := intakeAnswer outcome, trace := run.trace }, s.finish i run)
  | .stream i source size => s.stream i source size
  | .streamOn i size => s.stream i (s.source i) size
  | .reset i => ({ outcome := .ok .done }, s.setDecoder i (s.decoder i).reset)
  | .register i consumer =>
    ({ outcome := .ok .done }, s.setDecoder i ((s.decoder i).register consumer))
  | .address i low => ({ outcome := .ok (.number ((s.decoder i).addressOf low)) }, s)
  | .offer name block => s.offer name block
  | .image name extent =>
    match (s.bench.memory name).image extent s.room with
    | .ok data => ({ outcome := .ok (.bytes data) }, s)
    | .error error => ({ outcome := .error (.image error) }, s)
  | .crc name extent =>
    match (s.bench.memory name).imageCrc extent s.room with
    | .ok value => ({ outcome := .ok (.number value) }, s)
    | .error error => ({ outcome := .error (.image error) }, s)

/-- The notices that come with a request. -/
def notices (s : Session) (request : Request) : List Notice :=
  if s.shared then request.notice?.toList else []

end Session

end IntelHex
