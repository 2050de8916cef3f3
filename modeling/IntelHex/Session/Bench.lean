import IntelHex.Collector
import IntelHex.Decoder

/-!
# Decoders on a bench

Several decoders and the named consumers that they share. A consumer that resets the decoder that asks
resets all the others as well.
-/

namespace IntelHex

/-- Decoders side by side, with their named consumers. -/
structure Bench where
  /-- The consumers by name. -/
  consumers : List (String × Collector)
  /-- The decoders in order. -/
  decoders : List (Decoder String)

namespace Bench

/-- Puts a consumer in place of the one with the same name. -/
def setConsumer (bench : Bench) (name : String) (consumer : Collector) : Bench :=
  { bench with
    consumers := bench.consumers.map fun entry =>
      if entry.1 = name then (name, consumer) else entry }

/-- Resets every decoder. -/
def resetAll (bench : Bench) : Bench :=
  { bench with decoders := bench.decoders.map Decoder.reset }

/-- How the named consumers behave. A name without a consumer takes every block. -/
def host : Host String Bench := fun name block bench =>
  match bench.consumers.lookup name with
  | none => ({ verdict := .accept }, bench)
  | some consumer =>
    let (reply, consumer) := consumer.receive block
    let bench := bench.setConsumer name consumer
    (reply, if reply.restart then bench.resetAll else bench)

/-- The content of a named memory; it is empty for a name that is no memory's. -/
def memory (bench : Bench) (name : String) : Memory :=
  match bench.consumers.lookup name with
  | some (.memory image) => image.memory
  | _ => .empty

/-- What is new about the consumers since an earlier state of the bench. -/
def news (earlier later : Bench) : List (String × Collector.Content) :=
  later.consumers.filterMap fun (name, consumer) =>
    match earlier.consumers.lookup name with
    | some known => (known.news consumer).map fun content => (name, content)
    | none => some (name, consumer.content)

end Bench

end IntelHex
