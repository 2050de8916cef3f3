import IntelHex.Consumer
import IntelHex.Memory

/-!
# Collecting data blocks

Three consumers: a list of the blocks, a memory into which they are written, and a script that records
what it is offered and answers as laid down beforehand.
-/

namespace IntelHex

/-- A record of the blocks that have come in, in order. -/
structure BlockList where
  /-- Addresses and bytes. -/
  blocks : List (Int × List UInt8) := []
deriving DecidableEq, Repr

/-- Every block is taken. -/
def BlockList.receive (block : Delivery) (l : BlockList) : Reply × BlockList :=
  ({ verdict := .accept }, { blocks := l.blocks ++ [(block.address, block.selected)] })

/-- A memory that takes blocks. -/
structure MemoryImage where
  /-- The content. -/
  memory : Memory := .empty
  /-- Whether a block may be written over existing content. -/
  overlap : Bool := true

/-- A block is written, unless it would touch existing content and must not. The addresses that count
are those of its declared size. -/
def MemoryImage.receive (block : Delivery) (m : MemoryImage) : Reply × MemoryImage :=
  if !m.overlap && m.memory.occupied block.address block.size.toNat then
    ({ verdict := .reject }, m)
  else
    ({ verdict := .accept }, { m with memory := m.memory.write block.address block.selected })

/-- A consumer that answers as laid down. -/
structure Script where
  /-- The answers still to come; the last one is given over and over. -/
  replies : List Reply
  /-- The blocks that have been offered. -/
  offered : List Delivery := []
deriving DecidableEq, Repr

/-- The next answer is given, and every block is taken once there is none. -/
def Script.receive (block : Delivery) (s : Script) : Reply × Script :=
  let offered := s.offered ++ [block]
  match s.replies with
  | [] => ({ verdict := .accept }, { s with offered := offered })
  | [last] => (last, { s with offered := offered })
  | next :: rest => (next, { replies := rest, offered := offered })

/-- One of the three consumers. -/
inductive Collector
  | blocks (taken : BlockList)
  | memory (image : MemoryImage)
  | script (state : Script)

namespace Collector

/-- Offers a block to a consumer. -/
def receive (block : Delivery) : Collector → Reply × Collector
  | .blocks taken => (taken.receive block).map id .blocks
  | .memory image => (image.receive block).map id .memory
  | .script state => (state.receive block).map id .script

/-- What is to be seen of a consumer: addresses and bytes, with the declared size if it is kept. -/
inductive Content
  | blocks (listed : List (Int × List UInt8))
  | calls (offered : List Delivery)
deriving DecidableEq, Repr

/-- All that is to be seen of a consumer. -/
def content : Collector → Content
  | .blocks taken => .blocks taken.blocks
  | .memory image => .blocks image.memory.toBlocks
  | .script state => .calls state.offered

/-- What is new since an earlier state of the same consumer: the added entries of a list or a script,
the whole content of a memory that has changed, and otherwise nothing. -/
def news (earlier later : Collector) : Option Content :=
  match later with
  | .memory image =>
    if earlier.content = later.content then none else some (.blocks image.memory.toBlocks)
  | .blocks taken =>
    match earlier with
    | .blocks known =>
      if taken.blocks.length = known.blocks.length then none
      else some (.blocks (taken.blocks.drop known.blocks.length))
    | _ => some later.content
  | .script state =>
    match earlier with
    | .script known =>
      if state.offered.length = known.offered.length then none
      else some (.calls (state.offered.drop known.offered.length))
    | _ => some later.content

end Collector

end IntelHex
