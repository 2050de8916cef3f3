import IntelHex.Collector
import IntelHex.Proofs.Overlay

/-!
# A memory that is written once

A memory that must not be overlapped takes a data block if none of its declared addresses has content,
and otherwise stays as it is. So every address is written at most once: whatever blocks are offered, the
memory is the disjoint union of what it held at first and of the blocks that it took.

The addresses that are checked are those of the declared size, and the ones that are written those of
the bytes that there are up to this size; the latter are among the former.
-/

namespace IntelHex

namespace Overlay

/-- The byte of a block at an address. -/
def byteOf? (block : Int × List UInt8) (a : Int) : Option UInt8 :=
  if Covers block a then block.2[(a - block.1).toNat]? else none

/-- Two blocks have no address in common. -/
def Apart (first second : Int × List UInt8) : Prop :=
  ∀ a, ¬(Covers first a ∧ Covers second a)

variable {block : Int × List UInt8} {a : Int}

/-- A block has a byte at the addresses that it covers. -/
theorem exists_byteOf? (h : Covers block a) : ∃ b, byteOf? block a = some b := by
  have hindex : (a - block.1).toNat < block.2.length := by
    unfold Covers at h
    omega
  exact ⟨_, (if_pos h).trans (List.getElem?_eq_getElem hindex)⟩

/-- A block has bytes at no other addresses. -/
theorem covers_of_byteOf? {b : UInt8} (h : byteOf? block a = some b) : Covers block a := by
  by_contra hcovers
  rw [byteOf?, if_neg hcovers] at h
  cases h

end Overlay

open Overlay

namespace Memory

/-- There is no content at some addresses. -/
def Vacant (m : Memory) (addresses : Int → Prop) : Prop :=
  ∀ a, addresses a → m.peek a = none

/-- The blocks have no address in common, nor with the content of the memory. -/
structure Fits (m : Memory) (blocks : List (Int × List UInt8)) : Prop where
  vacant : ∀ block ∈ blocks, m.Vacant (Covers block)
  apart : blocks.Pairwise Apart

/-- A memory is the disjoint union of an earlier one and of some blocks that fit it: its content is
that of both. -/
structure IsUnion (m : Memory) (blocks : List (Int × List UInt8)) (last : Memory) : Prop
    extends m.Fits blocks where
  content : ∀ a b, last.peek a = some b ↔
    m.peek a = some b ∨ ∃ block ∈ blocks, byteOf? block a = some b

variable {m last : Memory} {blocks : List (Int × List UInt8)} {block : Int × List UInt8} {a : Int}

/-- A written block shows where it has bytes, and nothing else changes. -/
theorem peek_write_eq_or (m : Memory) (block : Int × List UInt8) (a : Int) :
    (m.write block.1 block.2).peek a = (byteOf? block a).or (m.peek a) := by
  rw [peek_write, byteOf?]
  change (if Covers block a then _ else _) = _
  by_cases hcovers : Covers block a
  · obtain ⟨b, hb⟩ := exists_byteOf? hcovers
    rw [byteOf?, if_pos hcovers] at hb
    simp only [if_pos hcovers, hb, Option.some_or]
  · simp only [if_neg hcovers, Option.none_or]

/-- Where there was no content, a written block adds its bytes. -/
theorem peek_write_eq_some_iff (h : m.Vacant (Covers block)) (b : UInt8) :
    (m.write block.1 block.2).peek a = some b ↔ m.peek a = some b ∨ byteOf? block a = some b := by
  rw [peek_write_eq_or]
  cases hbyte : byteOf? block a with
  | none => simp
  | some c => simp [h a (covers_of_byteOf? hbyte)]

namespace IsUnion

/-- A memory is the union of itself and of no blocks. -/
theorem refl (m : Memory) : m.IsUnion [] m :=
  ⟨⟨nofun, .nil⟩, by simp⟩

/-- Where a union has no content, none of its parts has any. -/
theorem peek_eq_none (h : m.IsUnion blocks last) (hnone : last.peek a = none) :
    m.peek a = none ∧ ∀ block ∈ blocks, ¬Covers block a := by
  constructor
  · apply Option.eq_none_iff_forall_ne_some.2
    intro b hb
    cases hnone.symm.trans ((h.content a b).2 (.inl hb))
  · intro block hblock hcovers
    obtain ⟨b, hb⟩ := exists_byteOf? hcovers
    cases hnone.symm.trans ((h.content a b).2 (.inr ⟨block, hblock, hb⟩))

/-- What is held is never changed. -/
theorem keeps (h : m.IsUnion blocks last) {b : UInt8} (hb : m.peek a = some b) :
    last.peek a = some b :=
  (h.content a b).2 (.inl hb)

/-- A block that is written where there is no content joins the union. -/
theorem write (h : m.IsUnion blocks last) (hvacant : last.Vacant (Covers block)) :
    m.IsUnion (blocks ++ [block]) (last.write block.1 block.2) where
  content a b := by
    rw [peek_write_eq_some_iff hvacant, h.content, or_assoc]
    simp only [List.mem_append, List.mem_singleton, or_and_right, exists_or, exists_eq_left]
  vacant := by
    intro other hother a hcovers
    rcases List.mem_append.1 hother with hbefore | hlast
    · exact h.vacant other hbefore a hcovers
    · rw [List.mem_singleton.1 hlast] at hcovers
      exact (h.peek_eq_none (hvacant a hcovers)).1
  apart := by
    apply List.pairwise_append.2
    refine ⟨h.apart, List.pairwise_singleton _ _, ?_⟩
    intro first hfirst second hsecond a hcovers
    rw [List.mem_singleton.1 hsecond] at hcovers
    exact (h.peek_eq_none (hvacant a hcovers.2)).2 first hfirst hcovers.1

end IsUnion

end Memory

/-- A size that is not negative selects as many leading bytes. -/
theorem Delivery.selected_of_nonneg {d : Delivery} (h : 0 ≤ d.size) :
    d.selected = d.data.take d.size.toNat := by
  rw [selected, if_neg (Int.not_lt.2 h)]

namespace MemoryImage

/-- Offers blocks to a memory one after the other. -/
def receiveAll : List Delivery → MemoryImage → List Reply × MemoryImage
  | [], m => ([], m)
  | block :: rest, m =>
    let (reply, next) := m.receive block
    let (replies, last) := receiveAll rest next
    (reply :: replies, last)

/-- The blocks that are taken, of those that are offered to a memory one after the other. -/
def taken (blocks : List Delivery) (m : MemoryImage) : List (Int × List UInt8) :=
  ((blocks.zip (m.receiveAll blocks).1).filter fun call => call.2.verdict = .accept).map
    fun call => (call.1.address, call.1.selected)

variable {m : MemoryImage} {block : Delivery}

/-- The addresses that a block declares. -/
def Declares (block : Delivery) (a : Int) : Prop :=
  block.address ≤ a ∧ a < block.address + block.size

/-- The addresses that a block covers are among those that it declares. -/
theorem declares_of_covers (hsize : 0 ≤ block.size) {a : Int}
    (h : Covers (block.address, block.selected) a) : Declares block a := by
  rw [Delivery.selected_of_nonneg hsize] at h
  have hlength := List.length_take_le block.size.toNat block.data
  obtain ⟨hlower, hupper⟩ := h
  dsimp only at hlower hupper
  exact ⟨hlower, by omega⟩

/-- A declared address has content exactly if one of them is found to be occupied. -/
theorem occupied_eq_false_iff (hsize : 0 ≤ block.size) :
    m.memory.occupied block.address block.size.toNat = false ↔ m.memory.Vacant (Declares block) := by
  rw [← Bool.not_eq_true, Memory.occupied_iff]
  simp only [not_exists, not_and, Bool.not_eq_true, Option.isSome_eq_false_iff, Option.isNone_iff_eq_none,
    Memory.Vacant, Declares, Int.toNat_of_nonneg hsize, and_imp]

/-- Where no declared address has content, a block is written and taken. -/
theorem receive_of_vacant (hsize : 0 ≤ block.size) (h : m.memory.Vacant (Declares block)) :
    m.receive block =
      ({ verdict := .accept },
        { m with memory := m.memory.write block.address block.selected }) := by
  rw [receive, (occupied_eq_false_iff hsize).2 h, Bool.and_false]
  rfl

/-- Otherwise it is not taken, and the memory stays as it is, unless it may be overlapped. -/
theorem receive_of_not_vacant (hm : m.overlap = false) (hsize : 0 ≤ block.size)
    (h : ¬m.memory.Vacant (Declares block)) : m.receive block = ({ verdict := .reject }, m) := by
  rw [← occupied_eq_false_iff hsize, Bool.not_eq_false] at h
  rw [receive, h, hm]
  rfl

/-- A block leaves it open whether the memory may be overlapped. -/
theorem overlap_receive (m : MemoryImage) (block : Delivery) :
    (m.receive block).2.overlap = m.overlap := by
  unfold receive
  split <;> rfl

/-- Blocks in a row are offered one part after the other. -/
theorem receiveAll_append (first second : List Delivery) (m : MemoryImage) :
    m.receiveAll (first ++ second) =
      ((m.receiveAll first).1 ++ ((m.receiveAll first).2.receiveAll second).1,
        ((m.receiveAll first).2.receiveAll second).2) := by
  induction first generalizing m with
  | nil => rfl
  | cons block first ih => simp [receiveAll, ih]

/-- Blocks in a row leave it open whether the memory may be overlapped. -/
theorem overlap_receiveAll (blocks : List Delivery) (m : MemoryImage) :
    (m.receiveAll blocks).2.overlap = m.overlap := by
  induction blocks generalizing m with
  | nil => rfl
  | cons block rest ih => exact (ih _).trans (overlap_receive m block)

/-- The blocks that are taken begin with the first one, if it is taken. -/
theorem taken_cons (block : Delivery) (rest : List Delivery) (m : MemoryImage) :
    m.taken (block :: rest) =
      (if (m.receive block).1.verdict = .accept then [(block.address, block.selected)] else []) ++
        (m.receive block).2.taken rest := by
  rw [taken, receiveAll, List.zip_cons_cons, List.filter_cons, taken]
  split <;> simp_all

/-- A memory that must not be overlapped stays the disjoint union of what it held and of the blocks
that it takes. -/
theorem isUnion_receiveAll {first : Memory} {past : List (Int × List UInt8)}
    (h : first.IsUnion past m.memory) (hm : m.overlap = false) {blocks : List Delivery}
    (hsize : ∀ block ∈ blocks, 0 ≤ block.size) :
    first.IsUnion (past ++ m.taken blocks) (m.receiveAll blocks).2.memory := by
  induction blocks generalizing m past with
  | nil => simpa [taken, receiveAll] using h
  | cons block rest ih =>
    obtain ⟨hblock, hrest⟩ := List.forall_mem_cons.1 hsize
    rw [taken_cons, receiveAll, ← List.append_assoc]
    apply ih _ ((overlap_receive m block).trans hm) hrest
    by_cases hvacant : m.memory.Vacant (Declares block)
    · rw [receive_of_vacant hblock hvacant, if_pos rfl]
      exact h.write fun a hcovers => hvacant a (declares_of_covers hblock hcovers)
    · rw [receive_of_not_vacant hm hblock hvacant, if_neg (by simp), List.append_nil]
      exact h

/-- A memory that must not be overlapped takes a block exactly if none of its declared addresses has
content, and adds its bytes up to the declared size; a block that is not taken leaves it as it is. So no
byte is ever changed or lost once it is there, and the memory is always the disjoint union of what it
held at first and of the blocks that it took. -/
theorem write_once (hm : m.overlap = false) {calls : List Delivery}
    (hsize : ∀ call ∈ calls, 0 ≤ call.size) :
    (∀ earlier call later, calls = earlier ++ call :: later →
      let before := (m.receiveAll earlier).2
      let after := (before.receive call).2
      ((before.receive call).1.verdict = .accept ↔
          ∀ a, call.address ≤ a → a < call.address + call.size → before.memory.peek a = none) ∧
        ((before.receive call).1.verdict ≠ .accept →
          (before.receive call).1.verdict = .reject ∧ after = before) ∧
        ((before.receive call).1.verdict = .accept → ∀ a, after.memory.peek a =
          (byteOf? (call.address, call.data.take call.size.toNat) a).or (before.memory.peek a))) ∧
      ∀ earlier later, calls = earlier ++ later →
        let before := (m.receiveAll earlier).2
        m.memory.IsUnion (m.taken earlier) before.memory ∧
          ∀ a b, before.memory.peek a = some b → (m.receiveAll calls).2.memory.peek a = some b := by
  constructor
  · intro earlier call later hcalls before after
    have hbefore : before.overlap = false := (overlap_receiveAll earlier m).trans hm
    have hcall : 0 ≤ call.size := hsize call (by simp [hcalls])
    have hvacant : before.memory.Vacant (Declares call) ↔
        ∀ a, call.address ≤ a → a < call.address + call.size → before.memory.peek a = none :=
      forall_congr' fun a => and_imp
    rw [← hvacant]
    by_cases h : before.memory.Vacant (Declares call)
    · have hreceive := receive_of_vacant hcall h
      rw [Delivery.selected_of_nonneg hcall] at hreceive
      simp only [after, hreceive]
      exact ⟨by simp [h], nofun, fun _ a => before.memory.peek_write_eq_or (_, _) a⟩
    · simp only [after, receive_of_not_vacant hbefore hcall h]
      exact ⟨by simp [h], fun _ => ⟨trivial, trivial⟩, nofun⟩
  · rintro earlier later rfl before
    obtain ⟨hearlier, hlater⟩ := List.forall_mem_append.1 hsize
    have hbefore : before.overlap = false := (overlap_receiveAll earlier m).trans hm
    refine ⟨isUnion_receiveAll (.refl m.memory) hm hearlier, fun a b hb => ?_⟩
    rw [receiveAll_append]
    exact (isUnion_receiveAll (.refl before.memory) hbefore hlater).keeps hb

/-- A memory with one byte is offered a block of three bytes with the declared size 2 in front of it,
a block with the declared size 3 on top of both, and an empty block there: the first and the last are
taken. -/
theorem write_once_three_calls :
    let m : MemoryImage := ⟨Memory.empty.poke 2 0x41, false⟩
    let calls : List Delivery := [⟨0, [0x42, 0x43, 0x44], 2⟩, ⟨-1, [0x45], 3⟩, ⟨1, [0x46], 0⟩]
    (∀ call ∈ calls, 0 ≤ call.size) ∧
      m.memory.IsUnion [(0, [0x42, 0x43]), (1, [])] (m.receiveAll calls).2.memory ∧
      (m.receiveAll calls).2.memory.peek 2 = some 0x41 := by
  intro m calls
  have hsize : ∀ call ∈ calls, 0 ≤ call.size := by decide
  have htaken : m.taken calls = [(0, [0x42, 0x43]), (1, [])] := by decide +kernel
  obtain ⟨-, hmoments⟩ := write_once (m := m) rfl hsize
  have hheld : m.memory.peek 2 = some 0x41 := by rw [Memory.peek_poke, if_pos rfl]
  refine ⟨hsize, ?_, (hmoments [] calls rfl).2 2 0x41 hheld⟩
  rw [← htaken]
  exact (hmoments calls [] (List.append_nil calls).symm).1

end MemoryImage

end IntelHex
