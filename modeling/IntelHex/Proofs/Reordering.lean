import IntelHex.Proofs.WriteOnce

/-!
# Data blocks in any order

A memory that must not be overlapped takes all of some blocks exactly if no two of them have an address
in common and none meets what the memory holds. This does not depend on the order of the blocks, and
neither does the content that they leave: it is that of a disjoint union. A memory that may be
overlapped takes every block and comes to the same content.
-/

namespace IntelHex

open Overlay

namespace Memory

/-- Two memories hold the same, address by address and in the listing of their blocks. -/
structure HoldsSame (m n : Memory) : Prop where
  peek : ∀ a, m.peek a = n.peek a
  toBlocks : m.toBlocks = n.toBlocks

/-- Memories that hold the same at each address list the same blocks. -/
theorem holdsSame_of_peek {m n : Memory} (h : ∀ a, m.peek a = n.peek a) : m.HoldsSame n := by
  have hcells : m.cells.toList = n.cells.toList :=
    (Std.TreeMap.Equiv.of_forall_constGet?_eq h).toList_eq
  exact ⟨h, congrArg (List.foldr joinCell []) hcells⟩

variable {m : Memory} {blocks other : List (Int × List UInt8)} {block : Int × List UInt8}

/-- That two blocks have no address in common can be said in either order. -/
theorem apart_symm {first second : Int × List UInt8} (h : Apart first second) :
    Apart second first :=
  fun a hcovers => h a hcovers.symm

/-- Whether blocks fit does not depend on their order. -/
theorem Fits.perm (h : m.Fits blocks) (hperm : other.Perm blocks) : m.Fits other where
  vacant block hblock := h.vacant block (hperm.mem_iff.1 hblock)
  apart := (hperm.pairwise_iff apart_symm).2 h.apart

/-- A written block takes its addresses away, and no others. -/
theorem vacant_write_iff (m : Memory) (block next : Int × List UInt8) :
    (m.write block.1 block.2).Vacant (Covers next) ↔ m.Vacant (Covers next) ∧ Apart block next := by
  constructor
  · intro h
    refine ⟨fun a hnext => ?_, fun a hboth => ?_⟩
    · have hnone := h a hnext
      rw [peek_write_eq_or, Option.or_eq_none_iff] at hnone
      exact hnone.2
    · obtain ⟨b, hb⟩ := exists_byteOf? hboth.1
      have hnone := h a hboth.2
      rw [peek_write_eq_or, hb] at hnone
      cases hnone
  · intro h a hnext
    have hother : byteOf? block a = none := if_neg fun hcovers => h.2 a ⟨hcovers, hnext⟩
    rw [peek_write_eq_or, hother, Option.none_or]
    exact h.1 a hnext

/-- Blocks fit if the first one does, and the others once it is written. -/
theorem fits_cons_iff :
    m.Fits (block :: blocks) ↔
      m.Vacant (Covers block) ∧ (m.write block.1 block.2).Fits blocks := by
  constructor
  · intro h
    obtain ⟨hvacant, hrest⟩ := List.forall_mem_cons.1 h.vacant
    obtain ⟨hapart, hamong⟩ := List.pairwise_cons.1 h.apart
    refine ⟨hvacant, fun next hnext => ?_, hamong⟩
    exact (vacant_write_iff m block next).2 ⟨hrest next hnext, hapart next hnext⟩
  · rintro ⟨hvacant, h⟩
    have hboth := fun next hnext => (vacant_write_iff m block next).1 (h.vacant next hnext)
    exact ⟨List.forall_mem_cons.2 ⟨hvacant, fun next hnext => (hboth next hnext).1⟩,
      List.pairwise_cons.2 ⟨fun next hnext => (hboth next hnext).2, h.apart⟩⟩

/-- Two blocks with a common address do not fit together. -/
theorem not_fits_of_shared {i j : Nat} {first second : Int × List UInt8} {a : Int} (hne : i ≠ j)
    (hfirst : blocks[i]? = some first) (hsecond : blocks[j]? = some second)
    (hcovers : Covers first a ∧ Covers second a) : ¬m.Fits blocks := by
  intro h
  obtain ⟨hi, rfl⟩ := List.getElem?_eq_some_iff.1 hfirst
  obtain ⟨hj, rfl⟩ := List.getElem?_eq_some_iff.1 hsecond
  rcases Nat.lt_or_gt_of_ne hne with hless | hless
  · exact List.pairwise_iff_getElem.1 h.apart i j hi hj hless a hcovers
  · exact List.pairwise_iff_getElem.1 h.apart j i hj hi hless a hcovers.symm

/-- The content of a disjoint union does not depend on the order of its parts. -/
theorem IsUnion.holdsSame {last next : Memory} (h : m.IsUnion blocks last)
    (hother : m.IsUnion other next) (hperm : other.Perm blocks) : next.HoldsSame last := by
  apply holdsSame_of_peek
  intro a
  apply Option.ext
  intro b
  rw [hother.content, h.content]
  simp only [hperm.mem_iff]

end Memory

/-- A whole block on its way to a consumer. -/
def Delivery.ofBlock (block : Int × List UInt8) : Delivery :=
  ⟨block.1, block.2, block.2.length⟩

/-- All of a whole block is selected. -/
theorem Delivery.selected_ofBlock (block : Int × List UInt8) :
    (Delivery.ofBlock block).selected = block.2 := by
  rw [selected_of_nonneg (Int.natCast_nonneg _)]
  exact List.take_length

namespace MemoryImage

/-- Offers whole blocks to a memory one after the other. -/
def offerAll (blocks : List (Int × List UInt8)) (m : MemoryImage) : List Reply × MemoryImage :=
  m.receiveAll (blocks.map .ofBlock)

/-- All blocks were taken. -/
def AllTaken (replies : List Reply) : Prop :=
  ∀ reply ∈ replies, reply.verdict = .accept

variable {m : MemoryImage} {block : Int × List UInt8} {blocks : List (Int × List UInt8)}

/-- Blocks are offered one after the other. -/
theorem offerAll_cons (block : Int × List UInt8) (blocks : List (Int × List UInt8))
    (m : MemoryImage) :
    m.offerAll (block :: blocks) =
      ((m.receive (.ofBlock block)).1 :: ((m.receive (.ofBlock block)).2.offerAll blocks).1,
        ((m.receive (.ofBlock block)).2.offerAll blocks).2) := rfl

/-- A whole block is written and taken where there is no content. -/
theorem receive_ofBlock_of_vacant (h : m.memory.Vacant (Covers block)) :
    m.receive (.ofBlock block) =
      ({ verdict := .accept }, { m with memory := m.memory.write block.1 block.2 }) := by
  rw [receive_of_vacant (Int.natCast_nonneg _) h, Delivery.selected_ofBlock]
  rfl

/-- A whole block is not taken where there is content. -/
theorem receive_ofBlock_of_not_vacant (hm : m.overlap = false)
    (h : ¬m.memory.Vacant (Covers block)) :
    m.receive (.ofBlock block) = ({ verdict := .reject }, m) :=
  receive_of_not_vacant hm (Int.natCast_nonneg _) h

/-- All blocks are taken exactly if they fit. -/
theorem allTaken_iff_fits (hm : m.overlap = false) (blocks : List (Int × List UInt8)) :
    AllTaken (m.offerAll blocks).1 ↔ m.memory.Fits blocks := by
  induction blocks generalizing m with
  | nil => exact iff_of_true nofun ⟨nofun, .nil⟩
  | cons block rest ih =>
    rw [offerAll_cons, AllTaken, List.forall_mem_cons, Memory.fits_cons_iff]
    by_cases hvacant : m.memory.Vacant (Covers block)
    · rw [receive_ofBlock_of_vacant hvacant]
      exact and_congr (iff_of_true rfl hvacant) (ih hm)
    · rw [receive_ofBlock_of_not_vacant hm hvacant]
      exact iff_of_false (fun h => nomatch h.1) fun h => hvacant h.1

/-- Blocks that fit come to a disjoint union, whether the memory may be overlapped or not. -/
theorem isUnion_offerAll {first : Memory} {past : List (Int × List UInt8)}
    (h : first.IsUnion past m.memory) (hfits : m.memory.Fits blocks) :
    first.IsUnion (past ++ blocks) (m.offerAll blocks).2.memory := by
  induction blocks generalizing m past with
  | nil => simpa [offerAll, receiveAll] using h
  | cons block rest ih =>
    obtain ⟨hvacant, hrest⟩ := Memory.fits_cons_iff.1 hfits
    rw [offerAll_cons, receive_ofBlock_of_vacant hvacant, List.append_cons]
    exact ih (h.write hvacant) hrest

/-- A block is taken or rejected. -/
theorem verdict_receive (m : MemoryImage) (block : Delivery) :
    (m.receive block).1.verdict = .accept ∨ (m.receive block).1.verdict = .reject := by
  unfold receive
  split
  · exact .inr rfl
  · exact .inl rfl

/-- If not all blocks were taken, one of them was rejected. -/
theorem exists_rejected (h : ¬AllTaken (m.offerAll blocks).1) :
    ∃ reply ∈ (m.offerAll blocks).1, reply.verdict = .reject := by
  induction blocks generalizing m with
  | nil => exact absurd nofun h
  | cons block rest ih =>
    rw [offerAll_cons] at h ⊢
    rw [AllTaken, List.forall_mem_cons, not_and] at h
    simp only [List.mem_cons, exists_eq_or_imp]
    rcases verdict_receive m (.ofBlock block) with haccept | hreject
    · exact .inr (ih (h haccept))
    · exact .inl hreject

/-- If a memory that must not be overlapped takes all of some blocks, it takes all of them in any
order, and comes to the same content, which is also that of a memory that may be overlapped. If two of
the blocks have an address in common, or if one of them meets the content of the memory, then one is
rejected in any order. -/
theorem order_immaterial (memory : Memory) (blocks : List (Int × List UInt8)) :
    let strict : MemoryImage := ⟨memory, false⟩
    let lax : MemoryImage := ⟨memory, true⟩
    (AllTaken (strict.offerAll blocks).1 → ∀ other, other.Perm blocks →
      AllTaken (strict.offerAll other).1 ∧
        (strict.offerAll other).2.memory.HoldsSame (strict.offerAll blocks).2.memory ∧
        (lax.offerAll other).2.memory.HoldsSame (strict.offerAll blocks).2.memory) ∧
      (((∃ (i j : Nat) (first second : Int × List UInt8) (a : Int), i ≠ j ∧
            blocks[i]? = some first ∧ blocks[j]? = some second ∧ Covers first a ∧ Covers second a) ∨
          ∃ block ∈ blocks, ∃ a, Covers block a ∧ (memory.peek a).isSome) →
        ∀ other, other.Perm blocks → ∃ reply ∈ (strict.offerAll other).1, reply.verdict = .reject) := by
  intro strict lax
  constructor
  · intro htaken other hperm
    have hfits : memory.Fits blocks := (allTaken_iff_fits rfl blocks).1 htaken
    have hother := hfits.perm hperm
    have hunion : memory.IsUnion blocks (strict.offerAll blocks).2.memory :=
      isUnion_offerAll (m := strict) (.refl memory) hfits
    refine ⟨(allTaken_iff_fits rfl other).2 hother, ?_, ?_⟩
    · exact hunion.holdsSame (isUnion_offerAll (m := strict) (.refl memory) hother) hperm
    · exact hunion.holdsSame (isUnion_offerAll (m := lax) (.refl memory) hother) hperm
  · intro hclash other hperm
    apply exists_rejected
    rw [allTaken_iff_fits rfl]
    intro hfits
    have hblocks := hfits.perm hperm.symm
    rcases hclash with ⟨i, j, first, second, a, hne, hfirst, hsecond, hcovers⟩ | hmeets
    · exact Memory.not_fits_of_shared hne hfirst hsecond hcovers hblocks
    · obtain ⟨block, hblock, a, hcovers, hsome⟩ := hmeets
      rw [hblocks.vacant block hblock a hcovers] at hsome
      cases hsome

/-- Two blocks that touch each other, and an empty one at an address with content, are also taken in
the opposite order; with a block on top of the first one, one is rejected in that order, too. -/
theorem order_immaterial_reversed :
    let memory := Memory.empty.poke 5 0x41
    let strict : MemoryImage := ⟨memory, false⟩
    let lax : MemoryImage := ⟨memory, true⟩
    let blocks : List (Int × List UInt8) := [(0, [0x42, 0x43]), (2, [0x44]), (5, [])]
    let more := (1, [0x45]) :: blocks
    AllTaken (strict.offerAll blocks).1 ∧ AllTaken (strict.offerAll blocks.reverse).1 ∧
      (lax.offerAll blocks.reverse).2.memory.HoldsSame (strict.offerAll blocks).2.memory ∧
      ∃ reply ∈ (strict.offerAll more.reverse).1, reply.verdict = .reject := by
  intro memory strict lax blocks more
  have htaken : AllTaken (strict.offerAll blocks).1 := by
    unfold AllTaken
    decide +kernel
  obtain ⟨hreversed, -, hsame⟩ :=
    (order_immaterial memory blocks).1 htaken blocks.reverse blocks.reverse_perm
  have hshared : ∃ (i j : Nat) (first second : Int × List UInt8) (a : Int), i ≠ j ∧
      more[i]? = some first ∧ more[j]? = some second ∧ Covers first a ∧ Covers second a :=
    ⟨0, 1, _, _, 1, by decide, rfl, rfl, by decide, by decide⟩
  exact ⟨htaken, hreversed, hsame,
    (order_immaterial memory more).2 (.inl hshared) more.reverse more.reverse_perm⟩

end MemoryImage

end IntelHex
