import Std.Data.TreeMap

/-!
# Sparse memory

A memory holds bytes at some addresses, which may be any integers. Its content is seen through `peek`,
and listed as blocks: the longest runs of consecutive addresses, in ascending order.
-/

namespace IntelHex

/-- A sparse memory. -/
structure Memory where
  /-- The bytes by address. -/
  cells : Std.TreeMap Int UInt8

namespace Memory

/-- A memory without content. -/
def empty : Memory := ⟨∅⟩

/-- The byte at an address, if there is one. -/
def peek (m : Memory) (address : Int) : Option UInt8 :=
  m.cells[address]?

/-- Puts one byte at an address. -/
def poke (m : Memory) (address : Int) (b : UInt8) : Memory :=
  ⟨m.cells.insert address b⟩

/-- Writes bytes from an address on, over what is there. -/
def write (m : Memory) (address : Int) : List UInt8 → Memory
  | [] => m
  | b :: rest => (m.poke address b).write (address + 1) rest

/-- Whether there is a byte at one of the `count` addresses from `address` on. -/
def occupied (m : Memory) (address : Int) : (count : Nat) → Bool
  | 0 => false
  | n + 1 => (m.peek address).isSome || m.occupied (address + 1) n

/-- Puts a byte in front of ascending blocks, joining it to the first one if that follows at once. -/
def joinCell (cell : Int × UInt8) (blocks : List (Int × List UInt8)) : List (Int × List UInt8) :=
  match blocks with
  | (start, data) :: more =>
    if cell.1 + 1 = start then (cell.1, cell.2 :: data) :: more
    else (cell.1, [cell.2]) :: blocks
  | [] => [(cell.1, [cell.2])]

/-- The content as blocks that neither touch nor overlap, in ascending order. -/
def toBlocks (m : Memory) : List (Int × List UInt8) :=
  m.cells.toList.foldr joinCell []

/-- The memory with the content of some blocks, later blocks over earlier ones. -/
def ofBlocks (blocks : List (Int × List UInt8)) : Memory :=
  blocks.foldl (fun m block => m.write block.1 block.2) empty

/-- Whether there is no content at all. -/
def isEmpty (m : Memory) : Bool :=
  m.cells.isEmpty

/-- The first address with content, and zero if there is none. -/
def start (m : Memory) : Int :=
  match m.cells.keys.head? with
  | some a => a
  | none => 0

/-- One past the last address with content, and zero if there is none. -/
def endex (m : Memory) : Int :=
  match m.cells.keys.getLast? with
  | some a => a + 1
  | none => 0

/-- A byte is found where it has been put, and nothing else changes. -/
theorem peek_poke (m : Memory) (address a : Int) (b : UInt8) :
    (m.poke address b).peek a = if address = a then some b else m.peek a := by
  simp [peek, poke, Std.TreeMap.getElem?_insert]

/-- Written bytes are found from their address on, and nothing else changes. -/
theorem peek_write (m : Memory) (address a : Int) (data : List UInt8) :
    (m.write address data).peek a =
      if address ≤ a ∧ a < address + data.length then data[(a - address).toNat]?
      else m.peek a := by
  induction data generalizing m address with
  | nil =>
    have houtside : ¬(address ≤ a ∧ a < address + ([] : List UInt8).length) := by
      simp only [List.length_nil]
      omega
    rw [write, if_neg houtside]
  | cons b rest ih =>
    rw [write, ih, peek_poke, List.length_cons]
    by_cases hhere : address = a
    · subst hhere
      rw [if_neg (by omega), if_pos rfl, if_pos (by omega), Int.sub_self]
      rfl
    · rw [if_neg hhere]
      by_cases hinside : address + 1 ≤ a ∧ a < address + 1 + rest.length
      · have hindex : (a - address).toNat = (a - (address + 1)).toNat + 1 := by omega
        rw [if_pos hinside, if_pos (by omega), hindex, List.getElem?_cons_succ]
      · rw [if_neg hinside, if_neg (by omega)]

/-- Occupied means that one of the addresses has content. -/
theorem occupied_iff (m : Memory) (address : Int) (count : Nat) :
    m.occupied address count = true ↔
      ∃ a, address ≤ a ∧ a < address + count ∧ (m.peek a).isSome := by
  induction count generalizing address with
  | zero =>
    simp only [occupied, Bool.false_eq_true, false_iff]
    rintro ⟨a, hlower, hupper, -⟩
    omega
  | succ n ih =>
    rw [occupied, Bool.or_eq_true, ih]
    constructor
    · rintro (hhere | ⟨a, hlower, hupper, hthere⟩)
      · exact ⟨address, by omega, by omega, hhere⟩
      · exact ⟨a, by omega, by omega, hthere⟩
    · rintro ⟨a, hlower, hupper, hfound⟩
      by_cases h : a = address
      · exact Or.inl (h ▸ hfound)
      · exact Or.inr ⟨a, by omega, by omega, hfound⟩

/-- A memory without content holds nothing anywhere. -/
theorem peek_empty (a : Int) : empty.peek a = none := by
  simp [peek, empty]

end Memory

end IntelHex
