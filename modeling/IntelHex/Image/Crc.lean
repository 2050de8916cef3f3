import IntelHex.Crc32.Repeat
import IntelHex.Image

/-!
# Check values of images

The check value of an image is that of its bytes. An image can be long and the memory nearly empty; so
the content is gone through in ascending order, and the fill bytes of a hole are taken at once.
`imageCrc_eq` says that the value is that of the bytes one by one.
-/

namespace IntelHex.Memory

/-- The register after the addresses from `address` up to `endex`, given the content in ascending
order. -/
def sweep (fill : UInt8) (endex : Int) :
    (cells : List (Int × UInt8)) → (address : Int) → (register : BitVec 32) → BitVec 32
  | [], address, register => Crc32.repeated fill (endex - address).toNat register
  | (a, b) :: rest, address, register =>
    if a < address then sweep fill endex rest address register
    else if endex ≤ a then Crc32.repeated fill (endex - address).toNat register
    else
      sweep fill endex rest (a + 1)
        (Crc32.update (Crc32.repeated fill (a - address).toNat register) b)

/-- The check value of an image. -/
def imageCrc (m : Memory) (extent : Extent) (room : Nat := Allocation.usualRoom) :
    Except ImageError Nat :=
  match m.imageRefusal? extent room with
  | some error => .error error
  | none =>
    .ok (Crc32.value (sweep (UInt8.ofNat extent.fill.toNat)
      (m.imageStart extent + m.imageLength extent) m.cells.toList (m.imageStart extent)
      (Crc32.carriedOn 0)))

/-- A range without content shows fill bytes only. -/
theorem flooded_of_hole {m : Memory} {address : Int} {count : Nat} {fill : UInt8}
    (hhole : ∀ a, address ≤ a → a < address + count → m.peek a = none) :
    m.flooded address count fill = List.replicate count fill := by
  rw [flooded, List.eq_replicate_iff]
  refine ⟨by simp, ?_⟩
  intro x hmember
  obtain ⟨i, hinside, rfl⟩ := List.mem_map.1 hmember
  rw [hhole (address + (i : Nat)) (by omega) (by have := List.mem_range.1 hinside; omega),
    Option.getD_none]

/-- One address with content shows it. -/
theorem flooded_one {m : Memory} {address : Int} {b fill : UInt8} (hhere : m.peek address = some b) :
    m.flooded address 1 fill = [b] := by
  simp [flooded, hhere]

/-- Going through the content takes the bytes of the image. -/
theorem sweep_eq {m : Memory} (fill : UInt8) (endex : Int) {cells : List (Int × UInt8)}
    {address : Int} (register : BitVec 32) (hascending : cells.Pairwise fun x y => x.1 < y.1)
    (hcontent : ∀ a b, address ≤ a → ((a, b) ∈ cells ↔ m.peek a = some b)) :
    sweep fill endex cells address register =
      (m.flooded address (endex - address).toNat fill).foldl Crc32.update register := by
  induction cells generalizing address register with
  | nil =>
    rw [sweep, Crc32.repeated_eq, flooded_of_hole]
    intro a habove _
    cases hfound : m.peek a with
    | none => rfl
    | some b => exact absurd ((hcontent a b habove).2 hfound) List.not_mem_nil
  | cons cell rest ih =>
    obtain ⟨a, b⟩ := cell
    obtain ⟨hfirst, hascending⟩ := List.pairwise_cons.1 hascending
    rw [sweep]
    split
    · next hbefore =>
      refine ih register hascending fun x y habove => ?_
      rw [← hcontent x y habove, List.mem_cons, Prod.mk.injEq]
      constructor
      · exact Or.inr
      · rintro (⟨rfl, -⟩ | hmember)
        · omega
        · exact hmember
    · next hnotBefore =>
      have hleast : ∀ x, address ≤ x → x < a → m.peek x = none := by
        intro x habove hbelow
        cases hfound : m.peek x with
        | none => rfl
        | some y =>
          rcases List.mem_cons.1 ((hcontent x y habove).2 hfound) with hsame | hmember
          · cases hsame
            omega
          · have := hfirst _ hmember
            simp only at this
            omega
      split
      · next hbeyond =>
        rw [Crc32.repeated_eq, flooded_of_hole]
        intro x habove hbelow
        exact hleast x habove (by omega)
      · next hwithin =>
        have hparts : (endex - address).toNat = (a - address).toNat + (1 + (endex - (a + 1)).toNat) := by
          omega
        have hreached : address + ((a - address).toNat : Nat) = a := by omega
        have hhere : m.peek a = some b := (hcontent a b (by omega)).1 List.mem_cons_self
        have hafter : ∀ x y, a + 1 ≤ x → ((x, y) ∈ rest ↔ m.peek x = some y) := by
          intro x y habove
          rw [← hcontent x y (by omega), List.mem_cons, Prod.mk.injEq]
          constructor
          · exact Or.inr
          · rintro (⟨rfl, -⟩ | hmember)
            · omega
            · exact hmember
        rw [ih _ hascending hafter, hparts, flooded_add, flooded_add, hreached, List.foldl_append,
          List.foldl_append, flooded_one hhere, Crc32.repeated_eq,
          flooded_of_hole fun x habove hbelow => hleast x habove (by omega)]
        rfl

/-- The content in ascending order. -/
theorem ascending_cells (m : Memory) : m.cells.toList.Pairwise fun x y => x.1 < y.1 :=
  Std.TreeMap.ordered_keys_toList.imp fun order => Int.compare_eq_lt.1 order

/-- The check value of an image is that of its bytes. -/
theorem imageCrc_eq (m : Memory) (extent : Extent) (room : Nat) :
    m.imageCrc extent room = (m.image extent room).map fun bytes => Crc32.ofBytes bytes 0 := by
  unfold imageCrc image
  cases m.imageRefusal? extent room with
  | some error => rfl
  | none =>
    have hlength : m.imageStart extent + m.imageLength extent - m.imageStart extent =
        m.imageLength extent := by omega
    simp only
    rw [sweep_eq _ _ _ m.ascending_cells fun a b _ => Std.TreeMap.mem_toList_iff_getElem?_eq_some,
      hlength, Int.toNat_natCast]
    rfl

end IntelHex.Memory
