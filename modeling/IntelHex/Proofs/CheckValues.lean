import IntelHex.Image.Crc
import IntelHex.Proofs.Laws

/-!
# Check values of parts and of ranges

The check value of a message may be computed part by part: complementing the register at the end of one
part undoes the complement at the start of the next one. The value is that of a shift register that
takes the message bit by bit. The image of a range may likewise be cut at any address, in a hole or
beyond the content as well as within it, and the check value of what is before the cut is carried on
over what is after it.
-/

namespace IntelHex

namespace Crc32

/-! ### Bit by bit -/

/-- The register after one more bit of the message: it is shifted to the right, and the polynomial is
added if the bit that leaves it differs from that of the message. -/
def takeBit (register : BitVec 32) (bit : Bool) : BitVec 32 :=
  if register.getLsbD 0 != bit then register >>> 1 ^^^ 0xEDB88320#32 else register >>> 1

/-- The bits of some bytes, those of each byte from the lowest one on. -/
def bitsOf (data : List UInt8) : List Bool :=
  data.flatMap fun b => (List.range 8).map b.toBitVec.getLsbD

/-- The check value of some bytes as a shift register computes it, complemented before and after. -/
def serial (data : List UInt8) (previous : Int) : Nat :=
  (~~~(bitsOf data).foldl takeBit (~~~BitVec.ofInt 32 previous)).toNat

/-- A bit may be added to the register before it is shifted, with further bits above it. -/
theorem takeBit_getLsbD (register x : BitVec 32) :
    takeBit register (x.getLsbD 0) ^^^ x >>> 1 = shift (register ^^^ x) := by
  unfold takeBit shift polynomial
  rw [BitVec.getLsbD_xor, BitVec.ushiftRight_xor_distrib]
  cases register.getLsbD 0 <;> cases x.getLsbD 0 <;>
    simp only [bne_self_eq_false, Bool.xor_false, Bool.false_xor, Bool.false_eq_true, if_false,
      if_true] <;>
    ac_rfl

/-- Bits taken one by one may be added to the register all at once. -/
theorem foldl_takeBit (n : Nat) (register x : BitVec 32) :
    ((List.range n).map x.getLsbD).foldl takeBit register ^^^ x >>> n =
      shifts n (register ^^^ x) := by
  induction n generalizing register x with
  | zero => simp [shifts]
  | succ n ih =>
    have htail : ((List.range n).map Nat.succ).map x.getLsbD =
        (List.range n).map (x >>> 1).getLsbD := by
      rw [List.map_map]
      apply List.map_congr_left
      intro i _
      rw [BitVec.getLsbD_ushiftRight, Function.comp_apply, Nat.succ_eq_one_add]
    have habove : x >>> (n + 1) = x >>> 1 >>> n := by
      rw [Nat.add_comm, BitVec.shiftRight_add]
    rw [List.range_succ_eq_map, List.map_cons, htail, List.foldl_cons, habove, ih, shifts,
      takeBit_getLsbD]

/-- Zeros only leave the register. -/
theorem shifts_of_zeros (n : Nat) {register : BitVec 32}
    (hzeros : ∀ i < n, register.getLsbD i = false) : shifts n register = register >>> n := by
  induction n generalizing register with
  | zero => simp [shifts]
  | succ n ih =>
    have hfirst : shift register = register >>> 1 := by
      rw [shift, hzeros 0 (Nat.succ_pos n), if_neg Bool.false_ne_true]
    have hrest : ∀ i < n, (register >>> 1).getLsbD i = false := by
      intro i hi
      rw [BitVec.getLsbD_ushiftRight]
      exact hzeros (1 + i) (by omega)
    rw [shifts, hfirst, ih hrest, Nat.add_comm, BitVec.shiftRight_add]

/-- A byte has no bits above the eighth one. -/
theorem ushiftRight_byte (x : BitVec 8) : x.setWidth 32 >>> 8 = 0#32 := by
  apply BitVec.eq_of_getLsbD_eq
  intro i _
  rw [BitVec.getLsbD_ushiftRight, BitVec.getLsbD_setWidth, BitVec.getLsbD_of_ge x (8 + i) (by omega),
    Bool.and_false, BitVec.getLsbD_zero]

/-- A byte is taken in by its eight bits: the low byte of the register meets the byte, and the rest is
shifted down unchanged. -/
theorem foldl_takeBit_byte (register : BitVec 32) (b : UInt8) :
    ((List.range 8).map b.toBitVec.getLsbD).foldl takeBit register = update register b := by
  let low := (register.truncate 8).setWidth 32
  let byte := b.toBitVec.setWidth 32
  have hbits : (List.range 8).map b.toBitVec.getLsbD = (List.range 8).map byte.getLsbD := by
    apply List.map_congr_left
    intro i hi
    have hinside : i < 32 := by
      have := List.mem_range.1 hi
      omega
    simp [byte, hinside]
  have htaken := foldl_takeBit 8 register byte
  rw [ushiftRight_byte, BitVec.xor_zero] at htaken
  have hparts : register ^^^ byte = (low ^^^ byte) ^^^ (register ^^^ low) := by
    rw [BitVec.xor_comm low byte, BitVec.xor_comm register low, BitVec.xor_assoc,
      ← BitVec.xor_assoc low low, BitVec.xor_self, BitVec.zero_xor, BitVec.xor_comm]
  have hhigh : shifts 8 (register ^^^ low) = register >>> 8 := by
    rw [shifts_of_zeros, BitVec.ushiftRight_xor_distrib, ushiftRight_byte, BitVec.xor_zero]
    intro i hi
    have hinside : i < 32 := by omega
    simp [low, hi, hinside]
  rw [hbits, htaken, hparts, shifts_xor, hhigh, update_eq, BitVec.setWidth_xor]

/-- The bits of a message change the register as its bytes do. -/
theorem foldl_takeBit_bitsOf (data : List UInt8) (register : BitVec 32) :
    (bitsOf data).foldl takeBit register = data.foldl update register := by
  rw [bitsOf, List.foldl_flatMap]
  congr 1
  funext register b
  exact foldl_takeBit_byte register b

/-- The check value of some bytes is that of their bits. -/
theorem ofBytes_eq_serial (data : List UInt8) (previous : Int) :
    ofBytes data previous = serial data previous := by
  rw [ofBytes, serial, foldl_takeBit_bitsOf]
  rfl

/-- The digits from 1 to 9 have the check value that implementations are compared by. -/
example : serial [0x31, 0x32, 0x33, 0x34, 0x35, 0x36, 0x37, 0x38, 0x39] 0 = 0xCBF43926 := by
  decide +kernel

/-! ### Part by part -/

/-- Carrying on a check value takes up the register it stands for. -/
theorem carriedOn_value (register : BitVec 32) : carriedOn (value register : Nat) = register := by
  rw [carriedOn, value, BitVec.ofInt_natCast, BitVec.ofNat_toNat, BitVec.setWidth_eq, BitVec.not_not]

/-- The check value of two parts is that of the second one, carried on from the first one. -/
theorem ofBytes_append (a b : List UInt8) (previous : Int) :
    ofBytes (a ++ b) previous = ofBytes b (ofBytes a previous) := by
  simp only [ofBytes, List.foldl_append, carriedOn_value]

/-- Some parts, at least one of them, have the check value of what they are together. -/
theorem ofParts_eq {parts : List (List UInt8)} (hne : parts ≠ []) (previous : Int) :
    ofParts parts previous = ofBytes parts.flatten previous := by
  induction parts generalizing previous with
  | nil => contradiction
  | cons part rest ih =>
    by_cases hlast : rest = []
    · subst hlast
      simp [ofParts]
    · rw [List.flatten_cons, ofBytes_append, ← ih hlast]
      rfl

/-- A value that is carried on counts modulo 2^32. -/
theorem ofBytes_congr (data : List UInt8) {previous other : Int}
    (hsame : other % 0x100000000 = previous % 0x100000000) :
    ofBytes data other = ofBytes data previous := by
  have hregister : BitVec.ofInt 32 other = BitVec.ofInt 32 previous := by
    apply BitVec.eq_of_toNat_eq
    rw [BitVec.toNat_ofInt, BitVec.toNat_ofInt]
    exact congrArg Int.toNat hsame
  simp only [ofBytes, carriedOn, hregister]

end Crc32

/-! ### Range by range -/

/-- The addresses from one up to another. -/
def Extent.between (start endex fill : Int) : Extent :=
  { start := some start, endex := some endex, fill }

namespace Memory

variable {m : Memory} {start middle endex fill : Int} {room : Nat}

/-- There is an image with content in the memory and a byte for the holes, if there is a block of its
length. -/
theorem image_between (hcontent : m.isEmpty = false) (hfill : 0 ≤ fill ∧ fill ≤ 255)
    (hfits : Allocation.refusal? room 0 (endex - start).toNat = none) :
    m.image (.between start endex fill) room =
      .ok (m.flooded start (endex - start).toNat (UInt8.ofNat fill.toNat)) :=
  (laws room).image_filled m (.between start endex fill) hfill (isEmpty_eq_false_iff.1 hcontent) hfits

/-- There is a block for every part of a range for which there is one. -/
theorem fits_part {first count : Nat} (hfits : Allocation.refusal? room 0 count = none)
    (hpart : first ≤ count) : Allocation.refusal? room 0 first = none := by
  rw [Allocation.refusal?_eq_none_iff] at hfits ⊢
  omega

/-- The image of a range is that of what is before an address in it, followed by that of what is
after. -/
theorem flooded_between (hbefore : start ≤ middle) (hafter : middle ≤ endex) (b : UInt8) :
    m.flooded start (endex - start).toNat b =
      m.flooded start (middle - start).toNat b ++ m.flooded middle (endex - middle).toNat b := by
  have hlengths : (endex - start).toNat = (middle - start).toNat + (endex - middle).toNat := by omega
  have hreached : start + ((middle - start).toNat : Nat) = middle := by omega
  rw [hlengths, flooded_add, hreached]

/-- An image has as many bytes as it shows addresses. -/
theorem length_flooded (m : Memory) (address : Int) (count : Nat) (b : UInt8) :
    (m.flooded address count b).length = count := by
  rw [flooded, List.length_map, List.length_range]

/-- An image shows the content, and the fill byte in the holes. -/
theorem getElem?_flooded (m : Memory) (address : Int) {count i : Nat} (b : UInt8) (hi : i < count) :
    (m.flooded address count b)[i]? = some ((m.peek (address + (i : Nat))).getD b) := by
  rw [flooded, List.getElem?_map, List.getElem?_range hi]
  rfl

/-- The image of a range cut at an address: the images of the two parts follow each other, and the
check value of the first part is carried on over the second one. -/
structure CutAt (m : Memory) (room : Nat) (start middle endex fill : Int)
    (first second : List UInt8) : Prop where
  image_first : m.image (.between start middle fill) room = .ok first
  image_second : m.image (.between middle endex fill) room = .ok second
  image_whole : m.image (.between start endex fill) room = .ok (first ++ second)
  crc_first : m.imageCrc (.between start middle fill) room = .ok (Crc32.ofBytes first 0)
  crc_whole : m.imageCrc (.between start endex fill) room =
    .ok (Crc32.ofBytes second (Crc32.ofBytes first 0))

/-- A range of which there is an image may be cut at any address in it. -/
theorem cutAt_of_fits (hcontent : m.isEmpty = false) (hfill : 0 ≤ fill ∧ fill ≤ 255)
    (hbefore : start ≤ middle) (hafter : middle ≤ endex)
    (hfits : Allocation.refusal? room 0 (endex - start).toNat = none) :
    m.CutAt room start middle endex fill
      (m.flooded start (middle - start).toNat (UInt8.ofNat fill.toNat))
      (m.flooded middle (endex - middle).toNat (UInt8.ofNat fill.toNat)) := by
  have hless : (middle - start).toNat ≤ (endex - start).toNat := by omega
  have hmore : (endex - middle).toNat ≤ (endex - start).toNat := by omega
  have hfirst := image_between hcontent hfill (fits_part hfits hless)
  have hsecond := image_between hcontent hfill (fits_part hfits hmore)
  have hwhole := image_between hcontent hfill hfits
  rw [flooded_between hbefore hafter] at hwhole
  refine ⟨hfirst, hsecond, hwhole, ?_, ?_⟩
  · rw [imageCrc_eq, hfirst]
    rfl
  · rw [imageCrc_eq, hwhole, ← Crc32.ofBytes_append]
    rfl

end Memory

/-- Check values may be computed part by part. Carried on over at least one part, any integer gives the
check value of the parts together, bit by bit; it has at most 32 bits, and the integer counts modulo
2^32. The image of a range that can be allocated may be cut at any address, and the check value of the
first part is carried on over the second one. -/
theorem check_values_chain :
    (∀ (previous : Int) (a b : List UInt8),
      Crc32.ofBytes (a ++ b) previous = Crc32.ofBytes b (Crc32.ofBytes a previous)) ∧
    (∀ (previous : Int) (parts : List (List UInt8)), parts ≠ [] →
      Crc32.ofParts parts previous = Crc32.ofBytes parts.flatten previous ∧
      Crc32.ofParts parts previous = Crc32.serial parts.flatten previous ∧
      0 ≤ Crc32.ofParts parts previous ∧ Crc32.ofParts parts previous < 0x100000000 ∧
      ∀ other : Int, other % 0x100000000 = previous % 0x100000000 →
        Crc32.ofParts parts other = Crc32.ofParts parts previous) ∧
    ∀ (m : Memory) (room : Nat) (start middle endex fill : Int), m.isEmpty = false →
      start ≤ middle → middle ≤ endex → 0 ≤ fill ∧ fill ≤ 255 →
      Allocation.refusal? room 0 (endex - start).toNat = none →
      ∃ first second, m.CutAt room start middle endex fill first second ∧
        (first ++ second).length = (endex - start).toNat ∧
        ∀ i < (endex - start).toNat, (first ++ second)[i]? =
          some ((m.peek (start + (i : Nat))).getD (UInt8.ofNat fill.toNat)) := by
  refine ⟨fun previous a b => Crc32.ofBytes_append a b previous, ?_, ?_⟩
  · intro previous parts hne
    rw [Crc32.ofParts_eq hne]
    refine ⟨rfl, by rw [Crc32.ofBytes_eq_serial], Int.natCast_nonneg _, ?_, ?_⟩
    · have := Crc32.ofBytes_lt parts.flatten previous
      omega
    · intro other hsame
      rw [Crc32.ofParts_eq hne, Crc32.ofBytes_congr _ hsame]
  · intro m room start middle endex fill hcontent hbefore hafter hfill hfits
    refine ⟨_, _, Memory.cutAt_of_fits hcontent hfill hbefore hafter hfits, ?_, ?_⟩
    · rw [← Memory.flooded_between hbefore hafter, Memory.length_flooded]
    · intro i hi
      rw [← Memory.flooded_between hbefore hafter, Memory.getElem?_flooded m start _ hi]

/-- Two bytes with a hole between them, cut in the hole, from before the content to beyond it, where
there is just enough room: the holes are filled with zeros. The check value -1 is carried on as 2^32 - 1
is. -/
theorem check_values_chain_across_hole :
    let m := Memory.ofBlocks [(2, [0x41]), (5, [0x42])]
    Crc32.ofParts [[0x41], [], [0x42]] (-1) = Crc32.ofParts [[0x41], [], [0x42]] 0xFFFFFFFF ∧
      Crc32.ofParts [[0x41], [], [0x42]] 0xFFFFFFFF = Crc32.serial [0x41, 0x42] 0xFFFFFFFF ∧
      ∃ first second, m.CutAt 8 (-1) 4 7 0 first second ∧ (first ++ second).length = 8 ∧
        (first ++ second)[6]? = some 0x42 := by
  intro m
  have hcontent : m.isEmpty = false := by decide +kernel
  obtain ⟨-, hparts, hranges⟩ := check_values_chain
  obtain ⟨-, hserial, -, -, hcongr⟩ := hparts 0xFFFFFFFF [[0x41], [], [0x42]] (List.cons_ne_nil _ _)
  obtain ⟨first, second, hcut, hlength, hbytes⟩ :=
    hranges m 8 (-1) 4 7 0 hcontent (by decide) (by decide) (by decide) (by decide)
  refine ⟨hcongr (-1) (by decide), hserial, first, second, hcut, hlength, ?_⟩
  rw [hbytes 6 (by decide)]
  decide +kernel

end IntelHex
