import Mathlib.Data.Int.Bitwise
import Mathlib.Data.Int.ModEq
import Mathlib.Tactic.Zify
import IntelHex.Proofs.Soundness

/-!
# The arithmetic of addresses

An address is computed in 32 bits from an upper part and a low part that may be any integer. It is what
the same expression on integers of any size, in two's complement, leaves in its last 32 bits. In a
decoder that can be reached both parts of its own address have 16 bits, and then nothing is cut off: in
linear mode the two parts stand side by side, and in segmented mode their sum stays below 2^21.
-/

namespace IntelHex

/-- The bits of an integer in two's complement, as far as a word holds them. -/
theorem getLsbD_ofInt (width : Nat) (x : Int) (i : Nat) :
    (BitVec.ofInt width x).getLsbD i = (decide (i < width) && x.testBit i) := by
  cases x with
  | ofNat n =>
    rw [Int.ofNat_eq_natCast, BitVec.ofInt_natCast, BitVec.getLsbD_ofNat]
    rfl
  | negSucc n =>
    rw [BitVec.ofInt_negSucc_eq_not_ofNat, BitVec.getLsbD_not, BitVec.getLsbD_ofNat]
    cases decide (i < width) <;> rfl

/-- The bits of two integers are joined in a word as they are without a limit. -/
theorem ofInt_lor (width : Nat) (x y : Int) :
    BitVec.ofInt width (x.lor y) = BitVec.ofInt width x ||| BitVec.ofInt width y := by
  apply BitVec.eq_of_getLsbD_eq
  intro i _
  rw [BitVec.getLsbD_or, getLsbD_ofInt, getLsbD_ofInt, getLsbD_ofInt, Int.testBit_lor,
    Bool.and_or_distrib_left]

/-- A word is moved up as a number is multiplied. -/
theorem ofNat_shiftLeft_eq_ofInt (width n k : Nat) :
    BitVec.ofNat width n <<< k = BitVec.ofInt width ((n : Int) * 2 ^ k) := by
  have hproduct : (n : Int) * 2 ^ k = ((n * 2 ^ k : Nat) : Int) := by push_cast; rfl
  rw [hproduct, BitVec.ofInt_natCast]
  apply BitVec.eq_of_toNat_eq
  simp [Nat.shiftLeft_eq, Nat.mul_mod]

/-- A word holds the last bits of an integer. -/
theorem toNat_ofInt_eq_emod (width : Nat) (x : Int) :
    ((BitVec.ofInt width x).toNat : Int) = x % 2 ^ width := by
  have hpower : ((2 ^ width : Nat) : Int) = 2 ^ width := by push_cast; rfl
  rw [BitVec.toNat_ofInt, hpower, Int.toNat_of_nonneg]
  exact Int.emod_nonneg x (Int.pow_ne_zero (by decide))

/-- A number that is moved up by some bits has none in common with a number of as many bits. -/
theorem shiftLeft_and_of_lt {width low : Nat} (h : low < 2 ^ width) (high : Nat) :
    high <<< width &&& low = 0 := by
  apply Nat.eq_of_testBit_eq
  intro i
  rw [Nat.testBit_and, Nat.testBit_shiftLeft, Nat.zero_testBit]
  by_cases hi : width ≤ i
  · have hlow : low < 2 ^ i := Nat.lt_of_lt_of_le h (Nat.pow_le_pow_right (by decide) hi)
    rw [Nat.testBit_lt_two_pow hlow, Bool.and_false]
  · simp [hi]

namespace Addressing

variable {a : Addressing}

/-- In linear mode an address is what the joined bits of its parts leave in the last 32 bits. -/
theorem absolute_linear (h : a.mode = .linear) (low : Int) :
    (a.absolute low : Int) = Int.lor (a.high * 2 ^ 16) low % 2 ^ 32 := by
  rw [← toNat_ofInt_eq_emod, ofInt_lor, ← ofNat_shiftLeft_eq_ofInt, Addressing.absolute, h]

/-- In segmented mode an address is what the sum of its parts leaves in the last 32 bits. -/
theorem absolute_segmented (h : a.mode = .segmented) (low : Int) :
    (a.absolute low : Int) = (a.high * 16 + low) % 2 ^ 32 := by
  have hshift : BitVec.ofNat 32 a.high <<< 4 = BitVec.ofInt 32 (a.high * 16) :=
    ofNat_shiftLeft_eq_ofInt 32 a.high 4
  rw [← toNat_ofInt_eq_emod, BitVec.ofInt_add, ← hshift, Addressing.absolute, h]

/-- Low parts with the same last 32 bits have the same address. -/
theorem absolute_congr (a : Addressing) {low other : Int} (h : low ≡ other [ZMOD 2 ^ 32]) :
    a.absolute low = a.absolute other := by
  have hword : BitVec.ofInt 32 low = BitVec.ofInt 32 other := by
    apply BitVec.eq_of_toNat_eq
    apply Int.ofNat_inj.1
    rw [toNat_ofInt_eq_emod, toNat_ofInt_eq_emod]
    exact h
  unfold Addressing.absolute
  rw [hword]

section Parts

variable {low : Nat} (hhigh : a.high < 2 ^ 16) (hlow : low < 2 ^ 16)
include hhigh hlow

/-- In linear mode two parts of 16 bits stand side by side. -/
theorem absolute_linear_of_lt (h : a.mode = .linear) : a.absolute low = a.high * 65536 + low := by
  have hjoined : a.high <<< 16 ||| low = a.high * 65536 + low := by
    rw [← Nat.shiftLeft_add_eq_or_of_lt hlow, Nat.shiftLeft_eq]
  have hlor : Int.lor (a.high * 2 ^ 16) low = ((a.high <<< 16 ||| low : Nat) : Int) := by
    rw [Nat.shiftLeft_eq]
    rfl
  zify
  rw [absolute_linear h, hlor, hjoined]
  omega

/-- In segmented mode the sum of two parts of 16 bits is the address. -/
theorem absolute_segmented_of_lt (h : a.mode = .segmented) :
    a.absolute low = a.high * 16 + low := by
  zify
  rw [absolute_segmented h]
  omega

/-- In linear mode different parts of 16 bits make different addresses. -/
theorem absolute_linear_injective {other : Addressing} {below : Nat} (hother : other.high < 2 ^ 16)
    (hbelow : below < 2 ^ 16) (hmode : a.mode = .linear) (hsame : other.mode = .linear)
    (h : a.absolute low = other.absolute below) : a.high = other.high ∧ low = below := by
  rw [absolute_linear_of_lt hhigh hlow hmode, absolute_linear_of_lt hother hbelow hsame] at h
  omega

end Parts

end Addressing

namespace Decoder

variable {κ : Type} {d : Decoder κ}

/-- The parts of the address of a decoder have 16 bits, and the address is made of them exactly. -/
structure Addressed (d : Decoder κ) : Prop where
  /-- The upper part has 16 bits. -/
  high_lt : d.addressing.high < 2 ^ 16
  /-- The low part has 16 bits. -/
  low_lt : d.frame.addressLow < 2 ^ 16
  /-- In linear mode the parts have no bit in common, and stand side by side. -/
  linear : d.addressing.mode = .linear →
    d.addressing.high <<< 16 &&& d.frame.addressLow = 0 ∧
      d.addressOf none = d.addressing.high * 65536 + d.frame.addressLow
  /-- In segmented mode the parts are added, and the sum cannot be larger than this. -/
  segmented : d.addressing.mode = .segmented →
    d.addressOf none = d.addressing.high * 16 + d.frame.addressLow ∧ d.addressOf none ≤ 0x10FFEF

/-- The address of a sound decoder is exact. -/
theorem Sound.addressed (hs : d.Sound) : d.Addressed := by
  have hhigh : d.addressing.high < 2 ^ 16 := hs.high_lt
  have hlow : d.frame.addressLow < 2 ^ 16 := hs.addressLow_lt
  refine ⟨hhigh, hlow, fun hmode => ?_, fun hmode => ?_⟩
  · refine ⟨shiftLeft_and_of_lt hlow _, ?_⟩
    rw [addressOf, address]
    exact Addressing.absolute_linear_of_lt hhigh hlow hmode
  · have hsum : d.addressOf none = d.addressing.high * 16 + d.frame.addressLow := by
      rw [addressOf, address]
      exact Addressing.absolute_segmented_of_lt hhigh hlow hmode
    exact ⟨hsum, by omega⟩

end Decoder

namespace Run

variable {κ σ : Type}

/-- After any operations on a new decoder, and also as a consumer finds the decoder, the address of the
record being read is exact. Different parts of 16 bits make different linear addresses. The address of
any other low part has 32 bits: those that joining or adding the parts without a limit leaves. -/
theorem addresses_exact (host : Host κ σ) (consumer : Option κ) (capacity : Nat)
    (supported : List Int) (world : σ) (traced : Bool) (ops : List (Operation κ)) :
    let d := ((start (.fresh consumer capacity supported) world traced).performAll host ops).2.decoder
    d.Addressed ∧ (∀ b, (d.advance b).1.Addressed) ∧
      (∀ high low other below : Nat, high < 2 ^ 16 → low < 2 ^ 16 → other < 2 ^ 16 →
        below < 2 ^ 16 → (high, low) ≠ (other, below) →
        Addressing.absolute ⟨.linear, high⟩ low ≠ Addressing.absolute ⟨.linear, other⟩ below) ∧
      ∀ low : Int, d.addressOf (some low) < 2 ^ 32 ∧
        (∀ other : Int, low ≡ other [ZMOD 2 ^ 32] →
          d.addressOf (some low) = d.addressOf (some other)) ∧
        (d.addressing.mode = .linear → (d.addressOf (some low) : Int) =
          Int.lor (d.addressing.high * 2 ^ 16) low % 2 ^ 32) ∧
        (d.addressing.mode = .segmented → (d.addressOf (some low) : Int) =
          (d.addressing.high * 16 + low) % 2 ^ 32) := by
  intro d
  have hs : d.Sound := stable_performAll Decoder.stable_sound host ops
    (Decoder.sound_fresh consumer capacity supported)
  refine ⟨hs.addressed, fun b => ?_, ?_, fun low => ⟨?_, ?_, ?_, ?_⟩⟩
  · exact (Decoder.stable_sound.advance d b hs).addressed
  · intro high low other below hhigh hlow hother hbelow hne heq
    obtain ⟨hhighs, hlows⟩ : high = other ∧ low = below :=
      Addressing.absolute_linear_injective hhigh hlow hother hbelow rfl rfl heq
    exact hne (Prod.ext hhighs hlows)
  · exact d.addressing.absolute_lt low
  · intro other h
    exact d.addressing.absolute_congr h
  · intro hmode
    exact Addressing.absolute_linear hmode low
  · intro hmode
    exact Addressing.absolute_segmented hmode low

/-- A segmented address that ends inside the next record, and a low part below zero that takes it
below zero: the first sum is exact, and of the second one the last 32 bits are left. -/
theorem addresses_exact_segmented :
    let host : Host Unit Unit := fun _ _ world => ({ verdict := .accept }, world)
    let text : List UInt8 :=
      [0x3A, 0x30, 0x32, 0x30, 0x30, 0x30, 0x30, 0x30, 0x32, 0x31, 0x30, 0x30, 0x30, 0x45, 0x43,
        0x3A, 0x30, 0x30, 0x46, 0x46, 0x46, 0x30]
    let d := ((start (.fresh (some ()) 2 [2]) () false).performAll host [.feed text none]).2.decoder
    d.addressing.mode = .segmented ∧ d.addressOf none = 0x1FFF0 ∧
      (d.addressOf (some (-0x10001)) : Int) = 0xFFFFFFFF := by
  intro host text d
  obtain ⟨haddressed, -, -, hany⟩ :=
    addresses_exact host (some ()) 2 [2] () false [.feed text none]
  obtain ⟨-, -, -, hsum⟩ := hany (-0x10001)
  refine ⟨by decide +kernel, ?_, ?_⟩
  · exact (haddressed.segmented (by decide +kernel)).1.trans (by decide +kernel)
  · exact (hsum (by decide +kernel)).trans (by decide +kernel)

end Run

end IntelHex
