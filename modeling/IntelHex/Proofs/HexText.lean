import Mathlib.Data.List.Basic
import IntelHex.Text.Hex
import IntelHex.Proofs.Digits

/-!
# Hexadecimal text is read back

A number filled up to a width that holds it has exactly as many digits, and they write the number. The
text of bytes consists of their digits. So both texts tell what they were made of, in either letter
case, and a number in front of a text can be told apart from the text.
-/

namespace IntelHex

namespace Digit

/-- A digit has the character with its code. -/
theorem toNat_char (letters : LetterCase) (d : Digit) : (d.char letters).toNat = d.code letters := by
  revert d
  cases letters <;> decide

/-- Digits have different characters in one letter case. -/
theorem char_injective (letters : LetterCase) : Function.Injective (char letters) := by
  intro d e h
  have hcode := congrArg (fun c : Char => ofCode? c.toNat) h
  simp only [toNat_char, ofCode?_code, Option.some.injEq] at hcode
  exact hcode

/-- Zeros in front of digits do not count. -/
theorem number_replicate_append (count : Nat) (digits : List Digit) :
    number (List.replicate count 0 ++ digits) = number digits := by
  induction count with
  | zero => rfl
  | succ count ih =>
    rw [List.replicate_succ, List.cons_append]
    exact ih

/-- Digits of one length write different numbers. -/
theorem number_inj {digits other : List Digit} (hlength : digits.length = other.length)
    (h : number digits = number other) : digits = other := by
  induction digits using List.reverseRecOn generalizing other with
  | nil => exact (List.length_eq_zero_iff.1 hlength.symm).symm
  | append_singleton digits digit ih =>
    rcases List.eq_nil_or_concat' other with rfl | ⟨other, last, rfl⟩
    · simp at hlength
    · rw [List.length_append, List.length_append] at hlength
      rw [number_concat, number_concat] at h
      have hdigit : digit = last := Fin.ext (by omega)
      rw [ih (Nat.add_right_cancel hlength) (by omega), hdigit]

end Digit

namespace Text.Hex

/-- The digits of a number write it. -/
theorem number_digits (n : Nat) : Digit.number (digits n) = n := by
  fun_induction digits n with
  | case1 n h => simp [Digit.number, Nat.mod_eq_of_lt h]
  | case2 n h ih =>
    rw [Digit.number_concat, ih, Fin.val_ofNat]
    omega

/-- A number below a power of sixteen has no more digits than its exponent. -/
theorem length_digits_le {n width : Nat} (hwidth : 0 < width) (h : n < 16 ^ width) :
    (digits n).length ≤ width := by
  fun_induction digits n generalizing width with
  | case1 n hsmall => exact hwidth
  | case2 n hlarge ih =>
    obtain ⟨width, rfl⟩ := Nat.exists_eq_succ_of_ne_zero (Nat.ne_of_gt hwidth)
    rw [Nat.pow_succ] at h
    have hpos : 0 < width := by
      rcases Nat.eq_zero_or_pos width with rfl | hpos
      · omega
      · exact hpos
    have hfront := ih hpos (by omega)
    rw [List.length_append, List.length_singleton]
    omega

/-- The digits of a number with zeros in front up to a width. -/
def places (width n : Nat) : List Digit :=
  List.replicate (width - (digits n).length) 0 ++ digits n

/-- The places of a number write it. -/
@[simp] theorem number_places (width n : Nat) : Digit.number (places width n) = n := by
  rw [places, Digit.number_replicate_append, number_digits]

/-- A number that fits has as many places as the width. -/
theorem length_places {width n : Nat} (hwidth : 0 < width) (h : n < 16 ^ width) :
    (places width n).length = width := by
  have hle := length_digits_le hwidth h
  rw [places, List.length_append, List.length_replicate]
  omega

/-- A number is filled up with the characters of its places. -/
theorem padded_eq (letters : LetterCase) (width n : Nat) :
    padded letters width n = (places width n).map (·.char letters) := by
  have hzero : (0 : Digit).char letters = '0' := by cases letters <;> decide
  rw [padded, zeroFilled, ofNat, places, List.map_append, List.map_replicate, List.length_map, hzero]

/-- Digits that write a number are what it is filled up to. -/
theorem padded_number (letters : LetterCase) {digits : List Digit} (hne : digits ≠ []) :
    padded letters digits.length (Digit.number digits) = digits.map (·.char letters) := by
  have hlength := length_places (List.length_pos_iff.2 hne) (Digit.number_lt digits)
  rw [padded_eq, Digit.number_inj hlength (number_places _ _)]

/-- The text of bytes consists of the characters of their digits. -/
theorem ofBytes_eq (letters : LetterCase) (data : List UInt8) :
    ofBytes letters data = (Digit.ofBytes data).map (·.char letters) := by
  rw [ofBytes, Digit.ofBytes, List.map_flatMap]
  rfl

/-- Different bytes have different texts. -/
theorem ofBytes_injective (letters : LetterCase) : Function.Injective (ofBytes letters) := by
  intro data other h
  rw [ofBytes_eq, ofBytes_eq] at h
  have hdigits := (Digit.char_injective letters).list_map h
  simpa using congrArg Digit.bytes hdigits

/-- The width separates a number from the text behind it. -/
theorem padded_append_inj (letters : LetterCase) {width n m : Nat} {rest behind : List Char}
    (hwidth : 0 < width) (hn : n < 16 ^ width) (hm : m < 16 ^ width)
    (h : padded letters width n ++ rest = padded letters width m ++ behind) :
    n = m ∧ rest = behind := by
  rw [padded_eq, padded_eq] at h
  have hparts := List.append_inj h
    (by rw [List.length_map, List.length_map, length_places hwidth hn, length_places hwidth hm])
  have hplaces := (Digit.char_injective letters).list_map hparts.1
  exact ⟨by simpa using congrArg Digit.number hplaces, hparts.2⟩

end Text.Hex

end IntelHex
