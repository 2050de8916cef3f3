import IntelHex.Record.Frame
import Mathlib.Data.List.Induction
import Mathlib.Data.UInt

/-!
# Lists of digits

What a decoder makes of the digits that it reads one by one, as functions of the whole list: the
number that they write, the bytes that they pair up to, the digit left over, and the bytes of a
buffer that is filled digit by digit. Each function comes with its equation for one more digit at the
end, which is what a step of the decoder is compared with.
-/

namespace IntelHex

namespace Digit

/-- The number that digits write, the first one being the highest. -/
def number (digits : List Digit) : Nat :=
  digits.foldl (fun n digit => 16 * n + digit.val) 0

/-- The bytes that digits pair up to; an odd last digit is left out. -/
def bytes : List Digit → List UInt8
  | high :: low :: rest => byte high low :: bytes rest
  | _ => []

/-- The last digit, if it is left over when the digits are paired. -/
def odd? : List Digit → Option Digit
  | [] => none
  | [digit] => some digit
  | _ :: _ :: rest => odd? rest

/-- The bytes that digits fill; an odd last digit stands in the low half of its byte. -/
def packed : List Digit → List UInt8
  | [] => []
  | [digit] => [byte 0 digit]
  | high :: low :: rest => byte high low :: packed rest

/-- A buffer of `capacity` bytes that begins with the bytes that digits fill. -/
def padded (capacity : Nat) (digits : List Digit) : List UInt8 :=
  packed digits ++ List.replicate (capacity - (packed digits).length) 0

/-- The digits of some bytes. -/
def ofBytes (bytes : List UInt8) : List Digit :=
  bytes.flatMap fun b => [high b, low b]

/-- A text spells digits if each of its bytes stands for one of them, in either letter case. -/
def Spells (digits : List Digit) (text : List UInt8) : Prop :=
  text.map ofByte? = digits.map some

/-- Whether a text spells digits is decided byte by byte. -/
instance (digits : List Digit) (text : List UInt8) : Decidable (Spells digits text) :=
  inferInstanceAs (Decidable (_ = _))

/-- One more digit multiplies the number by sixteen. -/
theorem number_concat (digits : List Digit) (digit : Digit) :
    number (digits ++ [digit]) = 16 * number digits + digit.val := by
  rw [number, List.foldl_append]
  rfl

/-- A number is bounded by its digits. -/
theorem number_lt (digits : List Digit) : number digits < 16 ^ digits.length := by
  induction digits using List.reverseRecOn with
  | nil => decide
  | append_singleton digits digit ih =>
    have hdigit := digit.isLt
    rw [number_concat, List.length_append, List.length_singleton, Nat.pow_succ]
    omega

/-- One more digit completes a byte or is left over. -/
theorem bytes_concat (digits : List Digit) (digit : Digit) :
    bytes (digits ++ [digit]) =
      match odd? digits with
      | some high => bytes digits ++ [byte high digit]
      | none => bytes digits := by
  fun_induction odd? digits with
  | case1 => rfl
  | case2 high => rfl
  | case3 first second rest ih =>
    simp only [List.cons_append, bytes, ih]
    split <;> rfl

/-- One more digit is left over exactly if none was. -/
theorem odd?_concat (digits : List Digit) (digit : Digit) :
    odd? (digits ++ [digit]) =
      match odd? digits with
      | some _ => none
      | none => some digit := by
  fun_induction odd? digits with
  | case1 => rfl
  | case2 high => rfl
  | case3 first second rest ih => simpa only [List.cons_append, odd?] using ih

/-- A digit is left over exactly if their number is odd. -/
theorem odd?_eq_none_iff (digits : List Digit) : odd? digits = none ↔ digits.length % 2 = 0 := by
  fun_induction odd? digits with
  | case1 => simp
  | case2 digit => simp
  | case3 first second rest ih =>
    rw [ih, List.length_cons, List.length_cons, Nat.add_assoc, Nat.add_mod_right]

/-- The two halves of a byte make it up. -/
theorem pushByte_byte (high low : Digit) : Frame.pushByte (byte 0 high) low = byte high low := by
  apply UInt8.toNat_inj.1
  have hhigh := high.isLt
  have hlow := low.isLt
  simp only [Frame.pushByte, byte, UInt8.toNat_add, UInt8.toNat_mul, UInt8.toNat_ofNat',
    UInt8.reduceToNat, Fin.val_zero]
  omega

/-- The first digit of a byte is its low half until the second one comes. -/
theorem pushByte_zero (digit : Digit) : Frame.pushByte 0 digit = byte 0 digit := by
  simp [Frame.pushByte, byte]

/-- The halves of a byte are found again. -/
theorem high_byte (first second : Digit) : high (byte first second) = first := by
  apply Fin.ext
  have hfirst := first.isLt
  have hsecond := second.isLt
  simp only [high, byte, UInt8.toNat_ofNat']
  omega

/-- The halves of a byte are found again. -/
theorem low_byte (first second : Digit) : low (byte first second) = second := by
  apply Fin.ext
  have hfirst := first.isLt
  have hsecond := second.isLt
  simp only [low, byte, UInt8.toNat_ofNat']
  omega

/-- Pushing a digit into the buffer where the digits end packs one digit more. -/
theorem set_padded {capacity : Nat} {digits : List Digit} {b : UInt8} (digit : Digit)
    (hplace : (padded capacity digits)[digits.length / 2]? = some b) :
    (padded capacity digits).set (digits.length / 2) (Frame.pushByte b digit) =
      padded capacity (digits ++ [digit]) := by
  fun_induction packed digits generalizing capacity with
  | case1 =>
    cases capacity with
    | zero => simp [padded, packed] at hplace
    | succ capacity =>
      simp only [padded, packed, List.length_nil, List.nil_append, Nat.sub_zero,
        List.replicate_succ, List.getElem?_cons_zero, Nat.zero_div, Option.some.injEq] at hplace
      subst hplace
      simp [padded, packed, List.replicate_succ, pushByte_zero]
  | case2 high =>
    simp only [padded, packed, List.singleton_append, List.length_singleton, Nat.reduceDiv,
      List.getElem?_cons_zero, Option.some.injEq] at hplace
    subst hplace
    simp [padded, packed, pushByte_byte]
  | case3 high low rest ih =>
    have hlength (n : Nat) : (n + 1 + 1) / 2 = n / 2 + 1 := by omega
    have hcons (tail : List Digit) :
        padded capacity (high :: low :: tail) = byte high low :: padded (capacity - 1) tail := by
      simp only [padded, packed, List.cons_append, List.length_cons]
      rw [Nat.sub_sub, Nat.add_comm 1]
    rw [hcons, List.length_cons, List.length_cons, hlength, List.getElem?_cons_succ] at hplace
    rw [hcons, List.length_cons, List.length_cons, hlength, List.set_cons_succ, ih hplace,
      List.cons_append, List.cons_append, hcons]

/-- Digits pair up to half as many bytes. -/
@[simp] theorem length_bytes (digits : List Digit) : (bytes digits).length = digits.length / 2 := by
  fun_induction odd? digits with
  | case1 => rfl
  | case2 digit => simp [bytes]
  | case3 first second rest ih =>
    rw [bytes, List.length_cons, ih, List.length_cons, List.length_cons]
    omega

/-- The complete ones among the bytes that digits fill are those that they pair up to. -/
theorem take_packed (digits : List Digit) :
    (packed digits).take (digits.length / 2) = bytes digits := by
  fun_induction odd? digits with
  | case1 => rfl
  | case2 digit => simp [bytes]
  | case3 first second rest ih =>
    have hlength : (first :: second :: rest).length / 2 = rest.length / 2 + 1 := by
      rw [List.length_cons, List.length_cons]
      omega
    rw [hlength, packed, List.take_succ_cons, ih, bytes]

/-- The digits of bytes pair up to these bytes. -/
@[simp] theorem bytes_ofBytes (data : List UInt8) : bytes (ofBytes data) = data := by
  induction data with
  | nil => rfl
  | cons b data ih =>
    rw [ofBytes, List.flatMap_cons]
    exact congrArg₂ List.cons (byte_high_low b) ih

/-- The digits of bytes fill these bytes. -/
@[simp] theorem packed_ofBytes (data : List UInt8) : packed (ofBytes data) = data := by
  induction data with
  | nil => rfl
  | cons b data ih =>
    rw [ofBytes, List.flatMap_cons]
    exact congrArg₂ List.cons (byte_high_low b) ih

/-- A byte has two digits. -/
@[simp] theorem length_ofBytes (data : List UInt8) : (ofBytes data).length = 2 * data.length := by
  induction data with
  | nil => rfl
  | cons b data ih =>
    rw [ofBytes, List.flatMap_cons, List.length_append]
    change 2 + (ofBytes data).length = 2 * (data.length + 1)
    omega

/-- Bytes in a row have their digits in a row. -/
theorem ofBytes_append (data rest : List UInt8) :
    ofBytes (data ++ rest) = ofBytes data ++ ofBytes rest :=
  List.flatMap_append

/-- A buffer has room for its size at least. -/
theorem le_length_padded (capacity : Nat) (digits : List Digit) :
    capacity ≤ (padded capacity digits).length := by
  rw [padded, List.length_append, List.length_replicate]
  omega

/-- Digits that pair up are the digits of their bytes. -/
theorem ofBytes_bytes {digits : List Digit} (h : odd? digits = none) :
    ofBytes (bytes digits) = digits := by
  fun_induction odd? digits with
  | case1 => rfl
  | case2 digit => cases h
  | case3 first second rest ih =>
    rw [bytes, ofBytes, List.flatMap_cons, high_byte, low_byte]
    exact congrArg ([first, second] ++ ·) (ih h)

/-- Digits that pair up fill the bytes that they pair up to. -/
theorem packed_eq_bytes {digits : List Digit} (h : odd? digits = none) :
    packed digits = bytes digits := by
  rw [← packed_ofBytes (bytes digits), ofBytes_bytes h]

/-- The number of a byte is written by its two digits. -/
theorem number_byte (b : UInt8) : number [high b, low b] = b.toNat := by
  simp only [number, high, low, List.foldl_cons, List.foldl_nil]
  omega

/-- A text spells as many digits as it has bytes. -/
theorem Spells.length_eq {digits : List Digit} {text : List UInt8} (h : Spells digits text) :
    text.length = digits.length := by
  simpa only [List.length_map] using congrArg List.length h

/-- Each byte of a text that spells digits stands for one. -/
theorem Spells.exists_of_mem {digits : List Digit} {text : List UInt8} (h : Spells digits text)
    {b : UInt8} (hb : b ∈ text) : ∃ digit, ofByte? b = some digit := by
  have hmem : ofByte? b ∈ digits.map some := h ▸ List.mem_map_of_mem hb
  obtain ⟨digit, -, hdigit⟩ := List.mem_map.1 hmem
  exact ⟨digit, hdigit.symm⟩

/-- Digits in a row are spelled by texts in a row. -/
theorem spells_append_iff {digits later : List Digit} {text : List UInt8} :
    Spells (digits ++ later) text ↔
      ∃ first behind, text = first ++ behind ∧ Spells digits first ∧ Spells later behind := by
  rw [Spells, List.map_append, List.map_eq_append_iff]
  exact ⟨fun ⟨first, behind, htext, hfirst, hbehind⟩ => ⟨first, behind, htext, hfirst, hbehind⟩,
    fun ⟨first, behind, htext, hfirst, hbehind⟩ => ⟨first, behind, htext, hfirst, hbehind⟩⟩

/-- A digit is spelled by one byte. -/
theorem spells_singleton_iff {digit : Digit} {text : List UInt8} :
    Spells [digit] text ↔ ∃ b, text = [b] ∧ ofByte? b = some digit := by
  rw [Spells, List.map_singleton, List.map_eq_singleton_iff]

/-- Every text is made of digits and what follows the last of them in a row. -/
theorem exists_spells (text : List UInt8) :
    ∃ digits body rest, text = body ++ rest ∧ Spells digits body ∧
      ∀ b ∈ rest.head?, ofByte? b = none := by
  induction text with
  | nil => exact ⟨[], [], [], rfl, rfl, nofun⟩
  | cons b text ih =>
    cases hb : ofByte? b with
    | none =>
      refine ⟨[], [], b :: text, rfl, rfl, ?_⟩
      rintro c ⟨⟩
      exact hb
    | some digit =>
      obtain ⟨digits, body, rest, rfl, hbody, hrest⟩ := ih
      refine ⟨digit :: digits, b :: body, rest, rfl, ?_, hrest⟩
      rw [Spells, List.map_cons, List.map_cons, hb, hbody]

end Digit

end IntelHex
