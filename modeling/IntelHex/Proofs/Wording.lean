import IntelHex.Decoder
import IntelHex.Text.ControlSequence
import IntelHex.Proofs.HexText

/-!
# What the texts say

The texts of failures and of records, spelled out. A number in them stands there by its digits, in
capital letters and as many as its width asks for, and a record is told by what its type code means.
None of the texts of a failure holds an escape character, so they are written as they are where text is
not meant for a terminal.
-/

namespace IntelHex

/-- Some digits as they stand in a message: behind the mark `0x`, in capital letters. -/
def Digit.shown (digits : List Digit) : String :=
  "0x" ++ String.ofList (digits.map (·.char .upper))

namespace Text.Hex

/-- A number is shown by the digits that write it, if they are as many as its width. -/
theorem marked_number {digits : List Digit} (hne : digits ≠ []) :
    marked digits.length (Digit.number digits) = Digit.shown digits := by
  rw [marked, padded_number .upper hne, Digit.shown]

/-- A number that fits its width is shown by as many digits. -/
theorem exists_marked {width n : Nat} (hwidth : 0 < width) (h : n < 16 ^ width) :
    ∃ digits : List Digit, digits.length = width ∧ Digit.number digits = n ∧
      marked width n = Digit.shown digits :=
  ⟨places width n, length_places hwidth h, number_places width n, by
    rw [marked, padded_eq, Digit.shown]⟩

/-- An address is shown by eight digits. -/
theorem exists_marked_absolute (a : Addressing) (low : Int) :
    ∃ digits : List Digit, digits.length = 8 ∧ Digit.number digits = a.absolute low ∧
      marked 8 (a.absolute low) = Digit.shown digits :=
  exists_marked (by decide) (a.absolute_lt low)

end Text.Hex

namespace Cause

/-- A type code is told by two digits, the first of which is zero. -/
theorem message_unsupportedType (code : Digit) :
    (unsupportedType code).message = "unsupported record type: " ++ Digit.shown [0, code] := by
  have hshown := Text.Hex.marked_number (List.cons_ne_nil 0 [code])
  have hnumber : Digit.number [0, code] = code.val := by simp [Digit.number]
  rw [hnumber] at hshown
  exact congrArg ("unsupported record type: " ++ ·) hshown

/-- A wrong residue is told by its two digits. -/
theorem message_checksumMismatch {residue : UInt8} {high low : Digit}
    (h : residue.toNat = 16 * high.val + low.val) :
    (checksumMismatch residue).message = "checksum mismatch: residue " ++ Digit.shown [high, low] := by
  have hnumber : residue.toNat = Digit.number [high, low] := by
    rw [h]
    simp [Digit.number]
  have hshown := Text.Hex.marked_number (List.cons_ne_nil high [low])
  rw [← hnumber] at hshown
  exact congrArg ("checksum mismatch: residue " ++ ·) hshown

/-- The address of a refused block is told by its eight digits. -/
theorem message_rejected {address : Nat} {digits : List Digit} (hlength : digits.length = 8)
    (h : Digit.number digits = address) :
    (rejected address).message = "data block rejected at " ++ Digit.shown digits := by
  have hshown := Text.Hex.marked_number (List.ne_nil_of_length_eq_add_one hlength)
  rw [h, hlength] at hshown
  exact congrArg ("data block rejected at " ++ ·) hshown

/-- What is said of a cause. -/
inductive Tells : Cause → String → Prop
  /-- The byte that begins nothing, between quotation marks. -/
  | invalidStart (b : UInt8) :
    Tells (.invalidStart b) ("invalid start code: " ++ String.ofList (Text.Quoted.bytes [b]))
  /-- The byte that is no digit, between quotation marks. -/
  | invalidDigit (b : UInt8) :
    Tells (.invalidDigit b) ("invalid hex digit: " ++ String.ofList (Text.Quoted.bytes [b]))
  /-- No number. -/
  | typeNotSmall : Tells .typeNotSmall "record type high nibble not zero"
  /-- The type code by two digits, the first of which is zero. -/
  | unsupportedType (code : Digit) :
    Tells (.unsupportedType code) ("unsupported record type: " ++ Digit.shown [0, code])
  /-- Both numbers of bytes. -/
  | countOverflow (declared capacity : Nat) :
    Tells (.countOverflow declared capacity)
      ("byte count overflow: " ++ toString declared ++ " > " ++ toString capacity)
  /-- Both numbers of bytes. -/
  | countMismatch (declared found : Nat) :
    Tells (.countMismatch declared found)
      ("byte count mismatch: " ++ toString declared ++ " declared, " ++ toString found ++ " found")
  /-- The residue by its two digits. -/
  | checksumMismatch {residue : UInt8} {high low : Digit}
      (hresidue : residue.toNat = 16 * high.val + low.val) :
    Tells (.checksumMismatch residue) ("checksum mismatch: residue " ++ Digit.shown [high, low])
  /-- The address of the block by its eight digits. -/
  | rejected {address : Nat} {digits : List Digit} (hlength : digits.length = 8)
      (haddress : Digit.number digits = address) :
    Tells (.rejected address) ("data block rejected at " ++ Digit.shown digits)

/-- What is said of a cause is its wording. -/
theorem Tells.eq_message {cause : Cause} {text : String} (h : cause.Tells text) :
    text = cause.message := by
  cases h with
  | unsupportedType code => exact (message_unsupportedType code).symm
  | checksumMismatch hresidue => exact (message_checksumMismatch hresidue).symm
  | rejected hlength haddress => exact (message_rejected hlength haddress).symm
  | _ => rfl

/-- Every cause with an address of 32 bits, if it has one, is told by its wording. -/
theorem tells_message {cause : Cause} (h : ∀ address, cause = .rejected address → address < 2 ^ 32) :
    cause.Tells cause.message := by
  cases cause with
  | invalidStart b => exact .invalidStart b
  | invalidDigit b => exact .invalidDigit b
  | typeNotSmall => exact .typeNotSmall
  | unsupportedType code => exact message_unsupportedType code ▸ .unsupportedType code
  | countOverflow declared capacity => exact .countOverflow declared capacity
  | countMismatch declared found => exact .countMismatch declared found
  | checksumMismatch residue =>
    have hlt := residue.toNat_lt
    let high : Digit := ⟨residue.toNat / 16, by omega⟩
    let low : Digit := ⟨residue.toNat % 16, by omega⟩
    have hresidue : residue.toNat = 16 * high.val + low.val := (Nat.div_add_mod _ 16).symm
    exact message_checksumMismatch hresidue ▸ .checksumMismatch hresidue
  | rejected address =>
    obtain ⟨digits, hlength, haddress, -⟩ :=
      Text.Hex.exists_marked (by decide : 0 < 8) (h address rfl)
    exact message_rejected hlength haddress ▸ .rejected hlength haddress

end Cause

/-! ### Records -/

namespace Kind

/-- A type code that has a meaning is the code of its kind. -/
theorem code_of_ofCode? {code : Digit} {kind : Kind} (h : ofCode? code.val = some kind) :
    code.val = kind.code := by
  revert code
  cases kind <;> decide

/-- A type code without a meaning is above those that have one. -/
theorem five_lt_of_ofCode? {code : Digit} (h : ofCode? code.val = none) : 5 < code.val := by
  revert code
  decide

end Kind

namespace Decoder

variable {κ : Type}

/-- What is told of the record being read once it has passed its checks, by its type code. -/
inductive Tells (d : Decoder κ) : String → Prop
  /-- A data record: its absolute address and its bytes. -/
  | data {digits : List Digit} (hcode : d.frame.typeCode.val = 0) (hlength : digits.length = 8)
      (haddress : Digit.number digits = d.address) :
    Tells d ("data (" ++ Digit.shown digits ++ "): " ++
      String.ofList ((Digit.ofBytes d.frame.data).map (·.char .upper)))
  /-- The end of the file. -/
  | endOfFile (hcode : d.frame.typeCode.val = 1) : Tells d "end of file"
  /-- An extended segment address: what low part zero comes to from now on. -/
  | extendedSegment {digits : List Digit} (hcode : d.frame.typeCode.val = 2)
      (hlength : digits.length = 8)
      (hbase : Digit.number digits = Addressing.absolute ⟨.segmented, d.frame.extension⟩ 0) :
    Tells d ("extended segment address: " ++ Digit.shown digits)
  /-- A start segment address. -/
  | startSegment (hcode : d.frame.typeCode.val = 3) : Tells d "start segment address"
  /-- An extended linear address: what low part zero comes to from now on. -/
  | extendedLinear {digits : List Digit} (hcode : d.frame.typeCode.val = 4)
      (hlength : digits.length = 8)
      (hbase : Digit.number digits = Addressing.absolute ⟨.linear, d.frame.extension⟩ 0) :
    Tells d ("extended linear address: " ++ Digit.shown digits)
  /-- A start linear address. -/
  | startLinear (hcode : d.frame.typeCode.val = 5) : Tells d "start linear address"
  /-- A record with a type code that has no meaning: the code. -/
  | ignored {digits : List Digit} (hcode : 5 < d.frame.typeCode.val) (hlength : digits.length = 2)
      (hnumber : Digit.number digits = d.frame.typeCode.val) :
    Tells d ("record type " ++ Digit.shown digits ++ " ignored")

/-- The message of a record that has passed its checks tells it. -/
theorem tells_recordEvent (d : Decoder κ) :
    d.Tells ({ d with addressing := d.extendedAddressing }.recordEvent).message := by
  have hkind : { d with addressing := d.extendedAddressing }.kind? = d.kind? := rfl
  rw [recordEvent, hkind, extendedAddressing]
  cases hcode : d.kind? with
  | none =>
    obtain ⟨digits, hlength, hnumber, hshown⟩ := Text.Hex.exists_marked (by decide : 0 < 2)
      (Nat.lt_trans d.frame.typeCode.isLt (by decide))
    rw [Event.message, hshown]
    exact .ignored (Kind.five_lt_of_ofCode? hcode) hlength hnumber
  | some kind =>
    have hvalue := Kind.code_of_ofCode? hcode
    cases kind with
    | data =>
      obtain ⟨digits, hlength, hnumber, hshown⟩ :=
        Text.Hex.exists_marked_absolute d.addressing d.frame.addressLow
      have hmessage : (Event.data d.address d.frame.data).message = _ :=
        congrArg ("data (" ++ · ++ "): " ++ _) hshown
      rw [Text.Hex.ofBytes_eq] at hmessage
      exact hmessage ▸ .data hvalue hlength hnumber
    | endOfFile => exact .endOfFile hvalue
    | extendedSegmentAddress =>
      obtain ⟨digits, hlength, hnumber, hshown⟩ :=
        Text.Hex.exists_marked_absolute ⟨.segmented, d.frame.extension⟩ 0
      rw [Event.message, hshown]
      exact .extendedSegment hvalue hlength hnumber
    | startSegmentAddress => exact .startSegment hvalue
    | extendedLinearAddress =>
      obtain ⟨digits, hlength, hnumber, hshown⟩ :=
        Text.Hex.exists_marked_absolute ⟨.linear, d.frame.extension⟩ 0
      rw [Event.message, hshown]
      exact .extendedLinear hvalue hlength hnumber
    | startLinearAddress => exact .startLinear hvalue

end Decoder

/-! ### No escape characters -/

namespace Text

open ControlSequence (escapeChar)

/-- Texts without escape characters are put together to one without them. -/
theorem escapeChar_not_mem_append {first second : String} (hfirst : escapeChar ∉ first.toList)
    (hsecond : escapeChar ∉ second.toList) : escapeChar ∉ (first ++ second).toList := by
  rw [String.toList_append, List.mem_append, not_or]
  exact ⟨hfirst, hsecond⟩

/-- A digit is no escape character. -/
theorem escapeChar_not_mem_chars (letters : LetterCase) (digits : List Digit) :
    escapeChar ∉ digits.map (·.char letters) := by
  have hother : ∀ digit : Digit, digit.char letters ≠ escapeChar := by cases letters <;> decide
  intro hmem
  obtain ⟨digit, -, heq⟩ := List.mem_map.1 hmem
  exact hother digit heq

/-- A number in a message holds no escape character. -/
theorem escapeChar_not_mem_marked (width n : Nat) : escapeChar ∉ (Hex.marked width n).toList := by
  refine escapeChar_not_mem_append (by decide) ?_
  rw [String.toList_ofList, Hex.padded_eq]
  exact escapeChar_not_mem_chars _ _

/-- A number in decimal digits holds no escape character. -/
theorem escapeChar_not_mem_toString (n : Nat) : escapeChar ∉ (toString n).toList := by
  rw [Nat.toString_eq_ofList_toDigits, String.toList_ofList]
  intro hmem
  exact absurd (Nat.isDigit_of_mem_toDigits (by decide) (by decide) hmem) (by decide)

/-- The escape of a code point is written without an escape character. -/
theorem escapeChar_not_mem_codeEscape (code : Nat) : escapeChar ∉ Quoted.codeEscape code := by
  have hdigits (width : Nat) : escapeChar ∉ Hex.padded .lower width code := by
    rw [Hex.padded_eq]
    exact escapeChar_not_mem_chars .lower _
  unfold Quoted.codeEscape
  split
  · exact List.not_mem_append (by decide) (hdigits 2)
  · split
    · exact List.not_mem_append (by decide) (hdigits 4)
    · exact List.not_mem_append (by decide) (hdigits 8)

/-- A character is written without an escape character, if only visible ones are shown. -/
theorem escapeChar_not_mem_escape {quote : Char} (hquote : quote ≠ escapeChar) (c : Char) :
    escapeChar ∉ Quoted.escape Quoted.isVisibleAscii quote c := by
  unfold Quoted.escape
  split
  · next hmarked =>
    have hother : escapeChar ≠ c := by
      rintro rfl
      exact hmarked.elim (fun hsame => hquote hsame.symm) (by decide)
    simpa using ⟨by decide, hother⟩
  · repeat' split
    · decide
    · decide
    · decide
    · next hshown =>
      rw [List.mem_singleton]
      rintro rfl
      exact absurd hshown (by decide)
    · exact escapeChar_not_mem_codeEscape c.toNat

/-- A byte between quotation marks is written without an escape character. -/
theorem escapeChar_not_mem_quoted (b : UInt8) : escapeChar ∉ Quoted.bytes [b] := by
  have hquote : Quoted.mark [Quoted.charOfByte b] ≠ escapeChar := by
    unfold Quoted.mark
    split <;> decide
  have hcontent := escapeChar_not_mem_escape hquote (Quoted.charOfByte b)
  have hother : escapeChar ≠ 'b' := by decide
  rw [Quoted.bytes, Quoted.enclosed]
  simp [hcontent, Ne.symm hquote, hother]

end Text

/-- What is said of a failure holds no escape character. -/
theorem Cause.escapeChar_not_mem_message (cause : Cause) :
    Text.ControlSequence.escapeChar ∉ cause.message.toList := by
  open Text in
  cases cause with
  | invalidStart b | invalidDigit b =>
    refine escapeChar_not_mem_append (by decide) ?_
    rw [String.toList_ofList]
    exact escapeChar_not_mem_quoted b
  | typeNotSmall => decide
  | unsupportedType code => exact escapeChar_not_mem_append (by decide) (escapeChar_not_mem_marked _ _)
  | countOverflow declared capacity =>
    exact escapeChar_not_mem_append (escapeChar_not_mem_append (escapeChar_not_mem_append (by decide)
      (escapeChar_not_mem_toString _)) (by decide)) (escapeChar_not_mem_toString _)
  | countMismatch declared found =>
    exact escapeChar_not_mem_append (escapeChar_not_mem_append (escapeChar_not_mem_append
      (escapeChar_not_mem_append (by decide) (escapeChar_not_mem_toString _)) (by decide))
        (escapeChar_not_mem_toString _)) (by decide)
  | checksumMismatch residue =>
    exact escapeChar_not_mem_append (by decide) (escapeChar_not_mem_marked _ _)
  | rejected address => exact escapeChar_not_mem_append (by decide) (escapeChar_not_mem_marked _ _)

end IntelHex
