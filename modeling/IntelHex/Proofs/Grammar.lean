import IntelHex.Decoder
import IntelHex.Proofs.Digits

/-!
# The language of records

The text of records without a decoder: a record is its bytes, a text is a sequence of records and line
ends, and what a record means is computed from its bytes. An address is computed from the last
extended address before it, so a sequence of tokens is given its data blocks from left to right.
-/

namespace IntelHex

/-- What a decoder is set up with. -/
structure Setting (κ : Type) where
  /-- The registered consumer. -/
  consumer : Option κ
  /-- The size of the payload buffer. -/
  capacity : Nat
  /-- The accepted record type codes. -/
  supported : List Int

/-- A new decoder with a setting. -/
def Setting.decoder {κ : Type} (setting : Setting κ) : Decoder κ :=
  .fresh setting.consumer setting.capacity setting.supported

/-- The setting of a decoder. -/
def Decoder.setting {κ : Type} (d : Decoder κ) : Setting κ :=
  ⟨d.consumer, d.capacity, d.supported⟩

/-- A record by its bytes; the first one is the length of the payload. -/
structure Record where
  /-- The higher byte of the address. -/
  addressHigh : UInt8
  /-- The lower byte of the address. -/
  addressLow : UInt8
  /-- The type code; its byte has no higher digit. -/
  code : Digit
  /-- The payload. -/
  payload : List UInt8
  /-- The last byte. -/
  checksum : UInt8
  /-- The length of the payload is a byte. -/
  short : payload.length < 256
deriving DecidableEq

namespace Record

variable {κ : Type}

/-- The bytes of a record in the order of the text. -/
def bytes (r : Record) : List UInt8 :=
  UInt8.ofNat r.payload.length :: r.addressHigh :: r.addressLow :: Digit.byte 0 r.code ::
    (r.payload ++ [r.checksum])

/-- The digits of a record. -/
def digits (r : Record) : List Digit :=
  Digit.ofBytes r.bytes

/-- The sum of all bytes, modulo 256. -/
def residue (r : Record) : UInt8 :=
  r.bytes.sum

/-- The type is accepted, and the payload fits into the buffer. -/
structure Admitted (setting : Setting κ) (r : Record) : Prop where
  supported : (r.code.val : Int) ∈ setting.supported
  fits : r.payload.length = 0 ∨ r.payload.length ≤ setting.capacity

/-- An admitted record is valid if its bytes sum up to zero. -/
structure Valid (setting : Setting κ) (r : Record) : Prop extends Admitted setting r where
  residue_eq : r.residue = 0

/-- The low half of the address. -/
def low (r : Record) : Nat :=
  256 * r.addressHigh.toNat + r.addressLow.toNat

/-- The number given by the first two payload bytes, a missing one counting as zero. -/
def extension (r : Record) : Nat :=
  256 * (r.payload.getD 0 0).toNat + (r.payload.getD 1 0).toNat

/-- The addressing after a record: type 2 and type 4 set it. -/
def extend (r : Record) (a : Addressing) : Addressing :=
  if r.code = 2 then ⟨.segmented, r.extension⟩
  else if r.code = 4 then ⟨.linear, r.extension⟩
  else a

/-- The address of a record under an addressing. -/
def address (r : Record) (a : Addressing) : Nat :=
  match a.mode with
  | .linear => (a.high <<< 16) ||| r.low
  | .segmented => (a.high <<< 4) + r.low

/-- The data block of a record. -/
def block (r : Record) (a : Addressing) : Delivery where
  address := r.address a
  data := r.payload
  size := r.payload.length

/-- The residue is the sum of all bytes as numbers, modulo 256. -/
theorem toNat_residue (r : Record) : r.residue.toNat = (r.bytes.map UInt8.toNat).sum % 256 := by
  rw [residue]
  induction r.bytes with
  | nil => rfl
  | cons b bytes ih =>
    rw [List.sum_cons, UInt8.toNat_add, ih, List.map_cons, List.sum_cons, Nat.add_mod_mod]

/-- The low half of the address has 16 bits. -/
theorem low_lt (r : Record) : r.low < 65536 := by
  have hhigh := r.addressHigh.toNat_lt
  have hlow := r.addressLow.toNat_lt
  rw [low]
  omega

/-- The first two payload bytes have 16 bits. -/
theorem extension_lt (r : Record) : r.extension < 65536 := by
  have hfirst := (r.payload.getD 0 0).toNat_lt
  have hsecond := (r.payload.getD 1 0).toNat_lt
  rw [extension]
  omega

/-- A record keeps the upper part of the addresses within 16 bits. -/
theorem extend_high_lt (r : Record) {a : Addressing} (ha : a.high < 65536) :
    (r.extend a).high < 65536 := by
  unfold extend
  split
  · exact r.extension_lt
  · split
    · exact r.extension_lt
    · exact ha

/-- Within 32 bits, the address of a record is that of its low half. -/
theorem absolute_low (r : Record) {a : Addressing} (ha : a.high < 65536) :
    a.absolute r.low = r.address a := by
  have hlow := r.low_lt
  unfold Addressing.absolute address
  cases a.mode with
  | linear =>
    simp only [BitVec.ofInt_natCast, BitVec.toNat_or, BitVec.toNat_shiftLeft, BitVec.toNat_ofNat]
    rw [Nat.mod_eq_of_lt (by omega : a.high < 2 ^ 32), Nat.mod_eq_of_lt (by omega : r.low < 2 ^ 32),
      Nat.mod_eq_of_lt]
    rw [Nat.shiftLeft_eq]
    omega
  | segmented =>
    simp only [BitVec.ofInt_natCast, BitVec.toNat_add, BitVec.toNat_shiftLeft, BitVec.toNat_ofNat,
      Nat.shiftLeft_eq]
    omega

end Record

/-- What texts of records are made of. -/
inductive Token
  | carriageReturn
  | lineFeed
  | record (r : Record)
deriving DecidableEq

namespace Token

variable {κ : Type}

/-- A line end is always valid. -/
def Valid (setting : Setting κ) : Token → Prop
  | .carriageReturn => True
  | .lineFeed => True
  | .record r => r.Valid setting

/-- The text of a token: one byte, or a colon and the digits of a record. -/
def Spells : Token → List UInt8 → Prop
  | .carriageReturn, text => text = [IntelHex.carriageReturn]
  | .lineFeed, text => text = [IntelHex.lineFeed]
  | .record r, text => ∃ body, text = recordMark :: body ∧ Digit.Spells r.digits body

/-- The text of tokens in a row, with nothing between them. -/
inductive SpellsAll : List Token → List UInt8 → Prop
  | nil : SpellsAll [] []
  | cons {token : Token} {tokens : List Token} {text rest : List UInt8}
      (hfirst : token.Spells text) (hrest : SpellsAll tokens rest) :
    SpellsAll (token :: tokens) (text ++ rest)

/-- The addressing after a token. -/
def extend (a : Addressing) : Token → Addressing
  | .record r => r.extend a
  | _ => a

/-- The data block of a token: a record of type 0 has one. -/
def block? (a : Addressing) : Token → Option Delivery
  | .record r => if r.code = 0 then some (r.block a) else none
  | _ => none

/-- The data blocks of tokens in a row, each under the addressing that the ones before it have set. -/
def blocks : Addressing → List Token → List Delivery
  | _, [] => []
  | a, token :: rest => (token.block? a).toList ++ blocks (token.extend a) rest

end Token

/-- What a text has come to: the addressing, and the state of the consumers. -/
structure Standing (σ : Type) where
  addressing : Addressing
  world : σ

namespace Token

variable {κ σ : Type}

/-- What a consumer says to a token, and what the token comes to. -/
def enact (host : Host κ σ) (consumer : Option κ) (s : Standing σ) (token : Token) :
    Verdict × Standing σ :=
  match consumer, token.block? s.addressing with
  | some consumer, some block =>
    ((host consumer block s.world).1.verdict,
      ⟨token.extend s.addressing, (host consumer block s.world).2⟩)
  | _, _ => (.accept, ⟨token.extend s.addressing, s.world⟩)

/-- Valid tokens in a row whose data blocks are all taken, and what they come to. -/
inductive Taken (host : Host κ σ) (setting : Setting κ) :
    Standing σ → List Token → Standing σ → Prop
  | nil {s : Standing σ} : Taken host setting s [] s
  | cons {s t u : Standing σ} {token : Token} {tokens : List Token} (hvalid : token.Valid setting)
      (htaken : token.enact host setting.consumer s = (.accept, t))
      (hrest : Taken host setting t tokens u) :
    Taken host setting s (token :: tokens) u

end Token

/-- The payload length that the first two digits of a record declare. -/
def Digit.declared (digits : List Digit) : Nat :=
  number (digits.take 2)

/-- Digits that begin a record and do not complete it. As far as they are there, the first digit of
the type is zero, and the second one is accepted and finds the declared payload fitting. -/
structure Unfinished {κ : Type} (setting : Setting κ) (digits : List Digit) : Prop where
  short : digits.length < 2 * (Digit.declared digits + 5)
  typeHigh : ∀ digit ∈ digits[6]?, digit = 0
  typeLow : ∀ code ∈ digits[7]?, (code.val : Int) ∈ setting.supported ∧
    (Digit.declared digits = 0 ∨ Digit.declared digits ≤ setting.capacity)

/-- The first byte of the input that no record or line end can hold, as seen from between two
records: why it is refused, and how many bytes stand before it. -/
inductive Defect {κ σ : Type} (host : Host κ σ) (setting : Setting κ) (s : Standing σ) :
    List UInt8 → Cause → Nat → Prop
  /-- Between records, neither a colon nor a line end. -/
  | start {b : UInt8} {rest : List UInt8} (hlf : b ≠ lineFeed) (hcr : b ≠ carriageReturn)
      (hmark : b ≠ recordMark) : Defect host setting s (b :: rest) (.invalidStart b) 0
  /-- Inside a record, no digit. -/
  | digit {digits : List Digit} {body rest : List UInt8} {b : UInt8}
      (hbody : Digit.Spells digits body) (hopen : Unfinished setting digits)
      (hb : Digit.ofByte? b = none) :
    Defect host setting s (recordMark :: (body ++ b :: rest)) (.invalidDigit b) (1 + body.length)
  /-- The first digit of the type is not zero. -/
  | typeNotSmall {digits : List Digit} {digit : Digit} {body rest : List UInt8}
      (hlength : digits.length = 6) (hbody : Digit.Spells (digits ++ [digit]) body)
      (hdigit : digit ≠ 0) : Defect host setting s (recordMark :: (body ++ rest)) .typeNotSmall 7
  /-- The type is not accepted, whether the payload fits or not. -/
  | unsupportedType {digits : List Digit} {code : Digit} {body rest : List UInt8}
      (hlength : digits.length = 6) (hbody : Digit.Spells (digits ++ [0, code]) body)
      (hcode : (code.val : Int) ∉ setting.supported) :
    Defect host setting s (recordMark :: (body ++ rest)) (.unsupportedType code) 8
  /-- The type is accepted, and the payload does not fit. -/
  | countOverflow {digits : List Digit} {code : Digit} {body rest : List UInt8}
      (hlength : digits.length = 6) (hbody : Digit.Spells (digits ++ [0, code]) body)
      (hcode : (code.val : Int) ∈ setting.supported) (hsome : 0 < Digit.declared digits)
      (hlarge : setting.capacity < Digit.declared digits) :
    Defect host setting s (recordMark :: (body ++ rest))
      (.countOverflow (Digit.declared digits) setting.capacity) 8
  /-- The bytes of the record do not sum up to zero. -/
  | checksum {r : Record} {body rest : List UInt8} (hadmitted : r.Admitted setting)
      (hbody : Digit.Spells r.digits body) (hsum : r.residue ≠ 0) :
    Defect host setting s (recordMark :: (body ++ rest)) (.checksumMismatch r.residue)
      (10 + 2 * r.payload.length)
  /-- The record is valid, and the consumer does not take its data block. -/
  | rejected {r : Record} {body rest : List UInt8} {consumer : κ} (hvalid : r.Valid setting)
      (hbody : Digit.Spells r.digits body) (hconsumer : setting.consumer = some consumer)
      (hcode : r.code = 0)
      (hreject : (host consumer (r.block s.addressing) s.world).1.verdict = .reject) :
    Defect host setting s (recordMark :: (body ++ rest)) (.rejected (r.address s.addressing))
      (10 + 2 * r.payload.length)

end IntelHex
