/-!
# CRC-32

The cyclic redundancy check of the polynomial 0xEDB88320, least significant bit first, with the
register complemented before and after. It is computed byte by byte from a table; a value can be
carried on over further bytes.
-/

namespace IntelHex.Crc32

/-- The polynomial, its coefficients in reflected order. -/
def polynomial : BitVec 32 := 0xEDB88320#32

/-- The register after one more bit. -/
def shift (register : BitVec 32) : BitVec 32 :=
  if register.getLsbD 0 then register >>> 1 ^^^ polynomial else register >>> 1

/-- The register after some more bits. -/
def shifts : Nat → BitVec 32 → BitVec 32
  | 0, register => register
  | n + 1, register => shifts n (shift register)

/-- What the lowest byte of the register contributes once it has been shifted out. -/
def table : Array (BitVec 32) :=
  Array.ofFn fun index : Fin 256 => shifts 8 (BitVec.ofNat 32 index)

/-- The register after one more byte. -/
def update (register : BitVec 32) (b : UInt8) : BitVec 32 :=
  table.getD ((register.truncate 8 ^^^ b.toBitVec).toNat) 0 ^^^ register >>> 8

/-- The register that carries on a check value. Any integer may be carried on; it counts modulo 2^32. -/
def carriedOn (previous : Int) : BitVec 32 :=
  ~~~(BitVec.ofInt 32 previous)

/-- The check value that a register stands for. -/
def value (register : BitVec 32) : Nat :=
  (~~~register).toNat

/-- The check value of some bytes, carried on from that of the bytes before them. -/
def ofBytes (data : List UInt8) (previous : Int) : Nat :=
  value (data.foldl update (carriedOn previous))

/-- The check value of several parts one after the other. -/
def ofParts (parts : List (List UInt8)) (previous : Int) : Int :=
  parts.foldl (fun value part => ofBytes part value) previous

/-- A check value has at most 32 bits. -/
theorem ofBytes_lt (data : List UInt8) (previous : Int) : ofBytes data previous < 0x100000000 :=
  BitVec.isLt _

end IntelHex.Crc32
