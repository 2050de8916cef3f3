/-!
# Payload buffers

A buffer has a fixed size and begins with all its bytes zero. It can be large, while a record fills but
its beginning; so it keeps its bytes up to the last one that was written. `Buffer.toList` shows all of
them, and every operation is that of the same name on this list.
-/

namespace IntelHex

/-- A buffer of fixed size. -/
structure Buffer where
  /-- The number of bytes. -/
  size : Nat
  /-- The first bytes; all that come after them are zero. -/
  written : List UInt8
  /-- No byte stands beyond the end. -/
  fits : written.length ≤ size
deriving DecidableEq, Repr

namespace Buffer

/-- A buffer of zeros. -/
def zeroed (size : Nat) : Buffer :=
  ⟨size, [], Nat.zero_le size⟩

/-- The written bytes, with zeros after them up to a length of `count`. -/
def upTo (b : Buffer) (count : Nat) : List UInt8 :=
  b.written ++ List.replicate (count - b.written.length) 0

/-- All bytes. -/
def toList (b : Buffer) : List UInt8 :=
  b.upTo b.size

/-- The byte at an index, if the buffer reaches that far. -/
def get? (b : Buffer) (i : Nat) : Option UInt8 :=
  if i < b.size then some (b.written.getD i 0) else none

/-- The first bytes. -/
def take (b : Buffer) (count : Nat) : List UInt8 :=
  (b.upTo (min count b.size)).take count

/-- Zeros up to a length within the size leave the bytes within the size. -/
theorem length_upTo_le (b : Buffer) {count : Nat} (h : count ≤ b.size) :
    (b.upTo count).length ≤ b.size := by
  have := b.fits
  simp only [upTo, List.length_append, List.length_replicate]
  omega

/-- Writes the byte at an index, if the buffer reaches that far. -/
def set (b : Buffer) (i : Nat) (x : UInt8) : Buffer :=
  if h : i < b.size then
    ⟨b.size, (b.upTo (i + 1)).set i x, by rw [List.length_set]; exact b.length_upTo_le h⟩
  else b

/-- A buffer shows as many bytes as it has. -/
theorem length_toList (b : Buffer) : b.toList.length = b.size := by
  have := b.fits
  simp only [toList, upTo, List.length_append, List.length_replicate]
  omega

/-- A new buffer shows zeros. -/
theorem toList_zeroed (size : Nat) : (zeroed size).toList = List.replicate size 0 := by
  simp [zeroed, toList, upTo]

/-- With zeros after what is written, an index shows what it shows in the buffer. -/
theorem getElem?_upTo (b : Buffer) {count i : Nat} (h : i < count) :
    (b.upTo count)[i]? = some (b.written.getD i 0) := by
  unfold upTo
  by_cases hinside : i < b.written.length
  · rw [List.getElem?_append_left hinside, List.getD_eq_getElem?_getD,
      List.getElem?_eq_getElem hinside, Option.getD_some]
  · rw [List.getElem?_append_right (Nat.le_of_not_lt hinside), List.getElem?_replicate,
      if_pos (by omega), List.getD_eq_getElem?_getD, List.getElem?_eq_none (by omega),
      Option.getD_none]

/-- The byte at an index is that of the list. -/
theorem get?_eq (b : Buffer) (i : Nat) : b.get? i = b.toList[i]? := by
  unfold get?
  split
  · next h => exact (b.getElem?_upTo h).symm
  · next h => rw [List.getElem?_eq_none (by rw [length_toList]; omega)]

/-- The first bytes are those of the list. -/
theorem take_eq (b : Buffer) (count : Nat) : b.take count = b.toList.take count := by
  apply List.ext_getElem?
  intro i
  have hpadded : (b.upTo (min count b.size)).length = max b.written.length (min count b.size) := by
    simp only [upTo, List.length_append, List.length_replicate]
    omega
  rw [take, List.getElem?_take, List.getElem?_take]
  split
  · by_cases hinside : i < b.size
    · rw [b.getElem?_upTo (by omega), ← b.get?_eq, get?, if_pos hinside]
    · rw [← b.get?_eq, get?, if_neg hinside, List.getElem?_eq_none]
      have := b.fits
      omega
  · rfl

/-- Writing a byte keeps the size. -/
theorem size_set (b : Buffer) (i : Nat) (x : UInt8) : (b.set i x).size = b.size := by
  unfold set
  split <;> rfl

/-- A byte is written into the list. -/
theorem toList_set (b : Buffer) (i : Nat) (x : UInt8) : (b.set i x).toList = b.toList.set i x := by
  apply List.ext_getElem?
  intro j
  rw [← get?_eq, List.getElem?_set, length_toList, ← get?_eq]
  unfold get?
  rw [size_set]
  unfold set
  by_cases h : i < b.size
  · rw [dif_pos h, if_pos h]
    by_cases hhere : i = j
    · subst hhere
      have hlong : i < (b.upTo (i + 1)).length := by
        simp only [upTo, List.length_append, List.length_replicate]
        omega
      simp [h, hlong]
    · by_cases hinside : j < b.size
      · rw [if_pos hinside, if_neg hhere, if_pos hinside]
        simp only [List.getD_eq_getElem?_getD]
        rw [List.getElem?_set_ne hhere]
        by_cases hnear : j < i + 1
        · rw [b.getElem?_upTo hnear, Option.getD_some, List.getD_eq_getElem?_getD]
        · congr 1
          unfold upTo
          by_cases hearly : j < b.written.length
          · rw [List.getElem?_append_left hearly]
          · rw [List.getElem?_append_right (by omega), List.getElem?_replicate, if_neg (by omega),
              List.getElem?_eq_none (by omega)]
      · rw [if_neg hinside, if_neg hhere, if_neg hinside]
  · rw [dif_neg h, if_neg h]
    by_cases hhere : i = j
    · subst hhere
      rw [if_pos rfl, if_neg h]
    · rw [if_neg hhere]

end Buffer

end IntelHex
