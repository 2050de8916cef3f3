import IntelHex.Crc32

/-!
# Equal bytes in a row

A byte changes the register in two ways: what it adds does not depend on the register, and what becomes
of the register is linear, so it is settled by what becomes of each single bit. Such an effect can be
doubled at once, and a long row of equal bytes is taken in as many steps as its length has binary
digits. `repeated_eq` says that this gives the same as taking the bytes one by one.
-/

namespace IntelHex.Crc32

/-- The image of a register under a linear map, which is given by the images of the bits from the lowest
one on. -/
def combine : (columns : List (BitVec 32)) → (register : BitVec 32) → BitVec 32
  | [], _ => 0#32
  | column :: rest, register =>
    (if register.getLsbD 0 then column else 0#32) ^^^ combine rest (register >>> 1)

/-- The registers of one bit. -/
def bits : List (BitVec 32) :=
  (List.range' 0 32).map (BitVec.twoPow 32)

/-- What some bytes do to the register. -/
structure Effect where
  /-- The image of each bit of the register. -/
  columns : List (BitVec 32)
  /-- What is added, whatever the register. -/
  offset : BitVec 32
deriving DecidableEq, Repr

namespace Effect

/-- The register after the effect. -/
def apply (e : Effect) (register : BitVec 32) : BitVec 32 :=
  combine e.columns register ^^^ e.offset

/-- The effect of one byte. -/
def ofByte (b : UInt8) : Effect :=
  ⟨bits.map fun bit => update bit 0, update 0#32 b⟩

/-- The effect twice. -/
def twice (e : Effect) : Effect :=
  ⟨e.columns.map (combine e.columns), e.apply e.offset⟩

/-- The register after the effect has taken place `count` times. -/
def times (e : Effect) (count : Nat) (register : BitVec 32) : BitVec 32 :=
  if count = 0 then register
  else if count % 2 = 1 then e.twice.times (count / 2) (e.apply register)
  else e.twice.times (count / 2) register
termination_by count

end Effect

/-- The register after `count` bytes that are all the same. -/
def repeated (b : UInt8) (count : Nat) (register : BitVec 32) : BitVec 32 :=
  (Effect.ofByte b).times count register

/-! ### Linearity -/

/-- The polynomial is added twice or not at all. -/
theorem xor_xor_cancel (a b p : BitVec 32) : a ^^^ p ^^^ (b ^^^ p) = a ^^^ b := by
  rw [BitVec.xor_assoc, ← BitVec.xor_assoc p b p, BitVec.xor_comm p b, BitVec.xor_assoc b p p,
    BitVec.xor_self, BitVec.xor_zero]

/-- One more bit is linear. -/
theorem shift_xor (a b : BitVec 32) : shift (a ^^^ b) = shift a ^^^ shift b := by
  unfold shift
  rw [BitVec.getLsbD_xor, BitVec.ushiftRight_xor_distrib]
  cases a.getLsbD 0 <;> cases b.getLsbD 0
  · rfl
  · exact BitVec.xor_assoc _ _ _
  · simp only [Bool.xor_false, if_true, Bool.false_eq_true, if_false]
    rw [BitVec.xor_assoc, BitVec.xor_comm (b >>> 1), ← BitVec.xor_assoc]
  · exact (xor_xor_cancel _ _ _).symm

/-- Some more bits are linear. -/
theorem shifts_xor (n : Nat) (a b : BitVec 32) : shifts n (a ^^^ b) = shifts n a ^^^ shifts n b := by
  induction n generalizing a b with
  | zero => rfl
  | succ n ih => rw [shifts, shift_xor, ih, shifts, shifts]

/-- The table holds eight shifts of each byte. -/
theorem table_getD (x : BitVec 8) : table.getD x.toNat 0 = shifts 8 (x.setWidth 32) := by
  have hinside : x.toNat < table.size := by
    rw [table, Array.size_ofFn]
    exact x.isLt
  rw [Array.getD_eq_getD_getElem?, Array.getElem?_eq_getElem hinside, Option.getD_some]
  simp only [table, Array.getElem_ofFn]
  rw [← BitVec.ofNat_toNat]

/-- A byte is taken in by eight shifts of what it makes of the lowest byte of the register. -/
theorem update_eq (register : BitVec 32) (b : UInt8) :
    update register b =
      shifts 8 ((register.truncate 8 ^^^ b.toBitVec).setWidth 32) ^^^ register >>> 8 := by
  rw [update, table_getD]

/-- One more byte is linear in the register and the byte together. -/
theorem update_xor (a b : BitVec 32) (x y : UInt8) :
    update (a ^^^ b) (x ^^^ y) = update a x ^^^ update b y := by
  have hlow : ((a ^^^ b).truncate 8 ^^^ (x ^^^ y).toBitVec).setWidth 32 =
      (a.truncate 8 ^^^ x.toBitVec).setWidth 32 ^^^ (b.truncate 8 ^^^ y.toBitVec).setWidth 32 := by
    simp only [BitVec.truncate_eq_setWidth, BitVec.setWidth_xor, UInt8.toBitVec_xor]
    ac_rfl
  rw [update_eq, update_eq, update_eq, hlow, shifts_xor, BitVec.ushiftRight_xor_distrib]
  ac_rfl

/-- A linear map keeps zero. -/
theorem linear_zero {f : BitVec 32 → BitVec 32} (h : ∀ a b, f (a ^^^ b) = f a ^^^ f b) :
    f 0#32 = 0#32 := by
  have htwice := h 0#32 0#32
  rwa [BitVec.xor_self, BitVec.xor_self] at htwice

/-- Columns give a linear map. -/
theorem combine_xor (columns : List (BitVec 32)) (a b : BitVec 32) :
    combine columns (a ^^^ b) = combine columns a ^^^ combine columns b := by
  induction columns generalizing a b with
  | nil => exact BitVec.xor_zero.symm
  | cons column rest ih =>
    simp only [combine]
    rw [BitVec.getLsbD_xor, BitVec.ushiftRight_xor_distrib, ih]
    cases a.getLsbD 0 <;> cases b.getLsbD 0
    · simp
    · simp only [Bool.false_xor, if_true, Bool.false_eq_true, if_false]
      ac_rfl
    · simp only [Bool.xor_false, if_true, Bool.false_eq_true, if_false]
      ac_rfl
    · simp only [Bool.xor_self, if_true, Bool.false_eq_true, if_false, BitVec.zero_xor]
      rw [BitVec.xor_comm column, BitVec.xor_comm column, xor_xor_cancel]

/-- A linear map of every column is the linear map of what they give together. -/
theorem combine_map {f : BitVec 32 → BitVec 32} (h : ∀ a b, f (a ^^^ b) = f a ^^^ f b)
    (columns : List (BitVec 32)) (register : BitVec 32) :
    combine (columns.map f) register = f (combine columns register) := by
  induction columns generalizing register with
  | nil => exact (linear_zero h).symm
  | cons column rest ih =>
    rw [List.map_cons, combine, combine, ih, h]
    cases register.getLsbD 0
    · simp only [Bool.false_eq_true, if_false, linear_zero h]
    · rfl

/-- Consecutive bits give that part of the register, moved up to its place. -/
theorem getLsbD_combine_twoPow (first count : Nat) (register : BitVec 32) (i : Nat) :
    (combine ((List.range' first count).map (BitVec.twoPow 32)) register).getLsbD i =
      (decide (first ≤ i ∧ i < first + count ∧ i < 32) && register.getLsbD (i - first)) := by
  induction count generalizing first register with
  | zero =>
    have houtside : ¬(first ≤ i ∧ i < first + 0 ∧ i < 32) := by omega
    rw [decide_eq_false houtside, Bool.false_and]
    exact BitVec.getLsbD_zero
  | succ count ih =>
    rw [List.range'_succ, List.map_cons, combine, BitVec.getLsbD_xor, ih, BitVec.getLsbD_ushiftRight]
    by_cases here : i = first
    · subst here
      have hafter : ¬(i + 1 ≤ i ∧ i < i + 1 + count ∧ i < 32) := by omega
      rw [decide_eq_false hafter, Bool.false_and, Bool.xor_false, Nat.sub_self]
      by_cases hsmall : i < 32 <;> cases register.getLsbD 0 <;> simp [BitVec.getLsbD_twoPow, hsmall]
    · have hcolumn : (if register.getLsbD 0 then BitVec.twoPow 32 first else 0#32).getLsbD i = false := by
        cases register.getLsbD 0
        · exact BitVec.getLsbD_zero
        · simp [BitVec.getLsbD_twoPow, Ne.symm here]
      rw [hcolumn, Bool.false_xor]
      by_cases hpart : first + 1 ≤ i ∧ i < first + 1 + count ∧ i < 32
      · have hwhole : first ≤ i ∧ i < first + (count + 1) ∧ i < 32 := by omega
        have hindex : 1 + (i - (first + 1)) = i - first := by omega
        simp only [hpart, hwhole, hindex]
      · have hwhole : ¬(first ≤ i ∧ i < first + (count + 1) ∧ i < 32) := by omega
        simp only [hpart, hwhole, decide_false, Bool.false_and]

/-- The bits give the register itself. -/
theorem combine_bits (register : BitVec 32) : combine bits register = register := by
  apply BitVec.eq_of_getLsbD_eq
  intro i h
  rw [bits, getLsbD_combine_twoPow]
  simp [h]

/-! ### Effects -/

namespace Effect

/-- The effect of a byte is what the byte does. -/
theorem apply_ofByte (b : UInt8) (register : BitVec 32) :
    (ofByte b).apply register = update register b := by
  have hlinear : ∀ x y : BitVec 32, update (x ^^^ y) 0 = update x 0 ^^^ update y 0 := fun x y => by
    rw [← update_xor, UInt8.xor_self]
  rw [apply, ofByte, combine_map hlinear, combine_bits, ← update_xor, BitVec.xor_zero,
    UInt8.zero_xor]

/-- Twice is once and once more. -/
theorem apply_twice (e : Effect) (register : BitVec 32) :
    e.twice.apply register = e.apply (e.apply register) := by
  simp only [apply, twice]
  rw [combine_map (combine_xor e.columns), combine_xor, BitVec.xor_assoc]

/-- The effect, taken one time after the other. -/
def iterate (e : Effect) : (count : Nat) → (register : BitVec 32) → BitVec 32
  | 0, register => register
  | n + 1, register => e.iterate n (e.apply register)

/-- Taking the doubled effect is taking the effect twice as often. -/
theorem iterate_twice (e : Effect) (count : Nat) (register : BitVec 32) :
    e.twice.iterate count register = e.iterate (2 * count) register := by
  induction count generalizing register with
  | zero => rfl
  | succ n ih => rw [iterate, ih, apply_twice, Nat.mul_succ, iterate, iterate]

/-- So many times at once is one time after the other. -/
theorem times_eq (e : Effect) (count : Nat) (register : BitVec 32) :
    e.times count register = e.iterate count register := by
  fun_induction times e count register with
  | case1 => rfl
  | case2 e count register _ odd ih =>
    have hparts : count = 2 * (count / 2) + 1 := by omega
    rw [ih, iterate_twice]
    conv => rhs; rw [hparts, iterate]
  | case3 e count register _ even ih =>
    have hparts : count = 2 * (count / 2) := by omega
    rw [ih, iterate_twice]
    conv => rhs; rw [hparts]

end Effect

/-- Equal bytes at once are the bytes one by one. -/
theorem repeated_eq (b : UInt8) (count : Nat) (register : BitVec 32) :
    repeated b count register = (List.replicate count b).foldl update register := by
  rw [repeated, Effect.times_eq]
  induction count generalizing register with
  | zero => rfl
  | succ n ih => rw [Effect.iterate, Effect.apply_ofByte, ih, List.replicate_succ, List.foldl_cons]

end IntelHex.Crc32
