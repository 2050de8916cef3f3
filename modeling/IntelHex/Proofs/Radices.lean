import Mathlib.Data.List.Basic
import Mathlib.Data.Nat.Digits.Defs
import IntelHex.Numeral.Shape
import IntelHex.Numeral.Radix

/-!
# Digits in a base

A number is written with the digits of its base, and these have it as their value. Digits are read if
they all belong to the base, as long as they do not begin with a mark of their own and are not too many
decimal ones.
-/

namespace IntelHex

namespace Radix

variable {base : Nat}

/-- The value of a run of digits with one more digit. -/
theorem value_concat (base : Nat) (digits : List Char) (c : Char) :
    value base (digits ++ [c]) = base * value base digits + (digit? base c).getD 0 := by
  rw [value, valueFrom, List.foldl_append, List.foldl_cons, List.foldl_nil]
  rfl

/-- A number below the base is the value of its digit. -/
theorem digit?_digitChar (hbase : base ≤ 16) {n : Nat} (h : n < base) :
    digit? base n.digitChar = some n := by
  have hcode : ∀ d : Fin 16, Digit.ofCode? (Nat.digitChar d.val).toNat = some d := by decide
  rw [digit?, hcode ⟨n, Nat.lt_of_lt_of_le h hbase⟩]
  exact if_pos h

/-- A number is written with the digits of the base. -/
theorem exists_of_mem_toDigits (hone : 1 < base) (n : Nat) :
    ∀ c ∈ Nat.toDigits base n, ∃ d < base, c = Nat.digitChar d := by
  induction n using Nat.strong_induction_on with
  | _ n ih =>
    rw [Nat.toDigits_eq_if hone]
    split
    · next hsmall => exact List.forall_mem_singleton.2 ⟨n, hsmall, rfl⟩
    · next hlarge =>
      have hless : n / base < n := Nat.div_lt_self (by omega) hone
      exact List.forall_mem_append.2
        ⟨ih _ hless, List.forall_mem_singleton.2 ⟨n % base, Nat.mod_lt _ (by omega), rfl⟩⟩

/-- The digits of a number belong to the base. -/
theorem isDigit_of_mem_toDigits (hone : 1 < base) (hbase : base ≤ 16) (n : Nat) :
    ∀ c ∈ Nat.toDigits base n, isDigit base c := by
  intro c hc
  obtain ⟨d, hd, rfl⟩ := exists_of_mem_toDigits hone n c hc
  rw [isDigit, digit?_digitChar hbase hd]
  rfl

/-- They are lowercase hexadecimal digits. -/
theorem isDigitChar_of_mem_toDigits (hone : 1 < base) (hbase : base ≤ 16) (n : Nat) :
    ∀ c ∈ Nat.toDigits base n, Numeral.isDigitChar c := by
  have hchar : ∀ d : Fin 16, Numeral.isDigitChar (Nat.digitChar d.val) := by decide
  intro c hc
  obtain ⟨d, hd, rfl⟩ := exists_of_mem_toDigits hone n c hc
  exact hchar ⟨d, Nat.lt_of_lt_of_le hd hbase⟩

/-- The digits of a number have it as their value. -/
theorem value_toDigits (hone : 1 < base) (hbase : base ≤ 16) (n : Nat) :
    value base (Nat.toDigits base n) = n := by
  induction n using Nat.strong_induction_on with
  | _ n ih =>
    rw [Nat.toDigits_eq_if hone]
    split
    · next hsmall => simp [value, valueFrom, digit?_digitChar hbase hsmall]
    · next hlarge =>
      have hless : n / base < n := Nat.div_lt_self (by omega) hone
      have hlast : n % base < base := Nat.mod_lt _ (by omega)
      rw [value_concat, ih _ hless, digit?_digitChar hbase hlast, Option.getD_some,
        Nat.div_add_mod]

/-- The digits of a number do not begin with a zero, unless it is zero. -/
theorem head?_toDigits (hone : 1 < base) (hbase : base ≤ 16) {n : Nat} (hpos : 0 < n) :
    (Nat.toDigits base n).head? ≠ some '0' := by
  induction n using Nat.strong_induction_on with
  | _ n ih =>
    rw [Nat.toDigits_eq_if hone]
    split
    · next hsmall =>
      have hchar : ∀ d : Fin 16, d ≠ 0 → Nat.digitChar d.val ≠ '0' := by decide
      intro hhead
      exact hchar ⟨n, by omega⟩ (fun h => hpos.ne' (congrArg Fin.val h)) (Option.some.inj hhead)
    · next hlarge =>
      have hless : n / base < n := Nat.div_lt_self hpos hone
      have hrest := ih _ hless (Nat.div_pos (by omega) (by omega))
      have hne : Nat.toDigits base (n / base) ≠ [] := by simp
      rwa [List.head?_append_of_ne_nil _ hne]

/-- Binary digits behind another mark. -/
def Remarked (digits : List Char) : Prop :=
  ∃ rest, digits = '0' :: 'b' :: rest ∧ rest ≠ [] ∧ rest.all (isDigit 2)

/-- Digits are read if they belong to the base, unless they are decimal and too many. Another mark in
front of binary digits would be passed over; anything else behind it is refused together with it. -/
theorem read_eq {digits : List Char} (hsome : digits ≠ []) (hmark : ¬(base = 2 ∧ Remarked digits)) :
    read base digits =
      if base = 10 ∧ decimalLimit < (digits.takeWhile (isDigit base)).length then
        .error (.tooMany (digits.takeWhile (isDigit base)).length)
      else if digits.all (isDigit base) then .ok (value base digits)
      else .error .invalid := by
  by_cases hagain : base = 2 ∧ ∃ rest, digits = '0' :: 'b' :: rest
  · obtain ⟨rfl, rest, rfl⟩ := hagain
    have hrefused : rest.isEmpty || !rest.all (isDigit 2) := by
      by_contra hread
      simp only [Bool.or_eq_true, not_or, Bool.not_eq_true', Bool.not_eq_false] at hread
      exact hmark ⟨rfl, rest, rfl, fun hempty => hread.1 (List.isEmpty_iff.2 hempty), hread.2⟩
    have hletter : ('0' :: 'b' :: rest).all (isDigit 2) = false := by
      rw [List.all_cons, List.all_cons]
      simp [show isDigit 2 'b' = false by decide]
    simp only [read, unmarked, hrefused, hletter]
    simp
  · have hunmarked : unmarked base digits = digits := by
      unfold unmarked
      split
      · next rest => exact absurd ⟨rfl, rest, rfl⟩ hagain
      · rfl
    simp only [read, hunmarked]
    cases hall : digits.all (isDigit base) <;> simp [hsome]

/-- Too many decimal digits are more than there may be. -/
theorem lt_of_tooMany {digits : List Char} {count : Nat}
    (h : read base digits = .error (.tooMany count)) : decimalLimit < count := by
  simp only [read] at h
  split at h
  · next hmany =>
    cases h
    exact hmany.2
  · split at h <;> cases h

end Radix

end IntelHex
