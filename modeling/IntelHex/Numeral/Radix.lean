import IntelHex.Digit

/-!
# Digits in a base

A run of digits read in a base between two and sixteen. In base two the digits may begin with the mark
`0b`. In base ten there may be at most 4300 of them.
-/

namespace IntelHex

/-- Why a run of digits has no value. -/
inductive DigitsError
  /-- There is no digit, or one that the base does not have. -/
  | invalid
  /-- There are too many decimal digits. -/
  | tooMany (count : Nat)
deriving DecidableEq, Repr

namespace Radix

/-- The most digits that a decimal numeral may have. -/
def decimalLimit : Nat := 4300

/-- The value of a character as a digit of a base. -/
def digit? (base : Nat) (c : Char) : Option Nat :=
  match Digit.ofCode? c.toNat with
  | some d => if d.val < base then some d.val else none
  | none => none

/-- Whether a character is a digit of a base. -/
def isDigit (base : Nat) (c : Char) : Bool :=
  (digit? base c).isSome

/-- The value of a run of digits after the value of those before them. -/
def valueFrom (base : Nat) (value : Nat) (digits : List Char) : Nat :=
  digits.foldl (fun v c => base * v + (digit? base c).getD 0) value

/-- The value of a run of digits. -/
def value (base : Nat) (digits : List Char) : Nat :=
  valueFrom base 0 digits

/-- The digits without the mark `0b` in front, if they are binary and have it. -/
def unmarked (base : Nat) (digits : List Char) : List Char :=
  match base, digits with
  | 2, '0' :: 'b' :: rest => rest
  | _, _ => digits

/-- Reads digits in a base. Too many decimal digits are noticed before an invalid one after them. -/
def read (base : Nat) (digits : List Char) : Except DigitsError Nat :=
  let body := unmarked base digits
  let count := (body.takeWhile (isDigit base)).length
  if base = 10 ∧ decimalLimit < count then .error (.tooMany count)
  else if body.isEmpty || !body.all (isDigit base) then .error .invalid
  else .ok (value base body)

end Radix

end IntelHex
