import IntelHex.Proofs.NumeralTexts
import IntelHex.Proofs.Radices

/-!
# Integers and the numerals that write them

What comes of a numeral once its parts are known: the base is fixed by the mark and the `h`, and every
digit has to belong to it. An integer can be written in six ways, with a scale and with blanks around it;
in any letter case, each of them is read back.
-/

namespace IntelHex

namespace Numeral

/-- The base that a mark and an `h` fix. -/
def markedBase (mark : Option Mark) (suffixed : Bool) : Nat :=
  if mark = some .hexadecimal ∨ suffixed then 16
  else match mark with
    | some .binary => 2
    | some .octal | some .zero => 8
    | some .hexadecimal | none => 10

/-- The integer of the parts of a numeral, without any limit. -/
def Shape.integer? (lowered : List Char) (s : Shape) : Except Error Int :=
  if s.suffixed ∧ (s.mark = some .binary ∨ s.mark = some .octal) then .error (.malformed lowered)
  else if s.digits.all (Radix.isDigit (markedBase s.mark s.suffixed)) then
    .ok ((if s.negative then -1 else 1) * Radix.value (markedBase s.mark s.suffixed) s.digits *
      (s.scale.elim 1 Scale.factor : Nat))
  else .error (.invalidDigits (markedBase s.mark s.suffixed) s.digits)

/-- How many decimal digits a numeral begins with, if it is decimal and these are too many. -/
def Shape.excess? (s : Shape) : Option Nat :=
  if markedBase s.mark s.suffixed = 10 ∧
      Radix.decimalLimit < (s.digits.takeWhile (Radix.isDigit 10)).length then
    some (s.digits.takeWhile (Radix.isDigit 10)).length
  else none

/-- The integer of a text, read from left to right and without any limit. -/
def readUnlimited (content : List Char) : Except Error Int :=
  match Shape.parse? (Text.lowercase content) with
  | none => .error (.malformed (Text.lowercase content))
  | some s => s.integer? (Text.lowercase content)

/-- The integer of a text, read from left to right, if there are not too many decimal digits. -/
def readLimited (content : List Char) : Except Error Int :=
  match (Shape.parse? (Text.lowercase content)).bind Shape.excess? with
  | some count => .error (.tooManyDigits count)
  | none => readUnlimited content

/-- A mark of binary digits with another one behind it, in front of binary digits. -/
def Shape.Remarked (s : Shape) : Prop :=
  s.mark = some .binary ∧ s.suffixed = false ∧ Radix.Remarked s.digits

/-- The base is the one that the mark and the `h` fix. -/
theorem Shape.base_eq (s : Shape) : s.base = markedBase s.mark s.suffixed := by
  unfold base markedBase
  rcases s.mark with _ | mark
  · rfl
  · cases mark <;> rfl

/-- Binary digits are marked as such, and not said to be hexadecimal. -/
theorem mark_of_markedBase {mark : Option Mark} {suffixed : Bool} (h : markedBase mark suffixed = 2) :
    mark = some .binary ∧ suffixed = false := by
  rcases mark with _ | mark
  · cases suffixed <;> cases h
  · cases mark <;> cases suffixed <;> first | exact ⟨rfl, rfl⟩ | cases h

/-- A numeral that contradicts itself says that it is hexadecimal and that it is not. -/
theorem Shape.contradicts_iff (s : Shape) :
    s.contradicts ↔ s.suffixed ∧ (s.mark = some .binary ∨ s.mark = some .octal) := by
  simp [contradicts]

/-- The sign and the scale are factors. -/
theorem Shape.signed_eq (s : Shape) (magnitude : Nat) :
    s.signed magnitude =
      (if s.negative then -1 else 1) * magnitude * (s.scale.elim 1 Scale.factor : Nat) := by
  unfold signed
  cases s.negative <;> simp

/-- There are digits in a numeral. -/
theorem Shape.digits_ne_nil_of_parse? {text : List Char} {s : Shape} (h : parse? text = some s) :
    s.digits ≠ [] := by
  simp only [parse?, digitsEnd?] at h
  split at h
  · cases h
  · next hrun =>
    obtain ⟨tail, -, rfl⟩ := Option.map_eq_some_iff.1 h
    exact hrun

/-- A text is read from left to right, unless a mark of binary digits is repeated in front of them. -/
theorem ofText_eq_readLimited {content : List Char}
    (h : ∀ s, Shape.parse? (Text.lowercase content) = some s → ¬s.Remarked) :
    ofText content = readLimited content := by
  rw [ofText, readLimited, readUnlimited, Shape.ofText?_eq_parse?]
  cases hparse : Shape.parse? (Text.lowercase content) with
  | none => rfl
  | some s =>
    have hsome := Shape.digits_ne_nil_of_parse? hparse
    have hmark : ¬(s.base = 2 ∧ Radix.Remarked s.digits) := by
      rintro ⟨hbase, hagain⟩
      rw [Shape.base_eq] at hbase
      obtain ⟨hbinary, hplain⟩ := mark_of_markedBase hbase
      exact h s hparse ⟨hbinary, hplain, hagain⟩
    simp only [Option.bind_some, Shape.integer?]
    by_cases hcontra : s.contradicts
    · -- an `h` makes the base sixteen, so there is no limit that could be exceeded first
      have hboth := s.contradicts_iff.1 hcontra
      have hbase : markedBase s.mark s.suffixed = 16 := if_pos (.inr hboth.1)
      have hexcess : s.excess? = none := if_neg (by rw [hbase]; simp)
      rw [hexcess, if_pos hcontra, if_pos hboth]
    · have hneither := fun hboth => hcontra (s.contradicts_iff.2 hboth)
      rw [if_neg hcontra, Radix.read_eq hsome hmark, s.base_eq, if_neg hneither, Shape.excess?]
      by_cases hlimit : markedBase s.mark s.suffixed = 10 ∧
          Radix.decimalLimit < (s.digits.takeWhile (Radix.isDigit 10)).length
      · obtain ⟨hdecimal, hmany⟩ := hlimit
        simp [hdecimal, hmany]
      · have hfew : ¬(markedBase s.mark s.suffixed = 10 ∧ Radix.decimalLimit <
            (s.digits.takeWhile (Radix.isDigit (markedBase s.mark s.suffixed))).length) := by
          rintro ⟨hdecimal, hmany⟩
          rw [hdecimal] at hmany
          exact hlimit ⟨hdecimal, hmany⟩
        rw [if_neg hlimit, if_neg hfew]
        by_cases hall : s.digits.all (Radix.isDigit (markedBase s.mark s.suffixed))
        · rw [if_pos hall, if_pos hall, ← s.signed_eq]
        · rw [if_neg hall, if_neg hall]

/-- A text fails only for its shape, for a digit that the base does not have, or for too many decimal
digits. -/
theorem error_of_ofText {content : List Char} {e : Error} (h : ofText content = .error e) :
    e = .malformed (Text.lowercase content) ∨ (∃ base digits, e = .invalidDigits base digits) ∨
      ∃ count, Radix.decimalLimit < count ∧ e = .tooManyDigits count := by
  rw [ofText] at h
  cases hparts : Shape.ofText? (Text.lowercase content) with
  | none =>
    rw [hparts] at h
    cases h
    exact .inl rfl
  | some s =>
    simp only [hparts] at h
    by_cases hcontra : s.contradicts
    · rw [if_pos hcontra] at h
      cases h
      exact .inl rfl
    · rw [if_neg hcontra] at h
      cases hread : Radix.read s.base s.digits with
      | ok magnitude =>
        rw [hread] at h
        cases h
      | error failure =>
        rw [hread] at h
        cases failure with
        | invalid =>
          cases h
          exact .inr (.inl ⟨_, _, rfl⟩)
        | tooMany count =>
          cases h
          exact .inr (.inr ⟨count, Radix.lt_of_tooMany hread, rfl⟩)

/-- The ways to write an integer. -/
inductive Form
  /-- Decimal digits. -/
  | decimal
  /-- Hexadecimal digits behind `0x`. -/
  | hexadecimal
  /-- Hexadecimal digits in front of an `h`. -/
  | suffixed
  /-- Binary digits behind `0b`. -/
  | binary
  /-- Octal digits behind `0o`. -/
  | octal
  /-- Octal digits behind a single zero. -/
  | zero
deriving DecidableEq, Repr

namespace Form

/-- The base of the digits. -/
def base : Form → Nat
  | decimal => 10
  | hexadecimal | suffixed => 16
  | binary => 2
  | octal | zero => 8

/-- The mark in front of the digits. -/
def mark : Form → Option Mark
  | decimal | suffixed => none
  | hexadecimal => some .hexadecimal
  | binary => some .binary
  | octal => some .octal
  | zero => some .zero

/-- The parts of an integer that is written with a scale, or without one. -/
def parts (form : Form) (n : Int) (scale : Option Scale) : Shape where
  negative := n < 0
  mark := form.mark
  digits := Nat.toDigits form.base n.natAbs
  suffixed := form = suffixed
  scale := scale

variable (form : Form) (n : Int) (scale : Option Scale)

/-- The bases lie between two and sixteen. -/
theorem base_bounds : 1 < form.base ∧ form.base ≤ 16 := by
  cases form <;> decide

/-- The parts give away the base. -/
theorem markedBase_parts :
    markedBase (form.parts n scale).mark (form.parts n scale).suffixed = form.base := by
  cases form <;> rfl

/-- The digits of an integer belong to the base. -/
theorem all_digits : (form.parts n scale).digits.all (Radix.isDigit form.base) := by
  obtain ⟨hone, hbase⟩ := form.base_bounds
  exact List.all_eq_true.2 (Radix.isDigit_of_mem_toDigits hone hbase n.natAbs)

/-- An integer is never written ambiguously. -/
theorem unambiguous_parts : (form.parts n scale).Unambiguous := by
  obtain ⟨hone, hbase⟩ := form.base_bounds
  refine ⟨Nat.toDigits_ne_nil, Radix.isDigitChar_of_mem_toDigits hone hbase n.natAbs, ?_, ?_⟩
  · intro _
    change Nat.toDigits form.base n.natAbs = ['0'] ∨ (Nat.toDigits form.base n.natAbs).head? ≠ some '0'
    rcases Nat.eq_zero_or_pos n.natAbs with hzero | hpos
    · left
      rw [hzero, Nat.toDigits_of_lt_base (by omega)]
      rfl
    · exact .inr (Radix.head?_toDigits hone hbase hpos)
  · intro hmark hhead
    have hzero : form = zero := by
      cases form <;> first | rfl | cases hmark
    subst hzero
    have hdigit := Radix.isDigit_of_mem_toDigits hone hbase n.natAbs 'b' (List.mem_of_mem_head? hhead)
    revert hdigit
    decide

/-- An integer is never written with a repeated mark. -/
theorem not_remarked_parts : ¬(form.parts n scale).Remarked := by
  rintro ⟨hmark, -, rest, hagain, -⟩
  have hbinary : form = binary := by
    cases form <;> first | rfl | cases hmark
  subst hbinary
  have hmem : 'b' ∈ (binary.parts n scale).digits := by
    rw [hagain]
    exact List.mem_cons_of_mem _ List.mem_cons_self
  have hdigit := Radix.isDigit_of_mem_toDigits (by decide : 1 < 2) (by decide) n.natAbs 'b' hmem
  revert hdigit
  decide

/-- The parts of an integer have it as their value. -/
theorem integer?_parts (lowered : List Char) :
    (form.parts n scale).integer? lowered = .ok (n * (scale.elim 1 Scale.factor : Nat)) := by
  obtain ⟨hone, hbase⟩ := form.base_bounds
  have hplain : ¬((form.parts n scale).suffixed ∧ ((form.parts n scale).mark = some .binary ∨
      (form.parts n scale).mark = some .octal)) := by
    cases form <;> simp [parts, mark]
  have hsign : (if decide (n < 0) = true then -1 else 1) * (n.natAbs : Int) = n := by
    by_cases hneg : n < 0
    · rw [if_pos (decide_eq_true hneg)]
      omega
    · rw [if_neg (by simpa using hneg)]
      omega
  rw [Shape.integer?, if_neg hplain, markedBase_parts, if_pos (form.all_digits n scale)]
  change Except.ok ((if decide (n < 0) = true then -1 else 1) *
    (Radix.value form.base (Nat.toDigits form.base n.natAbs) : Int) * _) = _
  rw [Radix.value_toDigits hone hbase, hsign]
  rfl

/-- There are not too many digits, unless they are decimal. -/
theorem excess?_parts
    (hlimit : form = decimal → (Nat.toDigits 10 n.natAbs).length ≤ Radix.decimalLimit) :
    (form.parts n scale).excess? = none := by
  apply if_neg
  rw [markedBase_parts]
  rintro ⟨hbase, hmany⟩
  have hdecimal : form = decimal := by
    cases form <;> first | rfl | cases hbase
  subst hdecimal
  have hrun := List.takeWhile_prefix (Radix.isDigit 10) (l := Nat.toDigits 10 n.natAbs)
  exact absurd (hlimit rfl) (Nat.not_le_of_lt (Nat.lt_of_lt_of_le hmany hrun.length_le))

/-- An integer that is written in one of these ways, in any letter case and between blanks, is read
back. -/
theorem ofText_parts {content before after : List Char}
    (hbefore : ∀ c ∈ before, Text.isBlank c) (hafter : ∀ c ∈ after, Text.isBlank c)
    (hcontent : content.map Char.toLower = before ++ ((form.parts n scale).text ++ after))
    (hlimit : form = decimal → (Nat.toDigits 10 n.natAbs).length ≤ Radix.decimalLimit) :
    ofText content = .ok (n * (scale.elim 1 Scale.factor : Nat)) := by
  have hplain := form.unambiguous_parts n scale
  have hlower : Text.lowercase content = before ++ ((form.parts n scale).text ++ after) := by
    rw [← hcontent]
    apply Text.lowercase_eq_map
    rw [hcontent]
    exact List.forall_mem_append.2 ⟨fun c hc => .inr (hbefore c hc), List.forall_mem_append.2
      ⟨fun c hc => .inl (Nat.lt_succ_of_lt (hplain.visible c hc).2), fun c hc => .inr (hafter c hc)⟩⟩
  have hparse : Shape.parse? (Text.lowercase content) = some (form.parts n scale) := by
    rw [hlower]
    exact Shape.parse?_text hplain hbefore hafter
  rw [ofText_eq_readLimited, readLimited, readUnlimited, hparse, Option.bind_some,
    form.excess?_parts n scale hlimit]
  · exact form.integer?_parts n scale _
  · rintro s hs
    cases hparse.symm.trans hs
    exact form.not_remarked_parts n scale

end Form

/-- One digit written many times in a row is read as what it is. -/
theorem parse?_replicate (count : Nat) :
    Shape.parse? (Text.lowercase (List.replicate (count + 1) '1')) =
      some ⟨false, none, List.replicate (count + 1) '1', false, none⟩ := by
  have hone : ∀ c ∈ List.replicate (count + 1) '1', c = '1' := fun c => List.eq_of_mem_replicate
  have hplain : Shape.Unambiguous ⟨false, none, List.replicate (count + 1) '1', false, none⟩ := by
    refine ⟨List.cons_ne_nil _ _, fun c hc => ?_, fun _ => .inr ?_, nofun⟩
    · rw [hone c hc]
      decide
    · change some '1' ≠ some '0'
      decide
  have hlower : Text.lowercase (List.replicate (count + 1) '1') = List.replicate (count + 1) '1' := by
    have hmap : (List.replicate (count + 1) '1').map Char.toLower = List.replicate (count + 1) '1' :=
      List.map_replicate
    rw [Text.lowercase_eq_map, hmap]
    intro c hc
    rw [hmap] at hc
    rw [hone c hc]
    exact .inl (by decide)
  have hparse := Shape.parse?_text hplain (List.forall_mem_nil _) (List.forall_mem_nil _)
  rw [hlower]
  simpa [Shape.text, Shape.unsigned, tailText] using hparse

/-- Its digits are decimal. -/
theorem all_replicate (count : Nat) : (List.replicate count '1').all (Radix.isDigit 10) := by
  rw [List.all_replicate]
  cases count <;> simp [show Radix.isDigit 10 '1' = true by decide]

/-- There may be too many of them. -/
theorem ofText_replicate {count : Nat} (h : Radix.decimalLimit < count + 1) :
    ofText (List.replicate (count + 1) '1') = .error (.tooManyDigits (count + 1)) := by
  have hparse := parse?_replicate count
  have hrun : (List.replicate (count + 1) '1').takeWhile (Radix.isDigit 10) =
      List.replicate (count + 1) '1' :=
    List.takeWhile_eq_self_iff.2 (List.all_eq_true.1 (all_replicate (count + 1)))
  have hexcess : Shape.excess? ⟨false, none, List.replicate (count + 1) '1', false, none⟩ =
      some (count + 1) := by
    rw [Shape.excess?, hrun, List.length_replicate]
    exact if_pos ⟨rfl, h⟩
  rw [ofText_eq_readLimited, readLimited, hparse, Option.bind_some, hexcess]
  rintro s hs ⟨hmark, -⟩
  cases hparse.symm.trans hs
  cases hmark

/-- Without a limit there are never too many. -/
theorem readUnlimited_replicate (count : Nat) :
    readUnlimited (List.replicate (count + 1) '1') =
      .ok (Radix.value 10 (List.replicate (count + 1) '1')) := by
  have hbase : markedBase none false = 10 := rfl
  simp only [readUnlimited, parse?_replicate, Shape.integer?, hbase]
  rw [if_neg (by decide), if_pos (all_replicate (count + 1))]
  simp

/-- Texts are read as integers from left to right, without backtracking; nothing is said of the value of
binary digits that are marked twice. There are three ways to fail: the text has not the shape or
contradicts itself, a digit does not belong to the base, or there are too many decimal digits. An integer
that is written in any form, with any scale, in any letter case and between blanks, is read back. -/
theorem ofText_left_to_right :
    (∀ content, (∀ s, Shape.parse? (Text.lowercase content) = some s → ¬s.Remarked) →
      ofText content = readLimited content) ∧
    (∀ content e, ofText content = .error e →
      e = .malformed (Text.lowercase content) ∨ (∃ base digits, e = .invalidDigits base digits) ∨
        ∃ count, Radix.decimalLimit < count ∧ e = .tooManyDigits count) ∧
    ∀ (form : Form) (n : Int) (scale : Option Scale) (content before after : List Char),
      (∀ c ∈ before, Text.isBlank c) → (∀ c ∈ after, Text.isBlank c) →
      content.map Char.toLower = before ++ ((form.parts n scale).text ++ after) →
      (form = .decimal → (Nat.toDigits 10 n.natAbs).length ≤ Radix.decimalLimit) →
      ofText content = .ok (n * (scale.elim 1 Scale.factor : Nat)) := by
  refine ⟨fun content => ofText_eq_readLimited, fun content e => error_of_ofText, ?_⟩
  intro form n scale content before after hbefore hafter hcontent hlimit
  exact form.ofText_parts n scale hbefore hafter hcontent hlimit

/-- A letter that is a digit because no digit follows it, a second mark in front of a digit that is not
binary, and a scaled integer below zero in mixed letter case. -/
theorem ofText_left_to_right_mixed :
    ofText "0bH".toList = .ok 11 ∧
      ofText "0b0b2".toList = .error (.invalidDigits 2 "0b2".toList) ∧
        ofText "\t -0X1fKiB\n".toList = .ok (-31744) := by
  obtain ⟨hread, -, hwritten⟩ := ofText_left_to_right
  have hsuffixed : Shape.parse? (Text.lowercase "0bH".toList) =
      some ⟨false, some .zero, ['b'], true, none⟩ := by decide +kernel
  have hunmarked : ∀ s, Shape.parse? (Text.lowercase "0bH".toList) = some s → ¬s.Remarked := by
    rintro s hs ⟨hmark, -⟩
    cases hsuffixed.symm.trans hs
    cases hmark
  have hmarked : Shape.parse? (Text.lowercase "0b0b2".toList) =
      some ⟨false, some .binary, ['0', 'b', '2'], false, none⟩ := by decide +kernel
  have hother : ∀ s, Shape.parse? (Text.lowercase "0b0b2".toList) = some s → ¬s.Remarked := by
    rintro s hs ⟨-, -, rest, hagain, -, hbinary⟩
    cases hmarked.symm.trans hs
    cases hagain
    exact absurd hbinary (by decide)
  have hletter : readLimited "0bH".toList = .ok 11 := by decide +kernel
  have hdigit : readLimited "0b0b2".toList = .error (.invalidDigits 2 "0b2".toList) := by
    decide +kernel
  have hbefore : ∀ c ∈ ['\t', ' '], Text.isBlank c := List.all_eq_true.1 (by decide)
  have hafter : ∀ c ∈ ['\n'], Text.isBlank c := List.all_eq_true.1 (by decide)
  refine ⟨(hread _ hunmarked).trans hletter, (hread _ hother).trans hdigit, ?_⟩
  exact hwritten .hexadecimal (-31) (some .kib) _ _ _ hbefore hafter (by decide) nofun

/-- A reader without a limit that takes the letter of a second mark for a digit: it differs from what is
done at a text that marks binary digits twice, and at a decimal numeral of one digit too many. -/
theorem ofText_ne_readUnlimited :
    (ofText "0b0b1".toList = .ok 1 ∧
      readUnlimited "0b0b1".toList = .error (.invalidDigits 2 "0b1".toList)) ∧
    (ofText (List.replicate 4301 '1') = .error (.tooManyDigits 4301) ∧
      readUnlimited (List.replicate 4301 '1') = .ok (Radix.value 10 (List.replicate 4301 '1'))) := by
  refine ⟨⟨by decide +kernel, by decide +kernel⟩, ?_, ?_⟩
  · exact ofText_replicate (by decide : Radix.decimalLimit < 4300 + 1)
  · exact readUnlimited_replicate 4300

end Numeral

end IntelHex
