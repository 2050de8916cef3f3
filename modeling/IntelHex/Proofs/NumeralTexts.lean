import IntelHex.Proofs.Numerals

/-!
# The text of a numeral

The parts of a numeral are written one after the other. Unless they are ambiguous, the same parts are
read again, whatever blanks stand around the text.
-/

namespace IntelHex

namespace Numeral

/-- What follows the digits of a numeral. -/
def tailText (suffixed : Bool) (scale : Option Scale) : List Char :=
  (if suffixed then ['h'] else []) ++ scale.elim [] Scale.letters

namespace Shape

/-- A numeral of given parts, without its sign. -/
def unsigned (s : Shape) : List Char :=
  s.mark.elim [] Mark.letters ++ (s.digits ++ tailText s.suffixed s.scale)

/-- A numeral of given parts, without blanks. -/
def text (s : Shape) : List Char :=
  (if s.negative then ['-'] else []) ++ s.unsigned

/-- A mark and digits that are not taken for others: without a mark a zero stands alone, and behind the
mark of a single zero there is no `b`. -/
structure Unambiguous (s : Shape) : Prop where
  digits_ne_nil : s.digits ≠ []
  digit : ∀ c ∈ s.digits, isDigitChar c
  unmarked : s.mark = none → s.digits = ['0'] ∨ s.digits.head? ≠ some '0'
  zero : s.mark = some .zero → s.digits.head? ≠ some 'b'

end Shape

/-- What follows the digits is read up to its end. -/
theorem tailEnd?_tailText (suffixed : Bool) (scale : Option Scale) :
    tailEnd? (tailText suffixed scale) = some (suffixed, scale) := by
  rcases scale with _ | scale
  · cases suffixed <;> rfl
  · cases suffixed <;> cases scale <;> decide

/-- What follows the digits begins with no digit. -/
theorem head?_tailText (suffixed : Bool) (scale : Option Scale) :
    ¬(tailText suffixed scale).head?.any isDigitChar := by
  rcases scale with _ | scale
  · cases suffixed <;> decide
  · cases suffixed <;> cases scale <;> decide

/-- A mark is read with the digits behind it. -/
theorem takeMark_letters {s : Shape} (h : s.Unambiguous) :
    takeMark (s.mark.elim [] Mark.letters ++ (s.digits ++ tailText s.suffixed s.scale)) =
      (s.mark, s.digits ++ tailText s.suffixed s.scale) := by
  have hsome := h.digits_ne_nil
  have hdigit := h.digit
  have hplain := h.unmarked
  have hzero := h.zero
  rcases s with ⟨negative, mark, digits, suffixed, scale⟩
  dsimp only at *
  obtain ⟨d, rest, rfl⟩ := List.exists_cons_of_ne_nil hsome
  obtain ⟨hd, -⟩ := List.forall_mem_cons.1 hdigit
  cases mark with
  | none =>
    by_cases hd0 : d = '0'
    · subst hd0
      have halone : '0' :: rest = ['0'] := (hplain rfl).resolve_right fun hhead => hhead rfl
      rw [halone]
      rcases scale with _ | scale
      · cases suffixed <;> rfl
      · cases suffixed <;> cases scale <;> decide
    · exact takeMark_cons hd0 _
  | some mark =>
    cases mark with
    | hexadecimal | binary | octal => simp [Mark.letters, takeMark, Mark.ofLetter?, hd]
    | zero =>
      have hletter : Mark.ofLetter? d = none := by
        unfold Mark.ofLetter?
        split
        · exact absurd hd (by decide)
        · exact absurd rfl (hzero rfl)
        · exact absurd hd (by decide)
        · rfl
      simp [Mark.letters, takeMark, hletter, hd]

/-- A run of digits ends where no digit follows. -/
theorem run_append {digits rest : List Char} (hdigit : ∀ c ∈ digits, isDigitChar c)
    (hrest : ¬rest.head?.any isDigitChar) :
    (digits ++ rest).takeWhile isDigitChar = digits ∧
      (digits ++ rest).dropWhile isDigitChar = rest := by
  rw [List.takeWhile_append_of_pos hdigit, List.dropWhile_append_of_pos hdigit]
  cases rest with
  | nil => simp
  | cons c rest =>
    have hc : ¬isDigitChar c := hrest
    rw [List.takeWhile_cons_of_neg hc, List.dropWhile_cons_of_neg hc, List.append_nil]
    exact ⟨rfl, rfl⟩

/-- The digits and what follows them are read as they are written. -/
theorem digitsEnd?_append {digits : List Char} (hsome : digits ≠ [])
    (hdigit : ∀ c ∈ digits, isDigitChar c) (negative : Bool) (mark : Option Mark) (suffixed : Bool)
    (scale : Option Scale) :
    digitsEnd? negative mark (digits ++ tailText suffixed scale) =
      some ⟨negative, mark, digits, suffixed, scale⟩ := by
  obtain ⟨htaken, hleft⟩ := run_append hdigit (head?_tailText suffixed scale)
  rw [digitsEnd?, htaken, hleft, if_neg hsome, tailEnd?_tailText]
  rfl

namespace Shape

variable {s : Shape}

/-- Behind the sign there is a digit. -/
theorem Unambiguous.exists_unsigned (h : s.Unambiguous) :
    ∃ c rest, s.unsigned = c :: rest ∧ isDigitChar c := by
  obtain ⟨d, rest, hdigits⟩ := List.exists_cons_of_ne_nil h.digits_ne_nil
  have hd : isDigitChar d := h.digit d (hdigits ▸ List.mem_cons_self)
  rw [unsigned, hdigits]
  rcases s.mark with _ | mark
  · exact ⟨d, _, rfl, hd⟩
  · cases mark <;> exact ⟨'0', _, rfl, by decide⟩

/-- The sign is read. -/
theorem Unambiguous.takeSign_text (h : s.Unambiguous) : takeSign s.text = (s.negative, s.unsigned) := by
  change takeSign ((if s.negative then ['-'] else []) ++ s.unsigned) = (s.negative, s.unsigned)
  cases s.negative with
  | true => rfl
  | false =>
    obtain ⟨c, rest, hunsigned, hc⟩ := h.exists_unsigned
    rw [if_neg Bool.false_ne_true, List.nil_append, hunsigned]
    apply takeSign_cons <;> rintro rfl <;> revert hc <;> decide

/-- Every character of a numeral is visible. -/
theorem Unambiguous.visible (h : s.Unambiguous) : ∀ c ∈ s.text, 32 < c.toNat ∧ c.toNat < 127 := by
  have hsign : ∀ c ∈ (if s.negative then ['-'] else []), 32 < c.toNat ∧ c.toNat < 127 := by
    cases s.negative <;> simp
  have hmark : ∀ c ∈ s.mark.elim [] Mark.letters, 32 < c.toNat ∧ c.toNat < 127 := by
    rcases s.mark with _ | mark
    · simp
    · cases mark <;> simp [Mark.letters]
  have hsuffix : ∀ c ∈ (if s.suffixed then ['h'] else []), 32 < c.toNat ∧ c.toNat < 127 := by
    cases s.suffixed <;> simp
  have hscale : ∀ c ∈ s.scale.elim [] Scale.letters, 32 < c.toNat ∧ c.toNat < 127 := by
    rcases s.scale with _ | scale
    · simp
    · exact visible_of_mem_letters scale
  simp only [text, unsigned, tailText, List.forall_mem_append]
  exact ⟨hsign, hmark, fun c hc => visible_of_digit (h.digit c hc), hsuffix, hscale⟩

/-- No character of a numeral is blank. -/
theorem Unambiguous.not_isBlank (h : s.Unambiguous) (c : Char) (hc : c ∈ s.text) :
    ¬Text.isBlank c := by
  obtain ⟨hlow, hhigh⟩ := h.visible c hc
  exact Text.not_isBlank_of_visible hlow hhigh

/-- A numeral between blanks is read as its parts. -/
theorem parse?_text (h : s.Unambiguous) {before after : List Char}
    (hbefore : ∀ c ∈ before, Text.isBlank c) (hafter : ∀ c ∈ after, Text.isBlank c) :
    parse? (before ++ (s.text ++ after)) = some s := by
  obtain ⟨c, rest, hunsigned, hc⟩ := h.exists_unsigned
  have hblank : s.unsigned.dropWhile Text.isBlank = s.unsigned := by
    rw [hunsigned, List.dropWhile_cons_of_neg (not_isBlank_of_digit hc)]
  have hmark : takeMark s.unsigned = (s.mark, s.digits ++ tailText s.suffixed s.scale) :=
    takeMark_letters h
  rw [parse?, Text.trim_append hbefore hafter h.not_isBlank, h.takeSign_text]
  simp only [hblank, hmark]
  exact digitsEnd?_append h.digits_ne_nil h.digit _ _ _ _

end Shape

end Numeral

end IntelHex
