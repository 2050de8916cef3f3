import IntelHex.Numeral.Convert
import IntelHex.Proofs.Trimming

/-!
# Numerals without backtracking

The parts of a numeral are found by trying alternatives. Where the rest cannot be read after a shorter
run, no alternative but the first one ever counts: what stands behind a run of digits is no digit, what
stands behind blanks is no blank, and the letters of a mark that is given up are digits of the same run.
So a text has at most one shape, and it is found from left to right.
-/

namespace IntelHex

namespace Numeral

variable {α : Type} {c : Char}

/-- The codes of hexadecimal digits. -/
theorem isDigitChar_iff (c : Char) :
    isDigitChar c ↔ 48 ≤ c.toNat ∧ c.toNat ≤ 57 ∨ 97 ≤ c.toNat ∧ c.toNat ≤ 102 := by
  simp [isDigitChar, Char.isDigit, Char.le_def, UInt32.le_iff_toNat_le]

/-- A digit is visible. -/
theorem visible_of_digit (h : isDigitChar c) : 32 < c.toNat ∧ c.toNat < 127 := by
  rw [isDigitChar_iff] at h
  omega

/-- A digit is no blank. -/
theorem not_isBlank_of_digit (h : isDigitChar c) : ¬Text.isBlank c :=
  Text.not_isBlank_of_visible (visible_of_digit h).1 (visible_of_digit h).2

/-- Reads a sign. -/
def takeSign : List Char → Bool × List Char
  | '+' :: rest => (false, rest)
  | '-' :: rest => (true, rest)
  | text => (false, text)

/-- The mark that a letter makes with a zero in front. -/
def Mark.ofLetter? : Char → Option Mark
  | 'x' => some .hexadecimal
  | 'b' => some .binary
  | 'o' => some .octal
  | _ => none

/-- Reads a mark: one of the longer ones if a digit follows it, else a zero if a digit follows it. -/
def takeMark : List Char → Option Mark × List Char
  | '0' :: letter :: rest =>
    match Mark.ofLetter? letter, rest.head?.any isDigitChar with
    | some mark, true => (some mark, rest)
    | _, _ => if isDigitChar letter then (some .zero, letter :: rest) else (none, '0' :: letter :: rest)
  | text => (none, text)

/-- Reads blanks and the scale, or nothing, up to the end. -/
def scaleEnd? (text : List Char) : Option (Option Scale) :=
  match text.dropWhile Text.isBlank with
  | [] => some none
  | letters => (Scale.ofLetters? letters).map some

/-- Reads what follows the digits, up to the end. -/
def tailEnd? : List Char → Option (Bool × Option Scale)
  | 'h' :: rest => (scaleEnd? rest).map fun scale => (true, scale)
  | text => (scaleEnd? text).map fun scale => (false, scale)

/-- Reads the longest run of digits and what follows it. -/
def digitsEnd? (negative : Bool) (mark : Option Mark) (text : List Char) : Option Shape :=
  if text.takeWhile isDigitChar = [] then none
  else (tailEnd? (text.dropWhile isDigitChar)).map fun (suffixed, scale) =>
    ⟨negative, mark, text.takeWhile isDigitChar, suffixed, scale⟩

/-- The parts of a lowercase text that is a numeral, from left to right. -/
def Shape.parse? (text : List Char) : Option Shape :=
  let (negative, text) := takeSign (Text.trim text)
  let (mark, text) := takeMark (text.dropWhile Text.isBlank)
  digitsEnd? negative mark text

/-- Of blanks as many are passed as there are, if the rest cannot be read from a blank on, or is read
no differently. -/
theorem afterBlanks_eq {next : List Char → Option α} {text : List Char}
    (h : ∀ c rest, Text.isBlank c → next (c :: rest) = none ∨
      next (c :: rest) = next (rest.dropWhile Text.isBlank)) :
    afterBlanks next text = next (text.dropWhile Text.isBlank) := by
  induction text with
  | nil => rfl
  | cons c rest ih =>
    rw [afterBlanks]
    by_cases hblank : Text.isBlank c
    · rw [if_pos hblank, List.dropWhile_cons_of_pos hblank, ih]
      rcases h c rest hblank with hnone | hsame
      · rw [hnone, Option.or_none]
      · rw [hsame, Option.or_self]
    · rw [if_neg hblank, List.dropWhile_cons_of_neg hblank]

/-- After the last part there may be blanks. -/
theorem afterBlanks_atEnd (parts : α) (text : List Char) :
    afterBlanks (atEnd parts) text = if Text.trimEnd text = [] then some parts else none := by
  induction text with
  | nil => rfl
  | cons c rest ih =>
    rw [afterBlanks, Text.trimEnd_cons]
    by_cases hblank : Text.isBlank c
    · rw [if_pos hblank, ih]
      by_cases hnil : Text.trimEnd rest = [] <;> simp [hnil, hblank, atEnd]
    · simp [hblank, atEnd]

/-- Of digits as many are taken as there are, if what follows cannot be read from a digit on. -/
theorem takingDigits_eq {next : List Char → List Char → Option α}
    (h : ∀ taken c rest, isDigitChar c → next taken (c :: rest) = none) (taken text : List Char) :
    takingDigits next taken text =
      if text.takeWhile isDigitChar = [] then none
      else next ((text.takeWhile isDigitChar).reverse ++ taken) (text.dropWhile isDigitChar) := by
  induction text generalizing taken with
  | nil => rfl
  | cons c rest ih =>
    rw [takingDigits]
    by_cases hc : isDigitChar c
    · -- to stop here counts only if no digit follows, and then no more digits can be taken
      rw [if_pos hc, ih, List.takeWhile_cons_of_pos hc, List.dropWhile_cons_of_pos hc,
        if_neg (List.cons_ne_nil _ _), List.reverse_cons, List.append_assoc, List.singleton_append]
      cases rest with
      | nil => rfl
      | cons d rest =>
        by_cases hd : isDigitChar d
        · rw [h _ d rest hd, Option.or_none, if_neg (by simp [hd])]
        · rw [List.takeWhile_cons_of_neg hd, List.dropWhile_cons_of_neg hd, if_pos rfl,
            Option.none_or, List.reverse_nil, List.nil_append]
    · rw [if_neg hc, List.takeWhile_cons_of_neg hc, if_pos rfl]

/-- Letters that are not blank are read up to the end exactly if they are all that is left. -/
theorem bind_dropLetters? {letters : List Char} (hletters : ∀ c ∈ letters, ¬Text.isBlank c)
    (parts : α) (text : List Char) :
    (dropLetters? letters text).bind (afterBlanks (atEnd parts)) =
      if letters = Text.trimEnd text then some parts else none := by
  induction letters generalizing text with
  | nil =>
    rw [dropLetters?, Option.bind_some, afterBlanks_atEnd]
    simp only [eq_comm]
  | cons l letters ih =>
    obtain ⟨hl, hletters⟩ := List.forall_mem_cons.1 hletters
    cases text with
    | nil => simp [dropLetters?, Text.trimEnd]
    | cons c text =>
      rw [dropLetters?]
      by_cases heq : l = c
      · subst heq
        rw [if_pos rfl, ih hletters, Text.trimEnd_cons_of_not hl]
        simp
      · rw [if_neg heq, Option.bind_none]
        rcases Text.trimEnd_cons_eq c text with hnil | hcons
        · simp [hnil]
        · simp [hcons, heq]

/-- The letters of a scale are visible. -/
theorem visible_of_mem_letters (scale : Scale) :
    ∀ c ∈ scale.letters, 32 < c.toNat ∧ c.toNat < 127 := by
  cases scale <;> simp [Scale.letters]

/-- No letter of a scale is blank. -/
theorem not_isBlank_of_mem_letters (scale : Scale) (c : Char) (hc : c ∈ scale.letters) :
    ¬Text.isBlank c := by
  obtain ⟨hlow, hhigh⟩ := visible_of_mem_letters scale c hc
  exact Text.not_isBlank_of_visible hlow hhigh

/-- Of some scales the one is taken that is all that is left. -/
theorem choosing_scale (text : List Char) (more : List Scale) :
    choosing Scale.letters (fun scale => afterBlanks (atEnd scale)) text more =
      match more.find? fun scale => scale.letters = Text.trimEnd text with
      | some scale => some (some scale)
      | none => if Text.trimEnd text = [] then some none else none := by
  induction more with
  | nil => rw [choosing, afterBlanks_atEnd, List.find?_nil]
  | cons scale more ih =>
    rw [choosing, bind_dropLetters? (not_isBlank_of_mem_letters scale), ih, List.find?_cons]
    by_cases heq : scale.letters = Text.trimEnd text <;> simp [heq]

/-- A scale is read up to the end, whatever blanks are there. -/
theorem readScale_eq (text : List Char) : readScale text = scaleEnd? (Text.trimEnd text) := by
  have hblanks : readScale text = choosing Scale.letters (fun scale => afterBlanks (atEnd scale))
      (text.dropWhile Text.isBlank) Scale.all := by
    apply afterBlanks_eq
    intro c rest hblank
    rw [choosing_scale, choosing_scale, ← Text.dropWhile_trimEnd]
    rcases Text.trimEnd_cons_eq c rest with hnil | hcons
    · have hrest : Text.trimEnd rest = [] := by
        by_contra hsome
        rw [Text.trimEnd_cons, if_neg fun hboth => hsome hboth.1] at hnil
        cases hnil
      rw [hnil, hrest]
      exact .inr rfl
    · have hnone (scale : Scale) : scale.letters ≠ c :: Text.trimEnd rest := by
        intro hletters
        exact not_isBlank_of_mem_letters scale c (hletters ▸ List.mem_cons_self) hblank
      simp [hcons, hnone, List.find?_eq_none.2]
  rw [hblanks, choosing_scale, scaleEnd?, Text.dropWhile_trimEnd]
  cases hletters : Text.trimEnd (text.dropWhile Text.isBlank) with
  | nil => rfl
  | cons c letters =>
    change _ = (Scale.ofLetters? (c :: letters)).map some
    rw [Scale.ofLetters?]
    cases Scale.all.find? fun scale => scale.letters = c :: letters <;> rfl

/-- A scale does not begin with an `h`. -/
theorem scaleEnd?_h (rest : List Char) : scaleEnd? ('h' :: rest) = none := by
  rw [scaleEnd?, List.dropWhile_cons_of_neg (by decide)]
  simp [Scale.ofLetters?, Scale.all, Scale.letters]

/-- What follows the digits is read up to the end, whatever blanks are there. -/
theorem readTail_eq (text : List Char) : readTail text = tailEnd? (Text.trimEnd text) := by
  cases text with
  | nil => simp [readTail, readScale_eq, tailEnd?, Text.trimEnd]
  | cons c rest =>
    by_cases hc : c = 'h'
    · subst hc
      have hh : ¬Text.isBlank 'h' := by decide
      rw [readTail, readScale_eq, readScale_eq, Text.trimEnd_cons_of_not hh, scaleEnd?_h, tailEnd?]
      simp
    · rcases Text.trimEnd_cons_eq c rest with hnil | hcons
      · simp [readTail, readScale_eq, tailEnd?, hc, hnil]
      · simp [readTail, readScale_eq, tailEnd?, hc, hcons]

/-- What follows the digits begins with a blank, an `h` or a scale. -/
theorem readTail_of_other (hh : c ≠ 'h') (hblank : ¬Text.isBlank c)
    (hscale : ∀ scale ∈ Scale.all, scale.letters.head? ≠ some c) (rest : List Char) :
    readTail (c :: rest) = none := by
  have hnone : Scale.ofLetters? (c :: Text.trimEnd rest) = none := by
    rw [Scale.ofLetters?, List.find?_eq_none]
    intro scale hmem hletters
    apply hscale scale hmem
    rw [of_decide_eq_true hletters, List.head?_cons]
  rw [readTail_eq, Text.trimEnd_cons_of_not hblank]
  simp [tailEnd?, hh, scaleEnd?, hblank, hnone]

/-- A digit does not follow a run of digits. -/
theorem readTail_of_digit (h : isDigitChar c) (rest : List Char) : readTail (c :: rest) = none := by
  apply readTail_of_other _ (not_isBlank_of_digit h)
  · rintro scale - hc
    cases scale <;> cases hc <;> revert h <;> decide
  · rintro rfl
    revert h
    decide

/-- The digits and what follows them, for a sign and a mark that have been read. -/
def digitsFrom (negative : Bool) (mark : Option Mark) : List Char → Option Shape :=
  takingDigits (fun taken rest => (readTail rest).map fun (suffixed, scale) =>
    ⟨negative, mark, taken.reverse, suffixed, scale⟩) []

/-- Only the longest run of digits counts. -/
theorem digitsFrom_eq (negative : Bool) (mark : Option Mark) (text : List Char) :
    digitsFrom negative mark text = digitsEnd? negative mark (Text.trimEnd text) := by
  have hdigit : ∀ c, isDigitChar c → ¬Text.isBlank c := fun c => not_isBlank_of_digit
  rw [digitsFrom, takingDigits_eq, digitsEnd?, Text.takeWhile_trimEnd hdigit,
    Text.dropWhile_run_trimEnd hdigit, readTail_eq, List.append_nil, List.reverse_reverse]
  intro taken c rest hc
  rw [readTail_of_digit hc, Option.map_none]

/-- Without a digit in front nothing is read. -/
theorem digitsFrom_of_not_digit {text : List Char} (h : ¬text.head?.any isDigitChar)
    (negative : Bool) (mark : Option Mark) : digitsFrom negative mark text = none := by
  cases text with
  | nil => rfl
  | cons c rest =>
    have hc : ¬isDigitChar c := h
    rw [digitsFrom, takingDigits, if_neg hc]

/-- A zero is not read by itself in front of the letter of a mark that is no digit. -/
theorem digitsFrom_zero (negative : Bool) (mark : Option Mark) {letter : Char} {rest : List Char}
    (hdigit : ¬isDigitChar letter) (htail : readTail (letter :: rest) = none) :
    digitsFrom negative mark ('0' :: letter :: rest) = none := by
  simp [digitsFrom, takingDigits, hdigit, htail]

/-- Another mark in front of the same digits does not make the rest easier to read. -/
theorem digitsFrom_or (negative : Bool) (mark other : Option Mark) {text more : List Char}
    (hdigit : text.head?.any isDigitChar)
    (hsame : more.dropWhile isDigitChar = text.dropWhile isDigitChar) :
    (digitsFrom negative mark text).or (digitsFrom negative other more) =
      digitsFrom negative mark text := by
  have hblank : ∀ c, isDigitChar c → ¬Text.isBlank c := fun c => not_isBlank_of_digit
  have hrun : text.takeWhile isDigitChar ≠ [] := by
    cases text with
    | nil => cases hdigit
    | cons c rest =>
      have hc : isDigitChar c := hdigit
      rw [List.takeWhile_cons_of_pos hc]
      exact List.cons_ne_nil _ _
  rw [digitsFrom_eq, digitsFrom_eq, digitsEnd?, digitsEnd?, Text.takeWhile_trimEnd hblank,
    Text.takeWhile_trimEnd hblank, Text.dropWhile_run_trimEnd hblank,
    Text.dropWhile_run_trimEnd hblank, hsame, if_neg hrun]
  cases tailEnd? (Text.trimEnd (text.dropWhile isDigitChar)) with
  | none => split <;> rfl
  | some tail => rfl

/-- A letter that makes a mark and is no digit makes it, or nothing is read at all. -/
theorem choose_letter (negative : Bool) (mark : Mark) {letter : Char} (rest : List Char)
    (hletter : Mark.ofLetter? letter = some mark) (hdigit : ¬isDigitChar letter)
    (htail : readTail (letter :: rest) = none) :
    (digitsFrom negative (some mark) rest).or
        ((digitsFrom negative (some .zero) (letter :: rest)).or
          (digitsFrom negative none ('0' :: letter :: rest))) =
      digitsFrom negative (takeMark ('0' :: letter :: rest)).1
        (takeMark ('0' :: letter :: rest)).2 := by
  have hletters : ¬(letter :: rest).head?.any isDigitChar := hdigit
  rw [digitsFrom_of_not_digit hletters, digitsFrom_zero _ _ hdigit htail,
    Option.none_or, Option.or_none, takeMark, hletter]
  by_cases hrest : rest.head?.any isDigitChar
  · simp [hrest]
  · rw [digitsFrom_of_not_digit hrest]
    simp [hrest, hdigit, digitsFrom_zero negative none hdigit htail]

/-- In front of a digit a zero is a mark, whatever follows. -/
theorem choose_zero (negative : Bool) {letter : Char} (rest : List Char)
    (hdigit : isDigitChar letter) :
    (digitsFrom negative (some .zero) (letter :: rest)).or
        (digitsFrom negative none ('0' :: letter :: rest)) =
      digitsFrom negative (some .zero) (letter :: rest) := by
  have hletters : (letter :: rest).head?.any isDigitChar := hdigit
  apply digitsFrom_or negative _ _ hletters
  rw [List.dropWhile_cons_of_pos (by decide)]

/-- The letter `b` makes a mark if a digit follows it, and is a digit behind a zero if not. -/
theorem choose_b (negative : Bool) (rest : List Char) :
    (digitsFrom negative (some .binary) rest).or
        ((digitsFrom negative (some .zero) ('b' :: rest)).or
          (digitsFrom negative none ('0' :: 'b' :: rest))) =
      digitsFrom negative (takeMark ('0' :: 'b' :: rest)).1 (takeMark ('0' :: 'b' :: rest)).2 := by
  rw [choose_zero negative rest (by decide), takeMark, Mark.ofLetter?]
  by_cases hrest : rest.head?.any isDigitChar
  · rw [digitsFrom_or negative _ _ hrest (List.dropWhile_cons_of_pos (by decide))]
    simp [hrest]
  · rw [digitsFrom_of_not_digit hrest, Option.none_or]
    simp [hrest, show isDigitChar 'b' = true by decide]

/-- The mark is known from what stands in front. -/
theorem readBody_eq (negative : Bool) (text : List Char) :
    readBody negative text = digitsFrom negative (takeMark text).1 (takeMark text).2 := by
  -- all four marks begin with a zero; of the letters behind it only `b` is a digit as well
  change choosing Mark.letters (digitsFrom negative) text Mark.all = _
  rcases text with _ | ⟨c, _ | ⟨letter, rest⟩⟩
  · rfl
  · by_cases hc : c = '0'
    · subst hc
      rfl
    · have hmark : takeMark [c] = (none, [c]) := by simp [takeMark]
      simp [hmark, choosing, Mark.all, Mark.letters, dropLetters?, Ne.symm hc]
  · by_cases hc : c = '0'
    · subst hc
      by_cases hx : letter = 'x'
      · subst hx
        rw [← choose_letter negative .hexadecimal rest rfl (by decide)
          (readTail_of_other (by decide) (by decide) (by decide) rest)]
        simp [choosing, Mark.all, Mark.letters, dropLetters?]
      by_cases hb : letter = 'b'
      · subst hb
        rw [← choose_b]
        simp [choosing, Mark.all, Mark.letters, dropLetters?]
      by_cases ho : letter = 'o'
      · subst ho
        rw [← choose_letter negative .octal rest rfl (by decide)
          (readTail_of_other (by decide) (by decide) (by decide) rest)]
        simp [choosing, Mark.all, Mark.letters, dropLetters?]
      have hmark : Mark.ofLetter? letter = none := by simp [Mark.ofLetter?]
      rw [takeMark, hmark]
      by_cases hdigit : isDigitChar letter
      · simp [choosing, Mark.all, Mark.letters, dropLetters?, Ne.symm hx, Ne.symm hb, Ne.symm ho,
          hdigit, choose_zero negative rest hdigit]
      · have hletters : ¬(letter :: rest).head?.any isDigitChar := hdigit
        simp [choosing, Mark.all, Mark.letters, dropLetters?, Ne.symm hx, Ne.symm hb, Ne.symm ho,
          hdigit, digitsFrom_of_not_digit hletters]
    · have hmark : takeMark (c :: letter :: rest) = (none, c :: letter :: rest) := by
        simp [takeMark, hc]
      simp [hmark, choosing, Mark.all, Mark.letters, dropLetters?, Ne.symm hc]

/-- A mark or digits begin with a digit. -/
theorem readBody_of_not_digit (h : ¬isDigitChar c) (negative : Bool) (rest : List Char) :
    readBody negative (c :: rest) = none := by
  have hmark : takeMark (c :: rest) = (none, c :: rest) := by
    have hzero : c ≠ '0' := by
      rintro rfl
      exact h (by decide)
    simp [takeMark, hzero]
  have hletters : ¬(c :: rest).head?.any isDigitChar := h
  rw [readBody_eq, hmark]
  exact digitsFrom_of_not_digit hletters negative none

/-- Any other character is no sign. -/
theorem takeSign_cons (hplus : c ≠ '+') (hminus : c ≠ '-') (rest : List Char) :
    takeSign (c :: rest) = (false, c :: rest) := by
  simp [takeSign, hplus, hminus]

/-- The sign is known from what stands in front. -/
theorem afterSign_eq (text : List Char) :
    afterSign (fun negative => afterBlanks (readBody negative)) text =
      readBody (takeSign text).1 ((takeSign text).2.dropWhile Text.isBlank) := by
  have hblanks (negative : Bool) (text : List Char) :
      afterBlanks (readBody negative) text = readBody negative (text.dropWhile Text.isBlank) := by
    apply afterBlanks_eq
    intro c rest hblank
    exact .inl (readBody_of_not_digit (fun hdigit => not_isBlank_of_digit hdigit hblank) _ _)
  cases text with
  | nil => exact hblanks false []
  | cons c rest =>
    by_cases hplus : c = '+'
    · subst hplus
      rw [afterSign, hblanks, hblanks, List.dropWhile_cons_of_neg (by decide),
        readBody_of_not_digit (c := '+') (by decide), Option.or_none, takeSign]
    by_cases hminus : c = '-'
    · subst hminus
      rw [afterSign, hblanks, hblanks, List.dropWhile_cons_of_neg (by decide),
        readBody_of_not_digit (c := '-') (by decide), Option.or_none, takeSign]
    simp [afterSign, takeSign_cons, hplus, hminus, hblanks]

/-- The blanks at the end are left after a sign. -/
theorem takeSign_trimEnd (text : List Char) :
    takeSign (Text.trimEnd text) = ((takeSign text).1, Text.trimEnd (takeSign text).2) := by
  cases text with
  | nil => rfl
  | cons c rest =>
    by_cases hplus : c = '+'
    · subst hplus
      rw [Text.trimEnd_cons_of_not (by decide), takeSign, takeSign]
    by_cases hminus : c = '-'
    · subst hminus
      rw [Text.trimEnd_cons_of_not (by decide), takeSign, takeSign]
    rcases Text.trimEnd_cons_eq c rest with hnil | hcons
    · rw [takeSign_cons hplus hminus, hnil]
      rfl
    · rw [takeSign_cons hplus hminus, hcons, takeSign_cons hplus hminus]

/-- Any other character makes no mark. -/
theorem takeMark_cons (h : c ≠ '0') (rest : List Char) : takeMark (c :: rest) = (none, c :: rest) := by
  simp [takeMark, h]

/-- Behind a zero a blank makes no mark. -/
theorem takeMark_zero_of_blank (h : Text.isBlank c) (rest : List Char) :
    takeMark ('0' :: c :: rest) = (none, '0' :: c :: rest) := by
  have hdigit : ¬isDigitChar c := fun hdigit => not_isBlank_of_digit hdigit h
  have hletter : Mark.ofLetter? c = none := by
    unfold Mark.ofLetter?
    split
    iterate 3 exact absurd h (by decide)
    rfl
  simp [takeMark, hletter, hdigit]

/-- A text begins with a digit if it does so without the blanks at its end. -/
theorem any_head?_trimEnd (text : List Char) :
    (Text.trimEnd text).head?.any isDigitChar = text.head?.any isDigitChar := by
  cases text with
  | nil => rfl
  | cons c rest =>
    by_cases hblank : Text.isBlank c
    · have hdigit : ¬isDigitChar c := fun hdigit => not_isBlank_of_digit hdigit hblank
      rcases Text.trimEnd_cons_eq c rest with hnil | hcons
      · simp [hnil, hdigit]
      · rw [hcons]
        rfl
    · rw [Text.trimEnd_cons_of_not hblank]
      rfl

/-- The blanks at the end are left after a mark. -/
theorem takeMark_trimEnd (text : List Char) :
    takeMark (Text.trimEnd text) = ((takeMark text).1, Text.trimEnd (takeMark text).2) := by
  have hzero : ¬Text.isBlank '0' := by decide
  rcases text with _ | ⟨c, rest⟩
  · rfl
  by_cases hc : c = '0'
  · subst hc
    rw [Text.trimEnd_cons_of_not hzero]
    rcases rest with _ | ⟨letter, rest⟩
    · rfl
    by_cases hblank : Text.isBlank letter
    · rw [takeMark_zero_of_blank hblank, Text.trimEnd_cons_of_not hzero]
      rcases Text.trimEnd_cons_eq letter rest with hnil | hcons
      · rw [hnil]
        rfl
      · rw [hcons, takeMark_zero_of_blank hblank]
    · rw [Text.trimEnd_cons_of_not hblank, takeMark, takeMark, any_head?_trimEnd]
      cases Mark.ofLetter? letter <;> cases rest.head?.any isDigitChar <;>
        by_cases hdigit : isDigitChar letter <;>
          simp [hdigit, Text.trimEnd_cons_of_not hblank, Text.trimEnd_cons_of_not hzero]
  · rw [takeMark_cons hc]
    rcases Text.trimEnd_cons_eq c rest with hnil | hcons
    · rw [hnil]
      rfl
    · rw [hcons, takeMark_cons hc]

/-- A numeral is read from left to right, without trying anything twice. -/
theorem Shape.ofText?_eq_parse? (text : List Char) : Shape.ofText? text = Shape.parse? text := by
  have hblanks : Shape.ofText? text = afterSign (fun negative => afterBlanks (readBody negative))
      (text.dropWhile Text.isBlank) := by
    -- blanks that are given back stand behind no sign: a sign after them is not read any more,
    -- and without a sign they are passed all the same
    apply afterBlanks_eq
    intro c rest hblank
    have hsign : takeSign (c :: rest) = (false, c :: rest) := by
      apply takeSign_cons <;> rintro rfl <;> revert hblank <;> decide
    have hdropped := List.dropWhile_idempotent Text.isBlank rest
    rw [afterSign_eq, afterSign_eq, hsign, List.dropWhile_cons_of_pos hblank]
    cases hrest : rest.dropWhile Text.isBlank with
    | nil => exact .inr rfl
    | cons d more =>
      rw [hrest] at hdropped
      by_cases hplus : d = '+'
      · subst hplus
        exact .inl (readBody_of_not_digit (by decide) false more)
      by_cases hminus : d = '-'
      · subst hminus
        exact .inl (readBody_of_not_digit (by decide) false more)
      rw [takeSign_cons hplus hminus, hdropped]
      exact .inr rfl
  rw [hblanks, afterSign_eq, readBody_eq, digitsFrom_eq, Shape.parse?, Text.trim,
    takeSign_trimEnd]
  simp only [Text.dropWhile_trimEnd, takeMark_trimEnd]

end Numeral

end IntelHex
