import Mathlib.Data.List.DropRight
import IntelHex.Text.Blank
import IntelHex.Text.Lowercase

/-!
# Texts between blanks

Blanks are dropped at both ends of a text, independently of each other and of what stands between them.
A text of ASCII characters and blanks is lowered character by character.
-/

namespace IntelHex

namespace Text

/-- A text without the blanks at its end. -/
def trimEnd (text : List Char) : List Char :=
  text.rdropWhile isBlank

/-- A text without the blanks around it. -/
def trim (text : List Char) : List Char :=
  trimEnd (text.dropWhile isBlank)

variable {c : Char}

/-- A visible character of ASCII text is not blank. -/
theorem not_isBlank_of_visible (hlow : 32 < c.toNat) (hhigh : c.toNat < 127) : ¬isBlank c := by
  simp only [isBlank, covered, blankRanges, List.any_cons, List.any_nil, Bool.or_eq_true,
    Bool.and_eq_true, decide_eq_true_eq, Bool.false_eq_true, or_false]
  omega

/-- A character in front is kept, unless it and all behind it are blank. -/
theorem trimEnd_cons (c : Char) (text : List Char) :
    trimEnd (c :: text) = if trimEnd text = [] ∧ isBlank c then [] else c :: trimEnd text := by
  rw [trimEnd, List.rdropWhile, List.reverse_cons, List.dropWhile_append]
  rw [trimEnd, List.rdropWhile]
  by_cases hnil : text.reverse.dropWhile isBlank = [] <;> by_cases hblank : isBlank c <;>
    simp [hnil, hblank]

/-- A character that is not blank is kept. -/
theorem trimEnd_cons_of_not (h : ¬isBlank c) (text : List Char) :
    trimEnd (c :: text) = c :: trimEnd text := by
  rw [trimEnd_cons, if_neg fun hblank => h hblank.2]

/-- What is kept of a text begins as the text does. -/
theorem trimEnd_cons_eq (c : Char) (text : List Char) :
    trimEnd (c :: text) = [] ∨ trimEnd (c :: text) = c :: trimEnd text := by
  rw [trimEnd_cons]
  split
  · exact .inl rfl
  · exact .inr rfl

/-- Blanks at both ends are dropped independently. -/
theorem dropWhile_trimEnd (text : List Char) :
    (trimEnd text).dropWhile isBlank = trimEnd (text.dropWhile isBlank) := by
  induction text with
  | nil => rfl
  | cons c text ih =>
    by_cases hblank : isBlank c
    · rw [List.dropWhile_cons_of_pos hblank, ← ih, trimEnd_cons]
      by_cases hnil : trimEnd text = []
      · simp [hnil, hblank]
      · simp [hnil, hblank]
    · rw [List.dropWhile_cons_of_neg hblank, trimEnd_cons_of_not hblank,
        List.dropWhile_cons_of_neg hblank]

section Runs

variable {p : Char → Bool} (hp : ∀ c, p c → ¬isBlank c)
include hp

/-- A run of characters that are not blank is the same without the blanks at the end. -/
theorem takeWhile_trimEnd (text : List Char) :
    (trimEnd text).takeWhile p = text.takeWhile p := by
  induction text with
  | nil => rfl
  | cons c text ih =>
    by_cases hc : p c
    · rw [trimEnd_cons_of_not (hp c hc), List.takeWhile_cons_of_pos hc, List.takeWhile_cons_of_pos hc,
        ih]
    · rw [List.takeWhile_cons_of_neg hc]
      rcases trimEnd_cons_eq c text with hnil | hcons
      · rw [hnil, List.takeWhile_nil]
      · rw [hcons, List.takeWhile_cons_of_neg hc]

/-- What stands behind such a run is trimmed by itself. -/
theorem dropWhile_run_trimEnd (text : List Char) :
    (trimEnd text).dropWhile p = trimEnd (text.dropWhile p) := by
  induction text with
  | nil => rfl
  | cons c text ih =>
    by_cases hc : p c
    · rw [trimEnd_cons_of_not (hp c hc), List.dropWhile_cons_of_pos hc, List.dropWhile_cons_of_pos hc,
        ih]
    · rw [List.dropWhile_cons_of_neg hc]
      rcases trimEnd_cons_eq c text with hnil | hcons
      · rw [hnil, List.dropWhile_nil]
      · rw [hcons, List.dropWhile_cons_of_neg hc]

end Runs

/-- The blanks around a text without blanks are dropped. -/
theorem trim_append {before text after : List Char} (hbefore : ∀ c ∈ before, isBlank c)
    (hafter : ∀ c ∈ after, isBlank c) (htext : ∀ c ∈ text, ¬isBlank c) :
    trim (before ++ (text ++ after)) = text := by
  have hend : trimEnd (text ++ after) = text := by
    induction text with
    | nil =>
      rw [List.nil_append, trimEnd, List.rdropWhile_eq_nil_iff]
      exact hafter
    | cons c text ih =>
      obtain ⟨hc, htext⟩ := List.forall_mem_cons.1 htext
      rw [List.cons_append, trimEnd_cons_of_not hc, ih htext]
  rw [trim, List.dropWhile_append_of_pos hbefore, ← dropWhile_trimEnd, hend]
  cases text with
  | nil => rfl
  | cons c text => rw [List.dropWhile_cons_of_neg (htext c List.mem_cons_self)]

/-- An ASCII character or a blank is lowered on its own. -/
theorem lowerInContext_eq {c : Char} (h : c.toNat < 128 ∨ isBlank c) (before after : List Char) :
    lowerInContext before c after = [c.toLower] := by
  have hascii : ∀ code : Fin 128, lowerChar (Char.ofNat code.val) = (Char.ofNat code.val).toLower := by
    decide +kernel
  have hblank : ∀ range ∈ blankRanges, ∀ code ∈ List.range' range.1 (range.2 + 1 - range.1),
      code ≠ 0x130 ∧ code ≠ 0x3A3 ∧ caseRuns.find? (·.holds code) = none ∧
        (Char.ofNat code).toLower = Char.ofNat code := by
    decide +kernel
  have hchar : Char.ofNat c.toNat = c := Char.ofNat_toNat c
  rcases h with hsmall | hcovered
  · have hlower := hascii ⟨c.toNat, hsmall⟩
    rw [hchar] at hlower
    rw [lowerInContext, if_neg (by omega), if_neg (by omega), hlower]
  · obtain ⟨range, hrange, hfirst, hlast⟩ := (covered_iff _ _).1 hcovered
    have hmem : c.toNat ∈ List.range' range.1 (range.2 + 1 - range.1) := by
      rw [List.mem_range'_1]
      omega
    obtain ⟨hdotted, hsigma, hruns, hlower⟩ := hblank range hrange _ hmem
    rw [hchar] at hlower
    rw [lowerInContext, if_neg hdotted, if_neg hsigma, lowerChar, hruns, hlower]

/-- A character that is lowered to an ASCII character or a blank is one. -/
theorem plain_of_toLower {c : Char} (h : c.toLower.toNat < 128 ∨ isBlank c.toLower) :
    c.toNat < 128 ∨ isBlank c := by
  by_cases hupper : c.val ≥ 'A'.val ∧ c.val ≤ 'Z'.val
  · have hcode : c.toNat ≤ 90 := UInt32.le_iff_toNat_le.1 hupper.2
    exact .inl (by omega)
  · have hlower : c.toLower = c := dif_neg hupper
    rwa [hlower] at h

/-- A text in any letter case, of ASCII characters and blanks, is lowered character by character. -/
theorem lowercase_eq_map {content : List Char}
    (h : ∀ c ∈ content.map Char.toLower, c.toNat < 128 ∨ isBlank c) :
    lowercase content = content.map Char.toLower := by
  have hfrom (before : List Char) : lowerFrom before content = content.map Char.toLower := by
    induction content generalizing before with
    | nil => rfl
    | cons c content ih =>
      obtain ⟨hc, hcontent⟩ := List.forall_mem_cons.1 h
      rw [lowerFrom, lowerInContext_eq (plain_of_toLower hc), ih hcontent]
      rfl
  exact hfrom []

end Text

end IntelHex
