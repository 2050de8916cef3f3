import IntelHex.Proofs.Fields

/-!
# What every text is made of

Every text is divided into tokens that are valid and taken, and a remainder that is empty, or only
begins a record, or shows a defect. The division is found token by token: what follows a colon is
first divided into digits and the rest, and the digits are followed up to the first one that completes
a record or does not belong there.
-/

namespace IntelHex

/-- Consumers that never reset the decoder that asks them. -/
def Host.Steady {κ σ : Type} (host : Host κ σ) : Prop :=
  ∀ consumer block world, (host consumer block world).1.restart = false

/-- Consumers that never break off: they take a block or refuse it. -/
def Host.Calm {κ σ : Type} (host : Host κ σ) : Prop :=
  ∀ consumer block world, (host consumer block world).1.verdict = .accept ∨
    (host consumer block world).1.verdict = .reject

namespace Token

variable {κ σ : Type} {host : Host κ σ} {s : Standing σ}

/-- A data record is what its consumer says to it. -/
theorem enact_of_due {r : Record} (hcode : r.code = 0) (consumer : κ) :
    enact host (some consumer) s (.record r) =
      ((host consumer (r.block s.addressing) s.world).1.verdict,
        ⟨s.addressing, (host consumer (r.block s.addressing) s.world).2⟩) := by
  have hextend : r.extend s.addressing = s.addressing := by
    rw [Record.extend, hcode]
    rfl
  simp only [enact, block?, extend, if_pos hcode, hextend]

/-- Any other token is accepted, and no consumer is asked. -/
theorem enact_of_idle {consumer : Option κ} {token : Token}
    (h : token.block? s.addressing = none ∨ consumer = none) :
    enact host consumer s token = (.accept, ⟨token.extend s.addressing, s.world⟩) := by
  unfold enact
  rcases h with hblock | rfl
  · rw [hblock]
    cases consumer <;> rfl
  · rfl

end Token

/-- What is left of a text that no more tokens can be taken from. -/
inductive Remainder {κ σ : Type} (host : Host κ σ) (setting : Setting κ) (s : Standing σ) :
    List UInt8 → Prop
  /-- There is nothing left. -/
  | nothing : Remainder host setting s []
  /-- A record is begun and not completed. -/
  | unfinished {digits : List Digit} {body : List UInt8} (hbody : Digit.Spells digits body)
      (hopen : Unfinished setting digits) : Remainder host setting s (recordMark :: body)
  /-- There is a byte that no token can hold. -/
  | defect {text : List UInt8} {cause : Cause} {offset : Nat}
      (h : Defect host setting s text cause offset) : Remainder host setting s text

variable {κ σ : Type} {host : Host κ σ} {setting : Setting κ} {s : Standing σ}

/-- The digits before the code of a type are six and a zero. -/
theorem Unfinished.exists_type {digits : List Digit} (h : Unfinished setting digits)
    (hlength : digits.length = 7) : ∃ first : List Digit, first.length = 6 ∧ digits = first ++ [0] := by
  have hsome : digits ≠ [] := List.ne_nil_of_length_eq_add_one hlength
  have hfirst : digits.dropLast.length = 6 := by rw [List.length_dropLast, hlength]
  have hsplit := List.dropLast_concat_getLast hsome
  have hlast : digits[6]? = some (digits.getLast hsome) := by
    conv_lhs => rw [← hsplit, ← hfirst]
    exact List.getElem?_concat_length
  rw [h.typeHigh _ hlast] at hsplit
  exact ⟨digits.dropLast, hfirst, hsplit.symm⟩

/-- A valid record is taken as a token, or its consumer refuses it. -/
theorem Record.Valid.defect_or_taken {r : Record} (h : r.Valid setting) (hcalm : host.Calm)
    {body : List UInt8} (hbody : Digit.Spells r.digits body) (rest : List UInt8) :
    (∃ cause offset, Defect host setting s (recordMark :: (body ++ rest)) cause offset) ∨
      ∃ t, (Token.record r).enact host setting.consumer s = (.accept, t) := by
  by_cases hcode : r.code = 0
  · cases hconsumer : setting.consumer with
    | none => exact .inr ⟨_, Token.enact_of_idle (.inr rfl)⟩
    | some consumer =>
      have henact : (Token.record r).enact host (some consumer) s = _ :=
        Token.enact_of_due hcode consumer
      rcases hcalm consumer (r.block s.addressing) s.world with haccept | hreject
      · exact .inr ⟨_, haccept ▸ henact⟩
      · exact .inl ⟨_, _, .rejected h hbody hconsumer hcode hreject⟩
  · exact .inr ⟨_, Token.enact_of_idle (.inl (if_neg hcode))⟩

/-- Digits with one that ends the beginning of a record, or does not belong there, show a defect or
begin with a valid record that is taken. -/
theorem Unfinished.defect_or_taken {digits : List Digit} {digit : Digit}
    (h : Unfinished setting digits) (hnot : ¬Unfinished setting (digits ++ [digit]))
    (hcalm : host.Calm) {body : List UInt8} (hbody : Digit.Spells (digits ++ [digit]) body)
    (rest : List UInt8) :
    (∃ cause offset, Defect host setting s (recordMark :: (body ++ rest)) cause offset) ∨
      ∃ r t, Digit.Spells (Record.digits r) body ∧ r.Valid setting ∧
        (Token.record r).enact host setting.consumer s = (.accept, t) := by
  rcases h.of_not_concat hnot with ⟨hlength, hdigit⟩ | ⟨hlength, hcode⟩ |
      ⟨hlength, hcode, hsome, hlarge⟩ | ⟨r, hr, hadmitted⟩
  · exact .inl ⟨_, _, .typeNotSmall hlength hbody hdigit⟩
  · obtain ⟨first, hfirst, rfl⟩ := h.exists_type hlength
    rw [List.append_assoc] at hbody
    exact .inl ⟨_, _, .unsupportedType hfirst hbody hcode⟩
  · obtain ⟨first, hfirst, rfl⟩ := h.exists_type hlength
    rw [List.append_assoc] at hbody
    rw [Digit.declared_concat_of_le 0 (by omega)] at hsome hlarge
    exact .inl ⟨_, _, .countOverflow hfirst hbody hcode hsome hlarge⟩
  · rw [← hr] at hbody
    by_cases hsum : r.residue = 0
    · have hvalid : r.Valid setting := ⟨hadmitted, hsum⟩
      rcases hvalid.defect_or_taken hcalm hbody rest with hdefect | ⟨t, htaken⟩
      · exact .inl hdefect
      · exact .inr ⟨r, t, hbody, hvalid, htaken⟩
    · exact .inl ⟨_, _, .checksum hadmitted hbody hsum⟩

/-- A text that no token can be taken from is a remainder. -/
theorem remainder_or_exists_token (hcalm : host.Calm) (setting : Setting κ) (s : Standing σ)
    (text : List UInt8) :
    Remainder host setting s text ∨ ∃ (token : Token) (before rest : List UInt8) (t : Standing σ),
      text = before ++ rest ∧ before ≠ [] ∧ token.Spells before ∧ token.Valid setting ∧
        token.enact host setting.consumer s = (.accept, t) := by
  cases text with
  | nil => exact .inl .nothing
  | cons b text =>
    by_cases hlf : b = lineFeed
    · subst hlf
      exact .inr ⟨.lineFeed, _, text, _, rfl, List.cons_ne_nil _ [], rfl, trivial,
        Token.enact_of_idle (.inl rfl)⟩
    · by_cases hcr : b = carriageReturn
      · subst hcr
        exact .inr ⟨.carriageReturn, _, text, _, rfl, List.cons_ne_nil _ [], rfl, trivial,
          Token.enact_of_idle (.inl rfl)⟩
      · by_cases hmark : b = recordMark
        · subst hmark
          obtain ⟨digits, body, rest, rfl, hbody, hrest⟩ := Digit.exists_spells text
          rcases Unfinished.or_exists_first setting digits with
            hopen | ⟨done, digit, later, rfl, hdone, hfirst⟩
          · cases rest with
            | nil =>
              rw [List.append_nil]
              exact .inl (.unfinished hbody hopen)
            | cons b rest => exact .inl (.defect (.digit hbody hopen (hrest b rfl)))
          · obtain ⟨start, behind, rfl, hstart, -⟩ := Digit.spells_append_iff.1 hbody
            rw [List.append_assoc]
            rcases hdone.defect_or_taken hfirst hcalm hstart (behind ++ rest) with
              ⟨cause, offset, hdefect⟩ | ⟨r, t, hspells, hvalid, htaken⟩
            · exact .inl (.defect hdefect)
            · exact .inr ⟨.record r, recordMark :: start, behind ++ rest, t, rfl,
                List.cons_ne_nil _ _, ⟨start, rfl, hspells⟩, hvalid, htaken⟩
        · exact .inl (.defect (.start hlf hcr hmark))

/-- Every text is divided into tokens that are taken and a remainder. -/
theorem exists_division (hcalm : host.Calm) (setting : Setting κ) (s : Standing σ)
    (text : List UInt8) :
    ∃ (tokens : List Token) (before rest : List UInt8) (t : Standing σ), text = before ++ rest ∧
      Token.SpellsAll tokens before ∧ Token.Taken host setting s tokens t ∧
        Remainder host setting t rest := by
  induction hlength : text.length using Nat.strongRecOn generalizing s text with
  | ind length ih =>
    rcases remainder_or_exists_token hcalm setting s text with
      hrest | ⟨token, first, later, t, rfl, hsome, hspells, hvalid, htaken⟩
    · exact ⟨[], [], text, s, rfl, .nil, .nil, hrest⟩
    · have hshort : later.length < length := by
        have hpos := List.length_pos_iff.2 hsome
        rw [List.length_append] at hlength
        omega
      obtain ⟨tokens, before, rest, u, rfl, hall, hlater, hrest⟩ := ih _ hshort t later rfl
      exact ⟨token :: tokens, first ++ before, rest, u, (List.append_assoc _ _ _).symm,
        .cons hspells hall, .cons hvalid htaken hlater, hrest⟩

end IntelHex
