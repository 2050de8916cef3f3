import IntelHex.Proofs.Completion
import IntelHex.Proofs.Division
import IntelHex.Proofs.Feeding

/-!
# Reading a text

A run that stands between two records, or inside one, is followed through a text: tokens that are
taken lead from one place between records to the next, digits that begin a record lead into it, and a
defect stops the run at its place and with its cause. The consumers may refuse a data block but do not
reset the decoder.
-/

namespace IntelHex

namespace Run

variable {κ σ : Type} {host : Host κ σ} {setting : Setting κ} {s t : Standing σ} {offset : Nat}
  {r : Run κ σ} {b : UInt8}

/-- A run has its setting, has accepted as many bytes, and stands as what it has read came to. -/
structure At (setting : Setting κ) (s : Standing σ) (offset : Nat) (r : Run κ σ) : Prop where
  setting_eq : r.decoder.setting = setting
  offset_eq : r.decoder.position.offset = offset
  addressing : r.decoder.addressing = s.addressing
  world : r.world = s.world
  high_lt : s.addressing.high < 65536

/-- A run stands between two records. -/
structure Between (setting : Setting κ) (s : Standing σ) (offset : Nat) (r : Run κ σ) : Prop
    extends At setting s offset r where
  phase : r.decoder.phase = .start

/-- A run stands inside a record. -/
structure Inside (setting : Setting κ) (s : Standing σ) (offset : Nat) (digits : List Digit)
    (r : Run κ σ) : Prop extends At setting s offset r where
  midway : r.decoder.Midway digits

/-- A new run that is fed stands before the first record. -/
theorem between_start (setting : Setting κ) (world : σ) (traced : Bool) :
    ((start setting.decoder world traced).setError none).Between setting ⟨{}, world⟩ 0 :=
  ⟨⟨rfl, rfl, rfl, rfl, show 0 < 65536 by decide⟩, rfl⟩

/-- The run after a byte that was accepted and asks for nothing. -/
def moved (r : Run κ σ) (b : UInt8) : Run κ σ :=
  { r with decoder := (r.decoder.advance b).1 }.countByte

/-- After a byte that asks for nothing the rest is read. -/
theorem readBytes_moved (hb : b ≠ terminator) (hmove : (r.decoder.advance b).2 = .proceed)
    (rest : List UInt8) : readBytes host (b :: rest) r = readBytes host rest (r.moved b) := by
  have hstep : r.step host b = (none, { r with decoder := (r.decoder.advance b).1 }) := by
    rw [step_eq, hmove]
    rfl
  exact readBytes_cons_of_none hb hstep rest

/-- A byte is counted only once it is accepted. -/
theorem At.offset_advance (h : r.At setting s offset) (b : UInt8) :
    (r.decoder.advance b).1.position.offset = offset :=
  (Decoder.moves_advance r.decoder b).offset.trans h.offset_eq

/-- A refused byte stops the run where it stands. -/
theorem At.readBytes_refused (h : r.At setting s offset) (hb : b ≠ terminator) {cause : Cause}
    (hmove : (r.decoder.advance b).2 = .refuse cause) (rest : List UInt8) :
    ∃ line next, readBytes host (b :: rest) r = (some (.failed (.own ⟨cause, offset, line⟩)), next) := by
  have hstep : r.step host b = (some (.failed (.own ((r.decoder.advance b).1.failure cause))),
      { r with decoder := (r.decoder.advance b).1 }) := by
    rw [step_eq, hmove]
    rfl
  rw [readBytes_cons_of_some hb hstep, Decoder.failure, Failure.located, h.offset_advance b]
  exact ⟨_, _, rfl⟩

/-- A byte leaves the setting alone. -/
theorem At.setting_advance (h : r.At setting s offset) (b : UInt8) :
    (r.decoder.advance b).1.setting = setting := by
  obtain ⟨hcapacity, hsupported, hconsumer, -⟩ := (Decoder.moves_advance r.decoder b).frame
  rw [Decoder.setting, hcapacity, hsupported, hconsumer]
  exact h.setting_eq

/-- A byte that asks for nothing is counted. -/
theorem At.moved (h : r.At setting s offset) (hmove : (r.decoder.advance b).2 = .proceed) :
    (r.moved b).At setting s (offset + 1) where
  setting_eq := h.setting_advance b
  offset_eq := congrArg (· + 1) (h.offset_advance b)
  addressing :=
    ((hmove ▸ Decoder.moves_advance r.decoder b).addressing fun _ => nofun).trans h.addressing
  world := h.world
  high_lt := h.high_lt

/-- A line end between records leads to the next place between records. -/
theorem Between.read_lineEnd (h : r.Between setting s offset) (host : Host κ σ)
    (hb : b = lineFeed ∨ b = carriageReturn) :
    ∃ next : Run κ σ, next.Between setting s (offset + 1) ∧
      ∀ rest, readBytes host (b :: rest) r = readBytes host rest next := by
  obtain ⟨hmove, hphase⟩ := Decoder.advance_lineEnd h.phase hb
  have hend : b ≠ terminator := by rcases hb with rfl | rfl <;> decide
  exact ⟨r.moved b, ⟨h.toAt.moved hmove, hphase⟩, readBytes_moved hend hmove⟩

/-- A digit is no terminator. -/
theorem ne_terminator_of_digit {digit : Digit} (hb : Digit.ofByte? b = some digit) :
    b ≠ terminator := by
  rintro rfl
  cases hb

/-- A colon and digits that begin a record lead into it. -/
theorem Between.read_digits (h : r.Between setting s offset) (host : Host κ σ)
    {digits : List Digit} (hopen : Unfinished setting digits) {body : List UInt8}
    (hbody : Digit.Spells digits body) :
    ∃ inside : Run κ σ, inside.Inside setting s (offset + (1 + body.length)) digits ∧
      ∀ rest, readBytes host (recordMark :: (body ++ rest)) r = readBytes host rest inside := by
  induction digits using List.reverseRecOn generalizing body with
  | nil =>
    obtain rfl : body = [] := List.map_eq_nil_iff.1 hbody
    obtain ⟨hmove, hmidway⟩ := Decoder.Midway.of_recordMark h.phase
    exact ⟨r.moved recordMark, ⟨h.toAt.moved hmove, hmidway.move _⟩,
      readBytes_moved (by decide) hmove⟩
  | append_singleton digits digit ih =>
    obtain ⟨first, last, rfl, hfirst, hlast⟩ := Digit.spells_append_iff.1 hbody
    obtain ⟨b, rfl, hb⟩ := Digit.spells_singleton_iff.1 hlast
    obtain ⟨inside, hinside, hread⟩ := ih hopen.of_concat hfirst
    obtain ⟨hmove, hmidway⟩ :=
      hinside.midway.advance hb (hinside.setting_eq.symm ▸ hopen)
    have hmoved := hinside.toAt.moved hmove
    rw [List.length_append, List.length_singleton]
    refine ⟨inside.moved b, ⟨hmoved, hmidway.move _⟩, fun rest => ?_⟩
    rw [List.append_assoc, hread]
    exact readBytes_moved (ne_terminator_of_digit hb) hmove rest

variable {record : Record} {digits : List Digit} {digit : Digit}

/-- The digits of an admitted record lead up to the last one. -/
theorem Between.read_last (h : r.Between setting s offset) (host : Host κ σ)
    (hadmitted : record.Admitted setting) {body : List UInt8}
    (hbody : Digit.Spells record.digits body) :
    ∃ (digits : List Digit) (digit : Digit) (b : UInt8) (inside : Run κ σ),
      record.digits = digits ++ [digit] ∧ Digit.ofByte? b = some digit ∧
        inside.Inside setting s (offset + (10 + 2 * record.payload.length)) digits ∧
        ∀ rest, readBytes host (recordMark :: (body ++ rest)) r =
          readBytes host (b :: rest) inside := by
  obtain ⟨digits, digit, hdigits⟩ := record.exists_last
  have hlength := hbody.length_eq.trans record.length_digits
  rw [hdigits] at hbody
  obtain ⟨first, last, rfl, hfirst, hlast⟩ := Digit.spells_append_iff.1 hbody
  obtain ⟨b, rfl, hb⟩ := Digit.spells_singleton_iff.1 hlast
  obtain ⟨inside, hinside, hread⟩ := h.read_digits host (hadmitted.unfinished hdigits) hfirst
  have hoffset : 1 + first.length = 10 + 2 * record.payload.length := by
    rw [List.length_append, List.length_singleton] at hlength
    omega
  refine ⟨digits, digit, b, inside, hdigits, hb, hoffset ▸ hinside, fun rest => ?_⟩
  rw [List.append_assoc, hread]
  rfl

/-- A delivery to consumers that do not reset the decoder is their answer. -/
theorem deliver_of_steady (hsteady : host.Steady) (consumer : κ) (block : Delivery) (r : Run κ σ) :
    r.deliver host consumer block =
      settle block (host consumer block r.world).1.verdict
        { r with world := (host consumer block r.world).2 } := by
  rw [deliver_eq, afterReply, hsteady]
  rfl

/-- The last digit of a valid data record asks its consumer. -/
theorem Inside.step_due (h : r.Inside setting s offset digits) (hsteady : host.Steady)
    (hb : Digit.ofByte? b = some digit) (hdigits : record.digits = digits ++ [digit])
    (hsum : record.residue = 0) (hcode : record.code = 0) {consumer : κ}
    (hconsumer : setting.consumer = some consumer) :
    ∃ asked : Run κ σ,
      asked.At setting ⟨s.addressing, (host consumer (record.block s.addressing) s.world).2⟩ offset ∧
        r.step host b = settle (record.block s.addressing)
          (host consumer (record.block s.addressing) s.world).1.verdict asked := by
  have hdue : r.decoder.consumer = some consumer := by
    rw [← hconsumer, ← h.setting_eq]
    rfl
  have hhigh : r.decoder.addressing.high < 65536 := h.addressing ▸ h.high_lt
  obtain ⟨⟨event, hmove⟩, haddressing⟩ := h.midway.advance_deliver hb hdigits hsum hcode hdue hhigh
  rw [h.addressing] at hmove haddressing
  rw [step_eq, hmove, act, deliver_of_steady hsteady, world_note, h.world]
  refine ⟨_, ⟨?_, ?_, ?_, rfl, h.high_lt⟩, rfl⟩
  · rw [decoder_note]
    exact h.setting_advance b
  · rw [decoder_note]
    exact h.offset_advance b
  · rw [decoder_note]
    exact haddressing

/-- The last digit of any other valid record leads to the next place between records. -/
theorem Inside.step_idle (h : r.Inside setting s offset digits)
    (hb : Digit.ofByte? b = some digit) (hdigits : record.digits = digits ++ [digit])
    (hsum : record.residue = 0) (hidle : record.code = 0 → setting.consumer = none) :
    ∃ next : Run κ σ, r.step host b = (none, next) ∧ next.decoder.phase = .start ∧
      next.At setting ⟨record.extend s.addressing, s.world⟩ offset := by
  have hnone : record.code = 0 → r.decoder.consumer = none := by
    intro hcode
    rw [← hidle hcode, ← h.setting_eq]
    rfl
  obtain ⟨⟨event, hmove⟩, hphase, haddressing⟩ := h.midway.advance_finish hb hdigits hsum hnone
  rw [h.addressing] at haddressing
  rw [step_eq, hmove]
  refine ⟨_, rfl, ?_, ?_, ?_, ?_, ?_, record.extend_high_lt h.high_lt⟩
  · rw [decoder_note]
    exact hphase
  · rw [decoder_note]
    exact h.setting_advance b
  · rw [decoder_note]
    exact h.offset_advance b
  · rw [decoder_note]
    exact haddressing
  · rw [world_note]
    exact h.world

/-- A valid record that is taken leads to the next place between records. -/
theorem Between.read_record (h : r.Between setting s offset) (hsteady : host.Steady)
    (hvalid : record.Valid setting) {body : List UInt8} (hbody : Digit.Spells record.digits body)
    (htaken : (Token.record record).enact host setting.consumer s = (.accept, t)) :
    ∃ next : Run κ σ, next.Between setting t (offset + (1 + body.length)) ∧
      ∀ rest, readBytes host (recordMark :: (body ++ rest)) r = readBytes host rest next := by
  obtain ⟨digits, digit, b, inside, hdigits, hb, hinside, hread⟩ :=
    h.read_last host hvalid.toAdmitted hbody
  have hlength := hbody.length_eq.trans record.length_digits
  have hoffset : offset + (1 + body.length) = offset + (10 + 2 * record.payload.length) + 1 := by
    omega
  have hstep : ∃ next : Run κ σ, inside.step host b = (none, next) ∧ next.decoder.phase = .start ∧
      next.At setting t (offset + (10 + 2 * record.payload.length)) := by
    by_cases hidle : record.code = 0 → setting.consumer = none
    · have hnone : (Token.record record).block? s.addressing = none ∨ setting.consumer = none := by
        by_cases hcode : record.code = 0
        · exact .inr (hidle hcode)
        · exact .inl (if_neg hcode)
      rw [Token.enact_of_idle hnone] at htaken
      obtain ⟨-, rfl⟩ := Prod.mk.inj htaken
      exact hinside.step_idle hb hdigits hvalid.residue_eq hidle
    · obtain ⟨hcode, hsome⟩ := Classical.not_imp.1 hidle
      obtain ⟨consumer, hconsumer⟩ := Option.ne_none_iff_exists'.1 hsome
      rw [hconsumer, Token.enact_of_due hcode] at htaken
      obtain ⟨hverdict, rfl⟩ := Prod.mk.inj htaken
      obtain ⟨asked, hasked, hstep⟩ :=
        hinside.step_due hsteady hb hdigits hvalid.residue_eq hcode hconsumer
      rw [hstep, hverdict]
      exact ⟨_, rfl, rfl, hasked.setting_eq, hasked.offset_eq, hasked.addressing, hasked.world,
        hasked.high_lt⟩
  obtain ⟨next, hnext, hphase, hat⟩ := hstep
  rw [hoffset]
  refine ⟨next.countByte, ⟨⟨hat.setting_eq, congrArg (· + 1) hat.offset_eq, hat.addressing,
    hat.world, hat.high_lt⟩, hphase⟩, fun rest => ?_⟩
  rw [hread, readBytes_cons_of_none (ne_terminator_of_digit hb) hnext]

/-- A token that is taken leads to the next place between records. -/
theorem Between.read_token (h : r.Between setting s offset) (hsteady : host.Steady) {token : Token}
    (hvalid : token.Valid setting) {text : List UInt8} (hspells : token.Spells text)
    (htaken : token.enact host setting.consumer s = (.accept, t)) :
    ∃ next : Run κ σ, next.Between setting t (offset + text.length) ∧
      ∀ rest, readBytes host (text ++ rest) r = readBytes host rest next := by
  cases token with
  | carriageReturn =>
    rw [Token.enact_of_idle (.inl rfl)] at htaken
    obtain ⟨-, rfl⟩ := Prod.mk.inj htaken
    subst hspells
    exact h.read_lineEnd host (.inr rfl)
  | lineFeed =>
    rw [Token.enact_of_idle (.inl rfl)] at htaken
    obtain ⟨-, rfl⟩ := Prod.mk.inj htaken
    subst hspells
    exact h.read_lineEnd host (.inl rfl)
  | record record =>
    obtain ⟨body, rfl, hbody⟩ := hspells
    rw [List.length_cons, Nat.add_comm body.length]
    exact h.read_record hsteady hvalid hbody htaken

/-- Tokens that are taken lead to the next place between records. -/
theorem Between.read_tokens (h : r.Between setting s offset) (hsteady : host.Steady)
    {tokens : List Token} (htaken : Token.Taken host setting s tokens t) {text : List UInt8}
    (hspells : Token.SpellsAll tokens text) :
    ∃ next : Run κ σ, next.Between setting t (offset + text.length) ∧
      ∀ rest, readBytes host (text ++ rest) r = readBytes host rest next := by
  induction htaken generalizing r offset text with
  | nil =>
    cases hspells
    exact ⟨r, h, fun rest => rfl⟩
  | cons hvalid htaken _ ih =>
    cases hspells with
    | cons hfirst hlater =>
      obtain ⟨middle, hmiddle, hread⟩ := h.read_token hsteady hvalid hfirst htaken
      obtain ⟨next, hnext, hrest⟩ := ih hmiddle hlater
      rw [List.length_append, ← Nat.add_assoc]
      refine ⟨next, hnext, fun rest => ?_⟩
      rw [List.append_assoc, hread, hrest]

/-- A record with a digit that is refused stops the run at this digit. -/
theorem Between.stop_digit (h : r.Between setting s offset) (host : Host κ σ)
    (hopen : Unfinished setting digits) {body : List UInt8}
    (hbody : Digit.Spells (digits ++ [digit]) body) {cause : Cause}
    (hmove : ∀ d : Decoder κ, d.Midway digits → d.setting = setting → ∀ b,
      Digit.ofByte? b = some digit → (d.advance b).2 = .refuse cause) (rest : List UInt8) :
    ∃ line next, readBytes host (recordMark :: (body ++ rest)) r =
      (some (.failed (.own ⟨cause, offset + (1 + digits.length), line⟩)), next) := by
  obtain ⟨first, last, rfl, hfirst, hlast⟩ := Digit.spells_append_iff.1 hbody
  obtain ⟨b, rfl, hb⟩ := Digit.spells_singleton_iff.1 hlast
  obtain ⟨inside, hinside, hread⟩ := h.read_digits host hopen hfirst
  rw [List.append_assoc, hread, ← hfirst.length_eq]
  exact hinside.readBytes_refused (ne_terminator_of_digit hb)
    (hmove _ hinside.midway hinside.setting_eq b hb) rest

/-- A type code that is refused stops the run at the code. -/
theorem Between.stop_code (h : r.Between setting s offset) (host : Host κ σ)
    (hlength : digits.length = 6) {code : Digit} {body : List UInt8}
    (hbody : Digit.Spells (digits ++ [0, code]) body) {cause : Cause}
    (hmove : ∀ d : Decoder κ, d.Midway (digits ++ [0]) → (digits ++ [0]).length = 7 →
      d.setting = setting → ∀ b, Digit.ofByte? b = some code → (d.advance b).2 = .refuse cause)
    (rest : List UInt8) :
    ∃ line next, readBytes host (recordMark :: (body ++ rest)) r =
      (some (.failed (.own ⟨cause, offset + 8, line⟩)), next) := by
  have hseven : (digits ++ [0]).length = 7 := by
    rw [List.length_append, hlength, List.length_singleton]
  rw [List.append_cons digits 0 [code]] at hbody
  have hstop := h.stop_digit host (.concat_zero setting hlength) hbody
    (fun d hmidway => hmove d hmidway hseven) rest
  rwa [hseven] at hstop

/-- A defect stops the run at its place and with its cause. -/
theorem Between.stop_defect (h : r.Between setting s offset) (hsteady : host.Steady)
    {text : List UInt8} (hend : terminator ∉ text) {cause : Cause} {place : Nat}
    (hdefect : Defect host setting s text cause place) :
    ∃ line next,
      readBytes host text r = (some (.failed (.own ⟨cause, offset + place, line⟩)), next) := by
  cases hdefect with
  | start hlf hcr hmark =>
    exact h.readBytes_refused (Ne.symm (List.ne_of_not_mem_cons hend))
      (Decoder.advance_invalidStart h.phase hlf hcr hmark) _
  | @digit digits body rest b hbody hopen hb =>
    obtain ⟨inside, hinside, hread⟩ := h.read_digits host hopen hbody
    have hb' : b ≠ terminator := by
      rintro rfl
      simp at hend
    rw [hread]
    exact hinside.readBytes_refused hb' (hinside.midway.advance_invalidDigit hb) rest
  | @typeNotSmall digits digit body rest hlength hbody hdigit =>
    have hopen : Unfinished setting digits := .of_length_le setting (Nat.le_of_eq hlength)
    have hplace : offset + (1 + digits.length) = offset + 7 := by rw [hlength]
    rw [← hplace]
    refine h.stop_digit host hopen hbody ?_ rest
    intro d hmidway _ b hb
    rw [(hmidway.advance_typeHigh hb hlength).1, if_neg hdigit]
  | @unsupportedType digits code body rest hlength hbody hcode =>
    refine h.stop_code host hlength hbody ?_ rest
    rintro d hmidway hseven rfl b hb
    exact hmidway.advance_unsupportedType hb hseven hcode
  | @countOverflow digits code body rest hlength hbody hcode hsome hlarge =>
    have hdeclared : Digit.declared (digits ++ [0]) = Digit.declared digits :=
      Digit.declared_concat_of_le 0 (by omega)
    rw [← hdeclared] at hsome hlarge ⊢
    refine h.stop_code host hlength hbody ?_ rest
    rintro d hmidway hseven rfl b hb
    exact hmidway.advance_countOverflow hb hseven hcode hsome hlarge
  | @checksum record body rest hadmitted hbody hsum =>
    obtain ⟨digits, digit, b, inside, hdigits, hb, hinside, hread⟩ :=
      h.read_last host hadmitted hbody
    rw [hread]
    exact hinside.readBytes_refused (ne_terminator_of_digit hb)
      (hinside.midway.advance_checksumMismatch hb hdigits hsum) rest
  | @rejected record body rest consumer hvalid hbody hconsumer hcode hreject =>
    obtain ⟨digits, digit, b, inside, hdigits, hb, hinside, hread⟩ :=
      h.read_last host hvalid.toAdmitted hbody
    obtain ⟨asked, hasked, hstep⟩ :=
      hinside.step_due hsteady hb hdigits hvalid.residue_eq hcode hconsumer
    rw [hreject, settle, Decoder.failure, Failure.located, hasked.offset_eq] at hstep
    rw [hread, readBytes_cons_of_some (ne_terminator_of_digit hb) hstep]
    exact ⟨_, _, rfl⟩

/-- A text that is read to its end is taken in. -/
theorem feed_of_read {text : List UInt8} {next : Run κ σ}
    (h : readBytes host text (r.setError none) = (none, next)) :
    r.feed host text = (.ok .accepted, next) := by
  rw [feed_eq_conclude, h]
  rfl

/-- An error that ends the input early is reported and remembered. -/
theorem feed_of_failed {text : List UInt8} {next : Run κ σ} {error : DecodingError}
    (h : readBytes host text (r.setError none) = (some (.failed error), next)) :
    (r.feed host text).1 = .ok (.refused error) ∧
      (r.feed host text).2.decoder.lastError = some error := by
  rw [feed_eq_conclude, h]
  refine ⟨rfl, ?_⟩
  rw [conclude, decoder_note]
  rfl

end Run

end IntelHex
