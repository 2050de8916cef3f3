import IntelHex.Proofs.Offers
import IntelHex.Proofs.Oversize
import IntelHex.Proofs.Soundness

/-!
# Which bytes have an effect

A byte has an effect if it makes a call or changes the addressing. As long as no byte of a record was
refused for its type, its checksum or its data block, the decoder stands where the digits of the record
say, or it has found the payload too large and never gets any further. So an effect comes with the last
digit of a valid record, and it is the effect of this record.

A record that was refused for one of these reasons is not given up: the decoder takes further digits
for its type or its checksum, and what they complete need not be a record.
-/

namespace IntelHex

/-- Whether a record that has been refused for the cause is past saving. -/
def Cause.condemns : Cause → Bool
  | .typeNotSmall => true
  | .unsupportedType _ => true
  | .checksumMismatch _ => true
  | .rejected _ => true
  | _ => false

namespace Decoder

variable {κ : Type} {d after : Decoder κ} {action : Action κ} {b : UInt8} {digits : List Digit}
  {digit : Digit}

/-- Inside a record, a byte that is no digit leaves everything as it is. -/
theorem advance_of_no_digit (hphase : d.phase ≠ .start) (hb : Digit.ofByte? b = none) :
    d.advance b = (d, .refuse (.invalidDigit b)) := by
  cases hplace : d.phase with
  | start => exact absurd hplace hphase
  | within field => simp only [advance, hplace, hb]

/-- What one more digit makes of a record. -/
inductive Grows (d : Decoder κ) (digits : List Digit) : Decoder κ → Action κ → Prop
  /-- It is still unfinished. -/
  | unfinished {after : Decoder κ} (hmidway : after.Midway digits)
      (hopen : Unfinished d.setting digits) : Grows d digits after .proceed
  /-- Its type or its checksum is refused. -/
  | condemned {after : Decoder κ} {cause : Cause} (hcause : cause.condemns = true) :
    Grows d digits after (.refuse cause)
  /-- Its payload is too large. -/
  | oversized {after : Decoder κ} {cause : Cause} (hlarge : after.Oversized) :
    Grows d digits after (.refuse cause)
  /-- It is valid, and its data block is due to a consumer. -/
  | due {after : Decoder κ} {event : Event} {consumer : κ} (record : Record)
      (hdigits : record.digits = digits) (hvalid : record.Valid d.setting) (hcode : record.code = 0)
      (hconsumer : d.consumer = some consumer) :
    Grows d digits after (.deliver event consumer (record.block d.addressing))
  /-- It is valid, and the addressing is the one that it sets. -/
  | finished {after : Decoder κ} {event : Event} (record : Record)
      (hdigits : record.digits = digits) (hvalid : record.Valid d.setting)
      (hphase : after.phase = .start)
      (haddressing : after.addressing = record.extend d.addressing) :
    Grows d digits after (.finish event)

/-- A digit that completes an admitted record has it checked. -/
theorem Midway.grows_last (h : d.Midway digits) (hs : d.Sound) (hb : Digit.ofByte? b = some digit)
    {record : Record} (hdigits : record.digits = digits ++ [digit])
    (hadmitted : record.Admitted d.setting) :
    Grows d (digits ++ [digit]) (d.advance b).1 (d.advance b).2 := by
  by_cases hsum : record.residue = 0
  · have hvalid : record.Valid d.setting := ⟨hadmitted, hsum⟩
    by_cases hidle : record.code = 0 → d.consumer = none
    · obtain ⟨⟨event, haction⟩, hphase, haddressing⟩ := h.advance_finish hb hdigits hsum hidle
      rw [haction]
      exact .finished record hdigits hvalid hphase haddressing
    · obtain ⟨hcode, hdue⟩ := Classical.not_imp.1 hidle
      obtain ⟨consumer, hconsumer⟩ := Option.ne_none_iff_exists'.1 hdue
      obtain ⟨⟨event, haction⟩, -⟩ := h.advance_deliver hb hdigits hsum hcode hconsumer hs.high_lt
      rw [haction]
      exact .due record hdigits hvalid hcode hconsumer
  · rw [h.advance_checksumMismatch hb hdigits hsum]
    exact .condemned rfl

/-- A digit inside a record grows it in one of these ways. -/
theorem Midway.grows (h : d.Midway digits) (hs : d.Sound) (hopen : Unfinished d.setting digits)
    (hb : Digit.ofByte? b = some digit) :
    Grows d (digits ++ [digit]) (d.advance b).1 (d.advance b).2 := by
  by_cases hnext : Unfinished d.setting (digits ++ [digit])
  · obtain ⟨haction, hmidway⟩ := h.advance hb hnext
    rw [haction]
    exact .unfinished hmidway hnext
  · rcases hopen.of_not_concat hnext with ⟨hlength, hdigit⟩ | ⟨hlength, hcode⟩ |
      ⟨hlength, hcode, hsome, hlarge⟩ | ⟨record, hdigits, hadmitted⟩
    · rw [(h.advance_typeHigh hb hlength).1, if_neg hdigit]
      exact .condemned rfl
    · rw [h.advance_unsupportedType hb hlength hcode]
      exact .condemned rfl
    · have hmoves := moves_advance d b
      rw [h.advance_countOverflow hb hlength hcode hsome hlarge] at hmoves ⊢
      exact .oversized hmoves.oversized
    · exact h.grows_last hs hb hdigits hadmitted

end Decoder

namespace Reading

variable {κ : Type}

/-- Whether the byte leaves a record behind that is past saving: its type or its checksum was refused,
or its data block was not taken. -/
def isCondemned (e : Reading κ) : Bool :=
  match e.stop with
  | some (.failed (.own failure)) => failure.cause.condemns
  | some (.failed (.foreign _)) => true
  | some (.raised _) => true
  | _ => false

/-- The byte makes a call or changes the addressing. -/
def HasEffect (e : Reading κ) : Prop :=
  e.isCall = true ∨ e.after.addressing ≠ e.before.addressing

/-- The decoder stands where the digits of a record that is not past saving say, or it has found its
payload too large. -/
structure Faithful (setting : Setting κ) (past : List (Reading κ)) (d : Decoder κ) : Prop where
  sound : d.Sound
  setting_eq : d.setting = setting
  record : d.phase ≠ .start → (∀ e ∈ sinceMark past, e.isCondemned = false) →
    d.Oversized ∨
      (d.Midway (digits (sinceMark past)) ∧ Unfinished setting (digits (sinceMark past)))

end Reading

/-- The setting of a decoder is kept by every byte. -/
theorem Decoder.kept_setting {κ : Type} (setting : Setting κ) :
    Kept fun d : Decoder κ => d.setting = setting where
  advance d b h := by
    obtain ⟨hcapacity, hsupported, hconsumer, -⟩ := (moves_advance d b).frame
    rw [Decoder.setting, hcapacity, hsupported, hconsumer]
    exact h
  enterStart _ h := h
  reset _ h := h
  advanceByte _ h := h

namespace Run

variable {κ σ : Type} {host : Host κ σ} {r : Run κ σ} {b : UInt8}

/-- A byte that is accepted and asks for nothing has no effect. -/
theorem reading_of_proceed (host : Host κ σ) (haction : (r.decoder.advance b).2 = .proceed) :
    (r.reading host b).after = (r.decoder.advance b).1 ∧ ¬(r.reading host b).HasEffect := by
  have hmoves := Decoder.moves_advance r.decoder b
  rw [haction] at hmoves
  have haddressing := hmoves.addressing fun _ => nofun
  rw [Reading.HasEffect, Reading.isCall, Reading.call?, reading, step_eq, haction]
  exact ⟨rfl, not_or_intro Bool.false_ne_true fun hchanged => hchanged haddressing⟩

/-- A byte that is refused has no effect, and its entry has the cause. -/
theorem reading_of_refuse (host : Host κ σ) {cause : Cause}
    (haction : (r.decoder.advance b).2 = .refuse cause) :
    (r.reading host b).after = (r.decoder.advance b).1 ∧
      (r.reading host b).isCondemned = cause.condemns ∧ ¬(r.reading host b).HasEffect := by
  have hmoves := Decoder.moves_advance r.decoder b
  rw [haction] at hmoves
  have haddressing := hmoves.addressing fun _ => nofun
  rw [Reading.HasEffect, Reading.isCall, Reading.call?, Reading.isCondemned, reading, step_eq,
    haction]
  exact ⟨rfl, rfl, not_or_intro Bool.false_ne_true fun hchanged => hchanged haddressing⟩

/-- The end of a record makes no call. -/
theorem reading_of_finish (host : Host κ σ) {event : Event}
    (haction : (r.decoder.advance b).2 = .finish event) :
    (r.reading host b).after = (r.decoder.advance b).1 ∧ (r.reading host b).call? = none := by
  rw [Reading.call?, reading, step_eq, haction]
  exact ⟨decoder_note _ event, rfl⟩

/-- The answer to a data block leaves the addressing alone. -/
theorem addressing_settle (block : Delivery) (verdict : Verdict) (r : Run κ σ) :
    (settle block verdict r).2.decoder.addressing = r.decoder.addressing := by
  cases verdict <;> rfl

/-- A delivery makes the call, and leaves the addressing alone unless the consumer resets it. -/
theorem reading_of_deliver (host : Host κ σ) {event : Event} {consumer : κ} {block : Delivery}
    (haction : (r.decoder.advance b).2 = .deliver event consumer block) :
    (r.reading host b).call? = some (consumer, block) ∧
      (host.Steady → (r.reading host b).after.addressing = r.decoder.addressing) := by
  have hmoves := Decoder.moves_advance r.decoder b
  rw [haction] at hmoves
  rw [Reading.call?, reading, step_eq, haction]
  refine ⟨rfl, fun hsteady => ?_⟩
  rw [act, deliver_of_steady hsteady, addressing_settle, decoder_note]
  refine hmoves.addressing fun event hfinish => ?_
  cases hfinish

/-- A call that is refused condemns its record. -/
theorem isCondemned_of_refusedCall (h : (r.reading host b).isRefusedCall = true) :
    (r.reading host b).isCondemned = true := by
  rw [Reading.isRefusedCall, Bool.and_eq_true] at h
  obtain ⟨hcall, hstop⟩ := h
  obtain ⟨⟨consumer, block⟩, hcall⟩ := Option.isSome_iff_exists.1 hcall
  obtain ⟨event, haction⟩ := action_of_call hcall
  rw [reading, step_eq, haction, act, deliver_eq] at hstop
  rw [Reading.isCondemned, reading, step_eq, haction, act, deliver_eq]
  cases hverdict : (host consumer block _).1.verdict with
  | accept =>
    rw [hverdict] at hstop
    exact absurd hstop Bool.false_ne_true
  | reject => rfl
  | fail error => rfl
  | raise message => rfl

end Run

/-- Neither the position nor the error that is remembered has a part in a record. -/
theorem Reading.Faithful.touch {κ : Type} {setting : Setting κ} {past : List (Reading κ)}
    {d : Decoder κ} (h : Faithful setting past d) (position : Position) (error : Option DecodingError) :
    Faithful setting past { d with position := position, lastError := error } := by
  refine ⟨?_, h.setting_eq, fun hopen hclear => ?_⟩
  · have hs := h.sound
    exact ⟨hs.buffer, hs.byteCount_lt, hs.addressLow_lt, hs.high_lt, hs.counted⟩
  · rcases h.record hopen hclear with hlarge | ⟨hmidway, hunfinished⟩
    · exact .inl ⟨hlarge.phase, hlarge.later, hlarge.some, hlarge.large⟩
    · exact .inr ⟨⟨hmidway.place, hmidway.pending, hmidway.checksum, hmidway.frame⟩, hunfinished⟩

/-- A digit that leaves a record open and does not condemn it leaves the decoder where the digits say;
any other byte leaves it as it is. -/
theorem Reading.Faithful.step_midway {κ σ : Type} {host : Host κ σ} {setting : Setting κ}
    {past : List (Reading κ)} {r : Run κ σ} {b : UInt8} (h : Faithful setting past r.decoder)
    (hopen : (r.reading host b).after.phase ≠ .start)
    (hclear : (r.reading host b).isCondemned = false)
    (hmidway : r.decoder.Midway (digits (sinceMark past)))
    (hunfinished : Unfinished setting (digits (sinceMark past))) :
    (r.reading host b).after.Oversized ∨
      ((r.reading host b).after.Midway (digits (sinceMark past ++ [r.reading host b])) ∧
        Unfinished setting (digits (sinceMark past ++ [r.reading host b]))) := by
  cases hb : Digit.ofByte? b with
  | none =>
    have hstill := Decoder.advance_of_no_digit hmidway.phase_ne_start hb
    have hafter := (Run.reading_of_refuse host (congrArg Prod.snd hstill)).1
    rw [digits_concat_of_none hb, hafter, hstill]
    exact .inr ⟨hmidway, hunfinished⟩
  | some digit =>
    have hsetting := h.setting_eq
    subst hsetting
    rw [digits_concat_of_digit hb]
    have hgrows := hmidway.grows h.sound hunfinished hb
    generalize hadvance : r.decoder.advance b = moved at hgrows
    obtain ⟨after, action⟩ := moved
    have hafter := congrArg Prod.fst hadvance
    have haction := congrArg Prod.snd hadvance
    cases hgrows with
    | unfinished hmidway hnext =>
      rw [(Run.reading_of_proceed host haction).1, hafter]
      exact .inr ⟨hmidway, hnext⟩
    | condemned hcause =>
      cases hclear.symm.trans ((Run.reading_of_refuse host haction).2.1.trans hcause)
    | oversized hlarge =>
      rw [(Run.reading_of_refuse host haction).1, hafter]
      exact .inl hlarge
    | due record hdigits hvalid hcode hconsumer =>
      have hcall : (r.reading host b).isCall = true := by
        rw [isCall, (Run.reading_of_deliver host haction).1]
        rfl
      have hrefused := (Run.reading_of_call hcall).2.resolve_right hopen
      cases hclear.symm.trans (Run.isCondemned_of_refusedCall hrefused)
    | finished record hdigits hvalid hphase haddressing =>
      rw [(Run.reading_of_finish host haction).1, hafter] at hopen
      exact absurd hphase hopen

/-- Every byte keeps the decoder where the digits say. -/
theorem Host.chronicles_faithful {κ σ : Type} (host : Host κ σ) (setting : Setting κ) :
    host.Chronicles (Reading.Faithful setting) where
  step past r b h := by
    refine ⟨Run.kept_step Decoder.stable_sound.toKept host b h.sound,
      Run.kept_step (Decoder.kept_setting setting) host b h.setting_eq, fun hopen hclear => ?_⟩
    by_cases hphase : r.decoder.phase = .start
    · have hmark := (Run.reading_of_start host b hphase).2.resolve_right hopen
      obtain rfl : b = recordMark := (of_decide_eq_true hmark).2
      obtain ⟨haction, hmidway⟩ := Decoder.Midway.of_recordMark hphase
      rw [Reading.sinceMark_concat_of_mark hmark, (Run.reading_of_proceed host haction).1]
      exact .inr ⟨hmidway, .of_length_le setting (Nat.zero_le 6)⟩
    · rw [Reading.sinceMark_concat (Reading.isMark_of_phase hphase), List.forall_mem_append,
        List.forall_mem_singleton] at hclear
      rw [Reading.sinceMark_concat (Reading.isMark_of_phase hphase)]
      rcases h.record hphase hclear.1 with hlarge | ⟨hmidway, hunfinished⟩
      · obtain ⟨haction, hstays⟩ := (Decoder.HeldAt.refl hlarge).advance b
        rw [(Run.reading_of_refuse host haction).1]
        exact .inl hstays.oversized
      · exact h.step_midway hopen hclear.2 hmidway hunfinished
  advanceByte _ _ h := h.touch _ _
  setError _ d failure h := h.touch d.position failure

namespace Run

variable {κ σ : Type} {host : Host κ σ} {setting : Setting κ}

/-- A byte that has an effect completes a valid record whose effect it is, if nothing of the record
was refused for its type, its checksum or its data block before. -/
theorem exists_record_of_effect (hsteady : host.Steady) {past : List (Reading κ)} {r : Run κ σ}
    {b : UInt8} (h : Reading.Faithful setting past r.decoder)
    (hclear : ∀ e ∈ Reading.sinceMark past, e.isCondemned = false)
    (heffect : (r.reading host b).HasEffect) :
    ∃ record : Record,
      record.digits = Reading.digits (Reading.sinceMark (past ++ [r.reading host b])) ∧
        record.Valid setting ∧
        (∀ consumer block, (r.reading host b).call? = some (consumer, block) →
          record.code = 0 ∧ setting.consumer = some consumer ∧
            block = record.block r.decoder.addressing) ∧
        (r.reading host b).after.addressing = record.extend r.decoder.addressing := by
  have hphase : r.decoder.phase ≠ .start := by
    intro hstart
    rcases ((Decoder.moves_advance r.decoder b).of_start hstart).1 with haction | ⟨cause, haction⟩
    · exact (reading_of_proceed host haction).2 heffect
    · exact (reading_of_refuse host haction).2.2 heffect
  rcases h.record hphase hclear with hlarge | ⟨hmidway, hunfinished⟩
  · have haction := ((Decoder.HeldAt.refl hlarge).advance b).1
    exact absurd heffect (reading_of_refuse host haction).2.2
  · cases hb : Digit.ofByte? b with
    | none =>
      have haction := congrArg Prod.snd (Decoder.advance_of_no_digit hphase hb)
      exact absurd heffect (reading_of_refuse host haction).2.2
    | some digit =>
      have hsetting := h.setting_eq
      subst hsetting
      rw [Reading.sinceMark_concat (Reading.isMark_of_phase hphase),
        Reading.digits_concat_of_digit hb]
      have hgrows := hmidway.grows h.sound hunfinished hb
      generalize hadvance : r.decoder.advance b = moved at hgrows
      obtain ⟨after, action⟩ := moved
      have haction := congrArg Prod.snd hadvance
      cases hgrows with
      | unfinished => exact absurd heffect (reading_of_proceed host haction).2
      | condemned => exact absurd heffect (reading_of_refuse host haction).2.2
      | oversized => exact absurd heffect (reading_of_refuse host haction).2.2
      | due record hdigits hvalid hcode hconsumer =>
        obtain ⟨hcall, haddressing⟩ := reading_of_deliver host haction
        refine ⟨record, hdigits, hvalid, fun called block hcalled => ?_, ?_⟩
        · obtain ⟨rfl, rfl⟩ := Prod.mk.inj (Option.some.inj (hcall.symm.trans hcalled))
          exact ⟨hcode, hconsumer, rfl⟩
        · rw [haddressing hsteady, Record.extend, hcode]
          rfl
      | finished record hdigits hvalid hphase haddressing =>
        obtain ⟨hafter, hnone⟩ := reading_of_finish host haction
        refine ⟨record, hdigits, hvalid, fun called block hcalled => ?_, ?_⟩
        · cases hnone.symm.trans hcalled
        · rw [hafter, hadvance, haddressing]

/-- Whatever is fed to a new decoder whose consumers do not reset it: a byte makes a call or changes the
addressing only as the last digit of a valid record, which the digits since the record mark are, unless
the type, the checksum or the data block of this record was refused before. A call is for a record of
type 0 and its data block, and the addressing afterwards is the one that the record sets. -/
theorem effect_of_valid_record (hsteady : host.Steady) (setting : Setting κ) (world : σ)
    (traced : Bool) (inputs : List (List UInt8)) {earlier later : List (Reading κ)} {e : Reading κ}
    (hentry : (start setting.decoder world traced).journal host inputs = earlier ++ e :: later)
    (heffect : e.HasEffect)
    (hclear : ∀ other ∈ Reading.sinceMark earlier, other.isCondemned = false) :
    ∃ record : Record,
      record.digits = Reading.digits (Reading.sinceMark (earlier ++ [e])) ∧
        record.Valid setting ∧
        (∀ consumer block, e.call? = some (consumer, block) →
          record.code = 0 ∧ setting.consumer = some consumer ∧
            block = record.block e.before.addressing) ∧
        e.after.addressing = record.extend e.before.addressing := by
  have hfresh : Reading.Faithful setting [] (setting.decoder) :=
    ⟨Decoder.sound_fresh _ _ _, rfl, fun hopen => absurd rfl hopen⟩
  obtain ⟨reader, he, hfaithful⟩ :=
    ((host.chronicles_faithful setting).journal (r := start setting.decoder world traced) hfresh
      inputs).2 earlier e later hentry
  rw [he] at heffect ⊢
  exact exists_record_of_effect hsteady hfaithful hclear heffect

/-- An empty data record that is interrupted by a byte that is no digit: the feed fails there, and the
next one completes the record and makes the call. -/
theorem effect_of_valid_record_interrupted :
    let host : Host Unit Nat := fun _ _ count => ({ verdict := .accept }, count + 1)
    let inputs : List (List UInt8) :=
      [[0x3A, 0x30, 0x30, 0x30, 0x30, 0x78], [0x30, 0x30, 0x30, 0x30, 0x30, 0x30]]
    let entries := (start (Decoder.fresh (some ()) 255 [0]) 0 false).journal host inputs
    ∃ e, entries = entries.dropLast ++ e :: [] ∧ e.isCall = true ∧
      ∃ record : Record, record.digits = Reading.digits (Reading.sinceMark (entries.dropLast ++ [e])) ∧
        record.Valid (⟨some (), 255, [0]⟩ : Setting Unit) := by
  intro host inputs entries
  have hsome : entries ≠ [] := by decide +kernel
  have hcall : (entries.getLast hsome).isCall = true := by decide +kernel +revert
  have hentry := (List.dropLast_concat_getLast hsome).symm
  have hclear : ∀ other ∈ Reading.sinceMark entries.dropLast, other.isCondemned = false := by
    decide +kernel
  have hsteady : host.Steady := fun _ _ _ => rfl
  obtain ⟨record, hdigits, hvalid, -⟩ :=
    effect_of_valid_record hsteady ⟨some (), 255, [0]⟩ 0 false inputs hentry (.inl hcall) hclear
  exact ⟨entries.getLast hsome, hentry, hcall, record, hdigits, hvalid⟩

/-- An empty data record with a wrong checksum: the feed reports it, and two further digits bring the
sum of the bytes back to zero. The data block is delivered, and the digits since the record mark are
those of no record. -/
theorem delivered_after_checksumMismatch :
    let host : Host Unit (List Delivery) := fun _ block calls =>
      ({ verdict := .accept }, calls ++ [block])
    let record : List UInt8 :=
      [0x3A, 0x30, 0x30, 0x30, 0x30, 0x30, 0x30, 0x30, 0x30, 0x30, 0x31]
    let r := start (Decoder.fresh (some ()) 255 [0]) [] false
    (r.feed host record).1 = .ok (.refused (.own ⟨.checksumMismatch 1, 10, 1⟩)) ∧
      (r.feedAll host [record, [0x46]]).world = [] ∧
      (r.feedAll host [record, [0x46], [0x46]]).world = [⟨0, [], 0⟩] ∧
      ¬∃ complete : Record, complete.digits =
        Reading.digits (Reading.sinceMark (r.journal host [record, [0x46], [0x46]])) := by
  refine ⟨by decide, by decide, by decide, ?_⟩
  rintro ⟨complete, hdigits⟩
  -- The first two digits declare no payload, so there should be ten digits.
  have hlength := complete.length_digits
  have hdeclared := complete.declared_digits
  rw [hdigits] at hlength hdeclared
  rw [← hdeclared] at hlength
  revert hlength
  decide

end Run

end IntelHex
