import Mathlib.Data.Option.Basic
import IntelHex.Proofs.Stopping

/-!
# One digit changed

A digit of a valid record that is changed to another one changes the sum of the bytes, so the digits
are no longer those of a valid record. If the changed digit belongs to the byte count, the record may
end early, and with a sum of zero, but then the digits left over stand between records; or it may not
end at all, and then the line end stands inside it. If it stands anywhere else, the record keeps its
length and is refused before it has any effect.
-/

namespace IntelHex

namespace Digit

/-- A byte is changed with either of its digits. -/
theorem byte_inj {first second third fourth : Digit} (h : byte first second = byte third fourth) :
    first = third ∧ second = fourth :=
  ⟨(high_byte first second).symm.trans ((congrArg high h).trans (high_byte third fourth)),
    (low_byte first second).symm.trans ((congrArg low h).trans (low_byte third fourth))⟩

/-- One digit that is changed changes the sum of the bytes. -/
theorem sum_bytes_set_ne {digits : List Digit} {i : Nat} {old new : Digit}
    (hpaired : odd? digits = none) (hold : digits[i]? = some old) (hne : new ≠ old) :
    (bytes (digits.set i new)).sum ≠ (bytes digits).sum := by
  fun_induction odd? digits generalizing i with
  | case1 => cases hold
  | case2 digit => cases hpaired
  | case3 first second rest ih =>
    rcases i with _ | _ | i
    · obtain rfl : first = old := Option.some.inj hold
      rw [List.set_cons_zero, bytes, bytes, List.sum_cons, List.sum_cons, Ne, UInt8.add_left_inj]
      exact fun hsame => hne (byte_inj hsame).1
    · obtain rfl : second = old := Option.some.inj hold
      rw [List.set_cons_succ, List.set_cons_zero, bytes, bytes, List.sum_cons, List.sum_cons, Ne,
        UInt8.add_left_inj]
      exact fun hsame => hne (byte_inj hsame).2
    · rw [List.set_cons_succ, List.set_cons_succ, bytes, bytes, List.sum_cons, List.sum_cons, Ne,
        UInt8.add_right_inj]
      exact ih hpaired hold

/-- A text spells only one list of digits. -/
theorem Spells.unique {digits other : List Digit} {text : List UInt8} (h : Spells digits text)
    (hother : Spells other text) : other = digits :=
  List.map_injective_iff.2 (Option.some_injective _) (hother.symm.trans h)

/-- A text with one byte changed spells the digits with one of them changed. -/
theorem Spells.set {digits : List Digit} {text : List UInt8} (h : Spells digits text) (i : Nat)
    {b : UInt8} {digit : Digit} (hb : ofByte? b = some digit) :
    Spells (digits.set i digit) (text.set i b) := by
  rw [Spells, List.map_set, List.map_set, h, hb]

/-- The first bytes of a text spell the first digits. -/
theorem Spells.take {digits : List Digit} {text : List UInt8} (h : Spells digits text) (i : Nat) :
    Spells (digits.take i) (text.take i) := by
  rw [Spells, List.map_take, List.map_take, h]

end Digit

/-- The first digits of what begins a record begin it. -/
theorem Unfinished.take {κ : Type} {setting : Setting κ} {digits : List Digit}
    (h : Unfinished setting digits) (i : Nat) : Unfinished setting (digits.take i) := by
  induction digits using List.reverseRecOn with
  | nil => rwa [List.take_nil]
  | append_singleton digits digit ih =>
    by_cases hall : (digits ++ [digit]).length ≤ i
    · rwa [List.take_of_length_le hall]
    · rw [List.length_append, List.length_singleton] at hall
      rw [List.take_append_of_le_length (by omega)]
      exact ih h.of_concat

namespace Record

variable {κ : Type} {setting : Setting κ} {record : Record}

/-- The first digits of an admitted record begin it. -/
theorem Admitted.unfinished_take (h : record.Admitted setting) {i : Nat}
    (hi : i < record.digits.length) : Unfinished setting (record.digits.take i) := by
  obtain ⟨digits, digit, hdigits⟩ := record.exists_last
  rw [hdigits, List.length_append, List.length_singleton] at hi
  rw [hdigits, List.take_append_of_le_length (by omega)]
  exact (h.unfinished hdigits).take i

/-- The digits of a record pair up. -/
theorem odd?_digits (record : Record) : Digit.odd? record.digits = none := by
  rw [Digit.odd?_eq_none_iff, record.length_digits]
  omega

/-- One digit that is changed makes a record of another residue, if it makes one. -/
theorem residue_ne_of_set {other : Record} {i : Nat} {digit : Digit} (hi : i < record.digits.length)
    (hne : record.digits[i]? ≠ some digit) (hother : other.digits = record.digits.set i digit) :
    other.residue ≠ record.residue := by
  have hold := List.getElem?_eq_getElem hi
  have hchanged : digit ≠ record.digits[i] := fun hsame => hne (hold.trans (congrArg some hsame.symm))
  have hsum := Digit.sum_bytes_set_ne record.odd?_digits hold hchanged
  rwa [← hother, bytes_digits, bytes_digits] at hsum

/-- A digit that is changed behind the byte count makes another record, unless it is the first one of
the type. -/
theorem exists_record_of_set (record : Record) {i : Nat} (digit : Digit) (hi : 2 ≤ i)
    (htype : i ≠ 6) :
    ∃ other : Record, other.digits = record.digits.set i digit ∧
      other.payload.length = record.payload.length ∧ (i ≠ 7 → other.code = record.code) ∧
        (i = 7 → other.code = digit) := by
  have hlength := record.length_digits
  have hdeclared : Digit.declared (record.digits.set i digit) = record.payload.length := by
    rw [Digit.declared, List.take_set_of_le hi, ← Digit.declared, declared_digits]
  have hzero : (record.digits.set i digit)[6]? = some 0 := by
    rw [List.getElem?_set_ne htype, typeHigh_digits]
  obtain ⟨other, hother⟩ := exists_record
    (show (record.digits.set i digit).length = _ by rw [List.length_set, hlength, hdeclared]) hzero
  refine ⟨other, hother, ?_, fun hcode => ?_, ?_⟩
  · rw [← declared_digits, hother, hdeclared]
  · have hsame := other.typeLow_digits
    rw [hother, List.getElem?_set_ne hcode, typeLow_digits] at hsame
    exact (Option.some.inj hsame).symm
  · rintro rfl
    have hsame := other.typeLow_digits
    rw [hother, List.getElem?_set_self (by omega)] at hsame
    exact (Option.some.inj hsame).symm

end Record

namespace Run

variable {κ σ : Type} {host : Host κ σ} {r : Run κ σ} {record : Record} {body : List UInt8}

/-- A digit is neither a line end nor a colon. -/
theorem advance_digit_start {d : Decoder κ} (hphase : d.phase = .start) {b : UInt8} {digit : Digit}
    (hb : Digit.ofByte? b = some digit) : (d.advance b).2 = .refuse (.invalidStart b) := by
  apply Decoder.advance_invalidStart hphase <;> rintro rfl <;> cases hb

/-- Digits that are not those of a valid record are refused, or what follows them is, if it is no
digit: either it stands inside a record, or digits are left over that stand between records. -/
theorem exists_refused_of_no_record (hsteady : host.Steady) (hcalm : host.Calm)
    (hs : r.decoder.Sound) (hphase : r.decoder.phase = .start) {digits : List Digit}
    (hbody : Digit.Spells digits body) {e : UInt8} (he : Digit.ofByte? e = none)
    (hend : e ≠ terminator)
    (hnot : ∀ record : Record, record.Valid r.decoder.setting → record.digits ≠ digits) :
    ∃ failure,
      (r.feed host (recordMark :: (body ++ [e]))).1 = .ok (.refused (.own failure)) := by
  have hbetween := between_of_start hs hphase
  rcases Unfinished.or_exists_first r.decoder.setting digits with
    hopen | ⟨done, digit, later, rfl, hdone, hfirst⟩
  · obtain ⟨line, hrefused⟩ := refusedIdle_inside hs hphase host hopen hbody hend
      (fun d hmidway _ => hmidway.advance_invalidDigit he) []
    exact ⟨_, hrefused.outcome⟩
  · have htext : terminator ∉ recordMark :: (body ++ [e]) := by
      rw [← List.cons_append, List.mem_append, List.mem_singleton, not_or]
      exact ⟨terminator_not_mem_of_spells hbody, hend.symm⟩
    obtain ⟨first, behind, rfl, hspells, hbehind⟩ := Digit.spells_append_iff.1 hbody
    rw [List.append_assoc] at htext ⊢
    rcases hdone.defect_or_taken (s := ⟨r.decoder.addressing, r.world⟩) hfirst hcalm hspells
        (behind ++ [e]) with
      ⟨cause, place, hdefect⟩ | ⟨taken, t, htakenSpells, hvalid, htaken⟩
    · obtain ⟨line, last, hstop⟩ := hbetween.stop_defect hsteady htext hdefect
      exact ⟨_, (feed_of_failed hstop).1⟩
    · obtain ⟨next, hnext, hread⟩ := hbetween.read_record hsteady hvalid htakenSpells htaken
      cases later with
      | nil =>
        refine absurd ?_ (hnot taken hvalid)
        rw [List.append_nil]
        exact hspells.unique htakenSpells
      | cons digit later =>
        obtain ⟨c, behind, rfl, hc, -⟩ := List.map_eq_cons_iff.1 hbehind
        obtain ⟨line, last, hstop⟩ : ∃ line last, readBytes host (c :: (behind ++ [e])) next =
            (some (.failed (.own
              ⟨.invalidStart c, r.decoder.position.offset + (1 + first.length), line⟩)), last) :=
          hnext.readBytes_refused (ne_terminator_of_digit hc) (advance_digit_start hnext.phase hc) _
        exact ⟨_, (feed_of_failed ((hread _).trans hstop)).1⟩

/-- A digit that is changed behind the byte count is refused without effect: at the digit itself if it
is one of the type, and otherwise for the checksum. -/
theorem exists_refusedIdle_of_set (hs : r.decoder.Sound) (hphase : r.decoder.phase = .start)
    (host : Host κ σ) (hvalid : record.Valid r.decoder.setting)
    (hbody : Digit.Spells record.digits body) {i : Nat} (hi : i < body.length) (hcount : 2 ≤ i)
    {b : UInt8} {digit : Digit} (hb : Digit.ofByte? b = some digit)
    (hne : record.digits[i]? ≠ some digit) (rest : List UInt8) :
    ∃ failure, RefusedIdle host (recordMark :: (body.set i b ++ rest)) r failure ∧
      ((∃ residue, failure.cause = .checksumMismatch residue) ∨
        (i = 6 ∧ failure.cause = .typeNotSmall) ∨
          (i = 7 ∧ failure.cause = .unsupportedType digit)) := by
  have hlength : i < record.digits.length := hbody.length_eq ▸ hi
  have htake := hbody.take i
  have hopen := hvalid.toAdmitted.unfinished_take hlength
  have hshort : (record.digits.take i).length = i := List.length_take_of_le (Nat.le_of_lt hlength)
  have hset : body.set i b ++ rest = body.take i ++ b :: (body.drop (i + 1) ++ rest) := by
    rw [List.set_eq_take_append_cons_drop, if_pos hi, List.append_assoc, List.cons_append]
  have hend := ne_terminator_of_digit hb
  by_cases hhigh : i = 6
  · subst hhigh
    have hzero : digit ≠ 0 := fun hzero => hne (hzero ▸ record.typeHigh_digits)
    obtain ⟨line, hrefused⟩ := refusedIdle_inside hs hphase host hopen htake hend
      (fun d hmidway _ => (hmidway.advance_typeHigh hb hshort).1.trans (if_neg hzero)) _
    rw [hset]
    exact ⟨_, hrefused, .inr (.inl ⟨rfl, rfl⟩)⟩
  by_cases hlow : i = 7 ∧ (digit.val : Int) ∉ r.decoder.supported
  · obtain ⟨rfl, hcode⟩ := hlow
    obtain ⟨line, hrefused⟩ := refusedIdle_inside hs hphase host hopen htake hend
      (fun d hmidway hsetting => by
        have hsupported : d.supported = r.decoder.supported := congrArg Setting.supported hsetting
        exact hmidway.advance_unsupportedType hb hshort (hsupported ▸ hcode)) _
    rw [hset]
    exact ⟨_, hrefused, .inr (.inr ⟨rfl, rfl⟩)⟩
  · obtain ⟨other, hother, hpayload, hsame, hnew⟩ :=
      record.exists_record_of_set digit hcount hhigh
    have hadmitted : other.Admitted r.decoder.setting := by
      refine ⟨?_, hpayload ▸ hvalid.fits⟩
      by_cases hseven : i = 7
      · rw [hnew hseven]
        exact Classical.not_not.1 fun hcode => hlow ⟨hseven, hcode⟩
      · rw [hsame hseven]
        exact hvalid.supported
    have hresidue : other.residue ≠ 0 := by
      rw [← hvalid.residue_eq]
      exact Record.residue_ne_of_set hlength hne hother
    obtain ⟨failure, hrefused, hcause⟩ := refusedIdle_of_residue hs hphase host hadmitted hresidue
      (hother ▸ hbody.set i hb) rest
    exact ⟨failure, hrefused, .inl ⟨_, hcause⟩⟩

/-- A single change to a valid record is always caught, from any decoder that can be reached and stands
between records. If a digit is changed to another one, the record with the line end behind it is refused,
and without effect if it is no digit of the byte count; the cause is the checksum, or the type if it is a
digit of this. A byte that is no digit is refused where it stands, without effect. -/
theorem change_refused (hsteady : host.Steady) (hcalm : host.Calm) (hreach : r.decoder.Reachable)
    (hphase : r.decoder.phase = .start) (hvalid : record.Valid r.decoder.setting)
    (hbody : Digit.Spells record.digits body) {i : Nat} (hi : i < body.length) (b : UInt8) {e : UInt8}
    (he : e = lineFeed ∨ e = carriageReturn) :
    (∀ digit, Digit.ofByte? b = some digit → record.digits[i]? ≠ some digit →
      (∃ failure, (r.feed host (recordMark :: (body.set i b ++ [e]))).1 =
          .ok (.refused (.own failure))) ∧
        (2 ≤ i → ∃ failure, RefusedIdle host (recordMark :: (body.set i b ++ [e])) r failure ∧
          ((∃ residue, failure.cause = .checksumMismatch residue) ∨
            (i = 6 ∧ failure.cause = .typeNotSmall) ∨
              (i = 7 ∧ failure.cause = .unsupportedType digit)))) ∧
      (Digit.ofByte? b = none → b ≠ terminator →
        ∃ line, RefusedIdle host (recordMark :: (body.set i b ++ [e])) r
          ⟨.invalidDigit b, r.decoder.position.offset + (1 + i), line⟩) := by
  have hs := hreach.sound
  have hlength : i < record.digits.length := hbody.length_eq ▸ hi
  refine ⟨fun digit hb hne => ⟨?_, fun hcount => ?_⟩, fun hb hend => ?_⟩
  · have hnone : Digit.ofByte? e = none := by rcases he with rfl | rfl <;> rfl
    have hend : e ≠ terminator := by rcases he with rfl | rfl <;> decide
    refine exists_refused_of_no_record hsteady hcalm hs hphase (hbody.set i hb) hnone hend ?_
    intro other hother hdigits
    refine Record.residue_ne_of_set hlength hne hdigits ?_
    rw [hother.residue_eq, hvalid.residue_eq]
  · exact exists_refusedIdle_of_set hs hphase host hvalid hbody hi hcount hb hne [e]
  · have htake := (hbody.take i).length_eq
    rw [List.length_take_of_le (Nat.le_of_lt hlength)] at htake
    rw [List.set_eq_take_append_cons_drop, if_pos hi, List.append_assoc, List.cons_append]
    conv in 1 + i => rw [← htake]
    exact refusedIdle_inside hs hphase host (hvalid.toAdmitted.unfinished_take hlength)
      (hbody.take i) hend (fun d hmidway _ => hmidway.advance_invalidDigit hb) _

/-- A record of one byte that closes one byte earlier, with a sum of zero, if its byte count is changed
to zero: a block is delivered, and the digits left over are refused. If the last digit of the payload
is changed instead, there is no call. -/
theorem change_refused_byte_count :
    let host : Host Unit Nat := fun _ _ count => ({ verdict := .accept }, count + 1)
    let r := Run.start (.fresh (some ()) 255 [0]) 0 false
    let body : List UInt8 := [0x30, 0x31, 0x30, 0x30, 0x30, 0x30, 0x30, 0x30, 0x30, 0x30, 0x46, 0x46]
    (∃ failure, (r.feed host (recordMark :: (body.set 1 0x30 ++ [lineFeed]))).1 =
        .ok (.refused (.own failure))) ∧
      (r.feed host (recordMark :: (body.set 1 0x30 ++ [lineFeed]))).2.world = 1 ∧
      (∃ failure, RefusedIdle host (recordMark :: (body.set 9 0x31 ++ [lineFeed])) r failure) ∧
      ∃ line, RefusedIdle host (recordMark :: (body.set 9 0x78 ++ [lineFeed])) r
        ⟨.invalidDigit 0x78, 10, line⟩ := by
  intro host r body
  let record : Record := ⟨0, 0, 0, [0], 0xFF, by decide⟩
  have hsteady : host.Steady := fun _ _ _ => rfl
  have hcalm : host.Calm := fun _ _ _ => .inl rfl
  have hreach : r.decoder.Reachable := Decoder.reachable_fresh (some ()) 255 [0]
  have hvalid : record.Valid r.decoder.setting := ⟨⟨by decide, by decide⟩, by decide⟩
  have hbody : Digit.Spells record.digits body := by decide
  have hchange (i : Nat) (hi : i < body.length) (b : UInt8) :=
    change_refused hsteady hcalm hreach rfl hvalid hbody hi b (.inl rfl)
  obtain ⟨hcount, -⟩ := (hchange 1 (by decide) 0x30).1 0 rfl (by decide)
  obtain ⟨-, hpayload⟩ := (hchange 9 (by decide) 0x31).1 1 rfl (by decide)
  obtain ⟨failure, hidle, -⟩ := hpayload (by decide)
  exact ⟨hcount, by decide +kernel, ⟨failure, hidle⟩,
    (hchange 9 (by decide) 0x78).2 rfl (by decide)⟩

end Run

end IntelHex
