import Mathlib.Data.List.TakeDrop
import IntelHex.Proofs.Collecting
import IntelHex.Proofs.Events
import IntelHex.Proofs.History
import IntelHex.Proofs.Offers
import IntelHex.Proofs.Soundness

/-!
# The payload of the open record

All records share one payload buffer. A record mark clears it, and behind the mark only the accepted
digits of the payload are pushed into it. So in every decoder inside a record the buffer holds these
digits and nothing else: nothing of a longer record before it, and nothing that was refused since. A
reset leaves the old bytes in place, but it also leaves the record.
-/

namespace IntelHex

namespace Reading

variable {κ : Type} {entries : List (Reading κ)} {e : Reading κ}

/-- The payload digit that was accepted, if the byte is one. -/
def payloadDigit? (e : Reading κ) : Option Digit :=
  if e.before.phase = .within .data ∧ e.stop = none then Digit.ofByte? e.byte else none

/-- The payload digits that were accepted since the last record mark. -/
def payloadDigits (entries : List (Reading κ)) : List Digit :=
  (sinceMark entries).filterMap payloadDigit?

/-- A record mark begins a record without payload digits. -/
theorem payloadDigits_concat_of_mark (h : e.isMark = true) : payloadDigits (entries ++ [e]) = [] := by
  rw [payloadDigits, sinceMark_concat_of_mark h, List.filterMap_nil]

/-- Any other byte is one more payload digit, or none. -/
theorem payloadDigits_concat (h : e.isMark = false) :
    payloadDigits (entries ++ [e]) = payloadDigits entries ++ e.payloadDigit?.toList := by
  rw [payloadDigits, sinceMark_concat h, List.filterMap_append, payloadDigits]
  cases hdigit : e.payloadDigit? <;> simp [hdigit]

end Reading

namespace Decoder

variable {κ : Type} {d after : Decoder κ} {action : Action κ}

/-- A record mark clears the buffer. -/
theorem frame_advance_recordMark (hphase : d.phase = .start) :
    (d.advance IntelHex.recordMark).1.frame = .blank d.capacity := by
  rw [(Moves.recordMark hphase rfl).eq]

/-- A digit of the payload that is accepted is pushed into the buffer. Any other byte inside a record
leaves the buffer alone, and where a digit of the payload is due, the byte is refused. -/
theorem Moves.payload {b : UInt8} (h : Moves d b after action) (hopen : d.phase ≠ .start) :
    (∃ digit, d.phase = .within .data ∧ Digit.ofByte? b = some digit ∧
        d.frame.pushPayload? digit = some after.frame ∧ action = .proceed) ∨
      (after.frame.payload = d.frame.payload ∧ after.frame.payloadDigits = d.frame.payloadDigits ∧
        (d.phase = .within .data → action = .overrun ∨ ∃ cause, action = .refuse cause)) := by
  cases h with
  | lineFeed hphase | carriageReturn hphase | recordMark hphase | invalidStart hphase =>
    exact absurd hphase hopen
  | invalidDigit field hphase hb => exact .inr ⟨rfl, rfl, fun _ => .inr ⟨_, rfl⟩⟩
  | digit field digit after action hphase hb hreads =>
    rw [absorb_eq] at hreads
    cases hreads with
    | dataDigit frame hpush | dataEnd frame hpush => exact .inl ⟨digit, hphase, hb, hpush, rfl⟩
    | overrun => exact .inr ⟨rfl, rfl, fun _ => .inl rfl⟩
    | _ =>
      -- the digit belongs to another field
      refine .inr ⟨rfl, rfl, fun hdata => ?_⟩
      cases hphase.symm.trans hdata

/-- The payload buffer of a decoder inside a record holds some digits and nothing else. -/
structure HoldsOnly (d : Decoder κ) (capacity : Nat) (digits : List Digit) : Prop where
  /-- The digits are counted, and packed two by two in front of zeros. -/
  collects : d.frame.Collects capacity digits
  /-- There is room for them. -/
  fits : (Digit.packed digits).length ≤ capacity
  /-- When the checksum is due, the bytes of the record are those of the digits: there are as many as
  the record declares, and the first two of them, a missing one counting as zero, are those that an
  upper address is made of. -/
  complete : d.phase = .within .checksum →
    Digit.ofBytes d.frame.data = digits ∧ d.frame.data.length = d.frame.byteCount ∧
      d.frame.size = d.frame.byteCount ∧
      d.frame.extension =
        256 * (d.frame.data.getD 0 0).toNat + (d.frame.data.getD 1 0).toNat

/-- A sound decoder whose buffer holds some digits holds nothing else. -/
theorem Sound.holdsOnly {digits : List Digit} (hs : d.Sound)
    (hcollects : d.frame.Collects d.capacity digits) : d.HoldsOnly d.capacity digits where
  collects := hcollects
  fits := hcollects.length_packed_le hs.buffer
  complete hphase := by
    have hcounted := hs.counted
    rw [Counted, hphase] at hcounted
    have hlength : digits.length = 2 * d.frame.byteCount :=
      hcollects.payloadDigits.symm.trans hcounted
    have hpaired : Digit.odd? digits = none := by
      rw [Digit.odd?_eq_none_iff]
      omega
    refine ⟨?_, ?_, ?_, ?_⟩
    · rw [hcollects.data_eq, Digit.ofBytes_bytes hpaired]
    · rw [hcollects.data_eq, Digit.length_bytes]
      omega
    · rw [hcollects.size_eq]
      omega
    · rw [hcollects.extension_eq, Digit.packed_eq_bytes hpaired, hcollects.data_eq]

end Decoder

namespace Run

variable {κ σ : Type} {host : Host κ σ} {r : Run κ σ} {b : UInt8}

/-- A consumer that does not leave the record leaves all of it in place. -/
theorem frame_asked {event : Event} {consumer : κ} {block : Delivery}
    (hopen : (r.asked host event consumer block).decoder.phase ≠ .start) :
    (r.asked host event consumer block).decoder.frame = r.decoder.frame := by
  rw [asked, afterReply] at hopen ⊢
  by_cases hrestart : (host consumer block r.world).1.restart = true
  · rw [if_pos hrestart] at hopen
    exact absurd rfl hopen
  · rw [if_neg hrestart, decoder_note]

/-- A byte that does not leave the record has done to it what the decoder does. -/
theorem frame_reading (hopen : (r.reading host b).after.phase ≠ .start) :
    (r.reading host b).after.frame = (r.decoder.advance b).1.frame := by
  have hsteps := steps_step host b r
  change (r.step host b).2.decoder.phase ≠ .start at hopen
  change (r.step host b).2.decoder.frame = (r.decoder.advance b).1.frame
  generalize (r.step host b).1 = stop at hsteps
  generalize (r.step host b).2 = next at hsteps hopen ⊢
  cases hsteps with
  | proceed | refuse | overrun => rfl
  | finish => rw [decoder_note, advanced]
  | accept => exact absurd rfl hopen
  | reject | fail | raise => rw [frame_asked hopen, advanced]

/-- A digit of the payload that is accepted is one of the payload digits. -/
theorem payloadDigit?_of_proceed {digit : Digit} (hphase : r.decoder.phase = .within .data)
    (hb : Digit.ofByte? b = some digit) (haction : (r.decoder.advance b).2 = .proceed) :
    (r.reading host b).payloadDigit? = some digit := by
  rw [Reading.payloadDigit?, reading, step_eq, haction]
  exact (if_pos ⟨hphase, rfl⟩).trans hb

/-- A byte that is refused where a digit of the payload is due, or is read elsewhere, is none. -/
theorem payloadDigit?_of_refused (hrefused : r.decoder.phase = .within .data →
      (r.decoder.advance b).2 = .overrun ∨ ∃ cause, (r.decoder.advance b).2 = .refuse cause) :
    (r.reading host b).payloadDigit? = none := by
  refine if_neg fun ⟨hphase, hstop⟩ => ?_
  change (r.step host b).1 = none at hstop
  rcases hrefused hphase with haction | ⟨cause, haction⟩
  all_goals
    rw [step_eq, haction] at hstop
    cases hstop

end Run

/-- Inside a record the buffer has collected the payload digits accepted since the record mark. -/
structure Reading.Collected {κ : Type} (capacity : Nat) (past : List (Reading κ)) (d : Decoder κ) :
    Prop where
  sound : d.Sound
  capacity_eq : d.capacity = capacity
  collects : d.phase ≠ .start → d.frame.Collects capacity (payloadDigits past)

/-- Inside a record the buffer holds nothing else. -/
theorem Reading.Collected.holdsOnly {κ : Type} {capacity : Nat} {past : List (Reading κ)}
    {d : Decoder κ} (h : Collected capacity past d) (hopen : d.phase ≠ .start) :
    d.HoldsOnly capacity (payloadDigits past) := by
  have hcollects := h.collects hopen
  rw [← h.capacity_eq] at hcollects ⊢
  exact h.sound.holdsOnly hcollects

/-- Every byte keeps account of the payload. -/
theorem Host.chronicles_collected {κ σ : Type} (host : Host κ σ) (capacity : Nat) :
    host.Chronicles (Reading.Collected capacity) where
  step past r b h := by
    refine ⟨Run.kept_step Decoder.stable_sound.toKept host b h.sound,
      Run.kept_step (Decoder.stable_capacity (· = capacity)).toKept host b h.capacity_eq,
      fun hopen => ?_⟩
    rw [Run.frame_reading hopen]
    by_cases hphase : r.decoder.phase = .start
    -- only a record mark leads into a record, and it clears what an earlier one has left behind
    · have hmark := (Run.reading_of_start host b hphase).2.resolve_right hopen
      obtain rfl : b = recordMark := (of_decide_eq_true hmark).2
      rw [Reading.payloadDigits_concat_of_mark hmark, Decoder.frame_advance_recordMark hphase,
        h.capacity_eq]
      exact .blank capacity
    · have hcollects := h.collects hphase
      rw [Reading.payloadDigits_concat (Reading.isMark_of_phase hphase)]
      rcases (Decoder.moves_advance r.decoder b).payload hphase with
        ⟨digit, hdata, hb, hpush, haction⟩ | ⟨hpayload, hcount, hrefused⟩
      · rw [Run.payloadDigit?_of_proceed hdata hb haction]
        exact hcollects.push digit hpush
      · rw [Run.payloadDigit?_of_refused hrefused, Option.toList_none, List.append_nil]
        exact hcollects.of_eq hpayload hcount
  advanceByte _ d h := ⟨Decoder.stable_sound.advanceByte d h.sound, h.capacity_eq, h.collects⟩
  setError _ d failure h :=
    ⟨Decoder.stable_sound.setError d failure h.sound, h.capacity_eq, h.collects⟩

namespace Run

variable {κ σ : Type}

/-- The data block of a call is the payload of the record that is read. -/
theorem block_of_call {host : Host κ σ} {reader : Run κ σ} {b : UInt8} {consumer : κ}
    {block : Delivery} (h : (reader.reading host b).call? = some (consumer, block)) :
    reader.decoder.phase = .within .checksum ∧ block = reader.decoder.block := by
  obtain ⟨event, haction⟩ := action_of_call h
  have hmoves := Decoder.moves_advance reader.decoder b
  rw [haction] at hmoves
  exact ⟨(hmoves.event_iff.1 rfl).1, hmoves.eq_of_deliver.2⟩

/-- Whatever operations are performed on a new decoder, whatever fails in between, and whatever its
consumers do: at each byte, and behind all of them, the payload buffer of a decoder inside a record
holds the payload digits that were accepted since the record mark, and nothing else. A consumer is
given the bytes that these digits pair up to. -/
theorem buffer_of_open_record (host : Host κ σ) (consumer : Option κ) (capacity : Nat)
    (supported : List Int) (world : σ) (traced : Bool) (ops : List (Operation κ)) :
    let first := start (.fresh consumer capacity supported) world traced
    let history := first.history host ops
    let last := (first.performAll host ops).2.decoder
    (last.phase ≠ .start → last.HoldsOnly capacity (Reading.payloadDigits history)) ∧
      ∀ earlier e later, history = earlier ++ e :: later →
        (e.before.phase ≠ .start → e.before.HoldsOnly capacity (Reading.payloadDigits earlier)) ∧
        ∀ asked block, e.call? = some (asked, block) →
          Digit.ofBytes block.data = Reading.payloadDigits earlier ∧
            block.size = block.data.length := by
  intro first history last
  have hfresh : Reading.Collected capacity [] first.decoder :=
    ⟨Decoder.sound_fresh consumer capacity supported, rfl, fun hopen => absurd rfl hopen⟩
  have hreset : ∀ past d, Reading.Collected (κ := κ) capacity past d →
      Reading.Collected capacity past d.reset := fun past d h =>
    ⟨Decoder.stable_sound.reset d h.sound, h.capacity_eq, fun hopen => absurd rfl hopen⟩
  have hregister : ∀ (next : Option κ) past d, Reading.Collected capacity past d →
      Reading.Collected capacity past (d.register next) := fun next past d h =>
    ⟨Decoder.stable_sound.register d next h.sound, h.capacity_eq, h.collects⟩
  obtain ⟨hlast, hentries⟩ := (host.chronicles_collected capacity).history
    (fun next _ => hregister next) (fun _ => hreset) hfresh
  refine ⟨hlast.holdsOnly, fun earlier e later hsplit => ?_⟩
  obtain ⟨reader, hread, hthere⟩ := hentries earlier e later hsplit
  rw [hread]
  refine ⟨hthere.holdsOnly, fun asked block hcall => ?_⟩
  obtain ⟨hphase, rfl⟩ := block_of_call hcall
  obtain ⟨hdata, hlength, hsize, -⟩ := (hthere.holdsOnly (by rw [hphase]; exact nofun)).complete hphase
  exact ⟨hdata, congrArg Int.ofNat (hsize.trans hlength.symm)⟩

/-- A data record of three bytes, a reset, and an address record of one byte that is refused an `x` and
cut by a terminator between its two digits. When its checksum is due, the buffer holds its byte and two
zeros, and the second byte of the upper address is zero. The consumer was given the three bytes. -/
theorem buffer_of_open_record_after_longer :
    let host : Host Unit (List Delivery) := fun _ block calls =>
      ({ verdict := .accept }, calls ++ [block])
    let longer : List UInt8 :=
      [0x3A, 0x30, 0x33, 0x30, 0x30, 0x30, 0x30, 0x30, 0x30, 0x41, 0x41, 0x42, 0x42, 0x43, 0x43,
        0x43, 0x43]
    let shorter : List UInt8 :=
      [0x3A, 0x30, 0x31, 0x30, 0x30, 0x30, 0x30, 0x30, 0x32, 0x31, 0x78]
    let ops : List (Operation Unit) :=
      [.feed longer none, .reset, .feed shorter none, .feed [0x00, 0x33] none, .feed [0x32] none]
    let first := start (.fresh (some ()) 3 [0, 2]) [] false
    let history := first.history host ops
    let last := (first.performAll host ops).2.decoder
    (last.phase = .within .checksum ∧ last.frame.payload.toList = [0x12, 0, 0] ∧
        last.frame.payloadDigits = 2 ∧ last.frame.data = [0x12] ∧ last.frame.extension = 0x1200) ∧
      ∃ e block, history = history.take 16 ++ e :: history.drop 17 ∧
        e.call? = some ((), block) ∧ block.data = [0xAA, 0xBB, 0xCC] := by
  intro host longer shorter ops first history last
  have hphase : last.phase = .within .checksum := by decide +kernel
  have hdigits : Reading.payloadDigits history = [1, 2] := by decide +kernel
  have hbefore : Reading.payloadDigits (history.take 16) = [10, 10, 11, 11, 12, 12] := by
    decide +kernel
  have hlong : 16 < history.length := by decide +kernel
  have hcalled : history[16].call?.isSome := by decide +kernel +revert
  have hsplit : history = history.take 16 ++ history[16] :: history.drop 17 := by
    rw [List.cons_getElem_drop_succ, List.take_append_drop]
  have hboth := buffer_of_open_record host (some ()) 3 [0, 2] [] false ops
  -- the run is written out everywhere, so that it is recognised without being evaluated
  dsimp only [first, history, last] at hphase hdigits hbefore hcalled hsplit hboth ⊢
  obtain ⟨hlast, hentries⟩ := hboth
  constructor
  · have hholds := hlast (by rw [hphase]; exact nofun)
    rw [hdigits] at hholds
    obtain ⟨hown, -, -, hextension⟩ := hholds.complete hphase
    have hdata := congrArg Digit.bytes hown
    rw [Digit.bytes_ofBytes] at hdata
    rw [hdata] at hextension ⊢
    exact ⟨hphase, hholds.collects.payload, hholds.collects.payloadDigits, rfl, hextension⟩
  · obtain ⟨⟨_, block⟩, hcall⟩ := Option.isSome_iff_exists.1 hcalled
    obtain ⟨hown, -⟩ := (hentries _ _ _ hsplit).2 () block hcall
    have hdata := congrArg Digit.bytes (hown.trans hbefore)
    rw [Digit.bytes_ofBytes] at hdata
    exact ⟨_, block, hsplit, hcall, hdata⟩

end Run

end IntelHex
