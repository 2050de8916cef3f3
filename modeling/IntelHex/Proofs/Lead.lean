import IntelHex.Proofs.Stopping

/-!
# Decoders that are ahead

A decoder never reads its offset: it is only told, as the place where the decoder stands or where a
byte was refused. So a decoder that has counted some bytes more than another does the same, and stays
ahead of it by as many bytes in everything that it tells, until a consumer resets both. Then both count
from zero, and nothing is left of the lead.
-/

namespace IntelHex

/-- The same position, so many bytes further on. -/
def Position.ahead (n : Nat) (p : Position) : Position :=
  { p with offset := p.offset + n }

/-- The same failure, so many bytes further on. -/
def Failure.ahead (n : Nat) (f : Failure) : Failure :=
  { f with offset := f.offset + n }

/-- The same error, so many bytes further on. A consumer names the place of its own errors itself. -/
def DecodingError.ahead (n : Nat) : DecodingError → DecodingError
  | .own failure => .own (failure.ahead n)
  | .foreign error => .foreign error

/-- The same stop, so many bytes further on. -/
def Stop.ahead (n : Nat) : Stop → Stop
  | .failed error => .failed (error.ahead n)
  | .raised message => .raised message
  | .overrun => .overrun

/-- The same answer, so many bytes further on. -/
def Intake.ahead (n : Nat) : Intake → Intake
  | .accepted => .accepted
  | .refused error => .refused (error.ahead n)

/-- The same event, so many bytes further on: only an error tells its place. -/
def Event.ahead (n : Nat) : Event → Event
  | .failed error => .failed (error.ahead n)
  | event => event

/-- Whether one of some calls, which are made one after the other, resets the decoder. -/
def Host.restarts {κ σ : Type} (host : Host κ σ) : List (κ × Delivery) → σ → Bool
  | [], _ => false
  | (consumer, block) :: calls, world =>
    (host consumer block world).1.restart || host.restarts calls (host consumer block world).2

/-- What is left of a lead after some calls: nothing if one of them resets the decoder. -/
def Host.lead {κ σ : Type} (host : Host κ σ) (calls : List (κ × Delivery)) (world : σ) (n : Nat) :
    Nat :=
  if host.restarts calls world then 0 else n

namespace Host

variable {κ σ : Type} (host : Host κ σ)

/-- Calls in two parts reset the decoder in the first one or in the second one. -/
theorem restarts_append (first second : List (κ × Delivery)) (world : σ) :
    host.restarts (first ++ second) world =
      (host.restarts first world || host.restarts second (host.served first world)) := by
  induction first generalizing world with
  | nil => rfl
  | cons call first ih =>
    rw [List.cons_append, restarts, restarts, ih, Bool.or_assoc]
    rfl

/-- What the first calls have left of a lead is the lead that the others begin with. -/
theorem lead_append (first second : List (κ × Delivery)) (world : σ) (n : Nat) :
    host.lead (first ++ second) world n =
      host.lead second (host.served first world) (host.lead first world n) := by
  unfold lead
  rw [restarts_append]
  cases host.restarts first world <;> simp

/-- A single call ends the lead if it resets the decoder. -/
theorem lead_singleton (consumer : κ) (block : Delivery) (world : σ) (n : Nat) :
    host.lead [(consumer, block)] world n =
      if (host consumer block world).1.restart then 0 else n := by
  rw [lead, restarts, restarts, Bool.or_false]

end Host

namespace Decoder

variable {κ : Type} {d after : Decoder κ} {action : Action κ} {b : UInt8}

/-- The same decoder, so many bytes further on. -/
def ahead (n : Nat) (d : Decoder κ) : Decoder κ :=
  { d with position := d.position.ahead n, lastError := d.lastError.map (.ahead n) }

/-- A digit is added to the checksum or kept alike. -/
theorem absorb_ahead (d : Decoder κ) (n : Nat) (digit : Digit) :
    (d.ahead n).absorb digit = (d.absorb digit).ahead n := by
  unfold absorb
  rw [show (d.ahead n).pending = d.pending from rfl]
  split <;> rfl

/-- A digit is read alike. -/
theorem Reads.ahead {digit : Digit} {field : Field} (n : Nat)
    (h : Reads d digit field after action) : Reads (d.ahead n) digit field (after.ahead n) action := by
  cases h with
  | countDigit hmore => exact .countDigit hmore
  | countEnd hlast => exact .countEnd hlast
  | addressDigit hmore => exact .addressDigit hmore
  | addressEnd hlast => exact .addressEnd hlast
  | typeDigit hfirst hzero => exact .typeDigit hfirst hzero
  | typeNotSmall hfirst hzero => exact .typeNotSmall hfirst hzero
  | unsupportedType hlater htype => exact .unsupportedType hlater htype
  | typeBeforeChecksum hlater htype hempty => exact .typeBeforeChecksum hlater htype hempty
  | countOverflow hlater htype hlarge hsome => exact .countOverflow hlater htype hlarge hsome
  | typeBeforeData hlater htype hfits hsome => exact .typeBeforeData hlater htype hfits hsome
  | overrun hfull => exact .overrun hfull
  | dataDigit frame hpush hmore => exact .dataDigit frame hpush hmore
  | dataEnd frame hpush hlast => exact .dataEnd frame hpush hlast
  | checksumDigit hfirst => exact .checksumDigit hfirst
  | countMismatch hlater hcount => exact .countMismatch hlater hcount
  | checksumMismatch hlater hcount hsum => exact .checksumMismatch hlater hcount hsum
  | deliver consumer hlater hcount hsum hkind hconsumer =>
    exact .deliver consumer hlater hcount hsum hkind hconsumer
  | finish hlater hcount hsum hkind => exact .finish hlater hcount hsum hkind

/-- A byte is read alike. -/
theorem Moves.ahead (n : Nat) (h : Moves d b after action) :
    Moves (d.ahead n) b (after.ahead n) action := by
  cases h with
  | lineFeed hphase hb => exact .lineFeed hphase hb
  | carriageReturn hphase hb => exact .carriageReturn hphase hb
  | recordMark hphase hb => exact .recordMark hphase hb
  | invalidStart hphase hlf hcr hmark => exact .invalidStart hphase hlf hcr hmark
  | invalidDigit field hphase hb => exact .invalidDigit field hphase hb
  | digit field digit after action hphase hb hreads =>
    have hahead := hreads.ahead n
    rw [← absorb_ahead] at hahead
    exact .digit field digit _ _ hphase hb hahead

/-- A byte asks for the same, and keeps the lead. -/
theorem advance_ahead (d : Decoder κ) (n : Nat) (b : UInt8) :
    (d.ahead n).advance b = ((d.advance b).1.ahead n, (d.advance b).2) :=
  ((moves_advance d b).ahead n).eq

/-- The event of a record tells no place. -/
theorem recordEvent_ahead (d : Decoder κ) (n : Nat) : d.recordEvent.ahead n = d.recordEvent := by
  unfold recordEvent
  split <;> rfl

end Decoder

/-- The event tells no place: it is the same for any lead. -/
def Event.Placeless (event : Event) : Prop :=
  ∀ n, event.ahead n = event

/-- The event that is traced for a byte tells no place. -/
theorem Decoder.Moves.placeless {κ : Type} {d after : Decoder κ} {action : Action κ} {b : UInt8}
    (h : Moves d b after action) : ∀ event ∈ action.event?, event.Placeless := by
  cases h with
  | digit field digit after action hphase hb hreads =>
    cases hreads with
    | deliver | finish =>
      rintro event ⟨⟩
      exact recordEvent_ahead _
    | _ => exact nofun
  | _ => exact nofun

namespace Run

variable {κ σ : Type} {host : Host κ σ} {r : Run κ σ} {b : UInt8} {event : Event}

/-- No event of the trace tells a place. -/
def Placeless (r : Run κ σ) : Prop :=
  ∀ event ∈ r.trace, event.Placeless

/-- A trace that tells no place is the same for any lead. -/
theorem Placeless.map_ahead (h : r.Placeless) (n : Nat) : r.trace.map (Event.ahead n) = r.trace :=
  (List.map_congr_left fun event hmem => h event hmem n).trans r.trace.map_id

/-- An event that tells no place is traced. -/
theorem Placeless.note (h : r.Placeless) (hevent : event.Placeless) : (r.note event).Placeless := by
  unfold Run.note
  split
  · exact List.forall_mem_append.2 ⟨h, List.forall_mem_singleton.2 hevent⟩
  · exact h

/-- The event that is traced in a step tells no place. -/
theorem Placeless.step (h : r.Placeless) (host : Host κ σ) (b : UInt8) :
    (r.step host b).2.Placeless := by
  have hadvanced : (r.advanced b).Placeless := h
  have hevent := (Decoder.moves_advance r.decoder b).placeless
  have hsteps := steps_step host b r
  generalize (r.step host b).1 = stop at hsteps
  generalize (r.step host b).2 = next at hsteps
  cases hsteps with
  | proceed | refuse | overrun => exact h
  | finish haction | accept haction | reject haction | fail haction | raise haction =>
    rw [haction] at hevent
    exact hadvanced.note (hevent _ rfl)

/-- The same run, so many bytes further on, with some events in front. -/
def ahead (past : List Event) (n : Nat) (r : Run κ σ) : Run κ σ :=
  { r with decoder := r.decoder.ahead n, trace := past ++ r.trace.map (Event.ahead n) }

section Ahead

variable (host : Host κ σ) (past : List Event) (n : Nat)

/-- An event is traced so many bytes further on. -/
theorem note_ahead (r : Run κ σ) (event : Event) :
    (r.ahead past n).note (event.ahead n) = (r.note event).ahead past n := by
  unfold note
  by_cases htraced : r.traced = true
  · rw [if_pos (show (r.ahead past n).traced = true from htraced), if_pos htraced, ahead, ahead,
      List.map_append, List.append_assoc]
    rfl
  · rw [if_neg (show (r.ahead past n).traced ≠ true from htraced), if_neg htraced]

/-- A byte is counted alike. -/
theorem countByte_ahead (r : Run κ σ) : (r.ahead past n).countByte = r.countByte.ahead past n := by
  have hoffset : r.decoder.position.offset + n + 1 = r.decoder.position.offset + 1 + n :=
    Nat.add_right_comm _ n 1
  rw [countByte, ahead, Decoder.ahead, Position.ahead, Position.advanceByte, hoffset]
  rfl

/-- What a consumer did is taken over, and a reset makes up for the lead. -/
theorem afterReply_ahead (h : r.Placeless) (reply : Reply) (world : σ) :
    (r.ahead past n).afterReply reply world =
      (r.afterReply reply world).ahead past (if reply.restart then 0 else n) := by
  -- a reset changes the lead in the middle of the trace, so no event before it may tell a place
  have htrace : r.trace.map (Event.ahead n) = r.trace.map (Event.ahead 0) :=
    (h.map_ahead n).trans (h.map_ahead 0).symm
  unfold afterReply
  cases reply.restart with
  | false => rfl
  | true =>
    rw [ahead, htrace]
    rfl

/-- An answer is followed alike. -/
theorem settle_ahead (r : Run κ σ) (block : Delivery) (verdict : Verdict) :
    (r.ahead past n).settle block verdict =
      ((r.settle block verdict).1.map (Stop.ahead n), (r.settle block verdict).2.ahead past n) := by
  cases verdict <;> rfl

/-- A data block is delivered alike. -/
theorem deliver_ahead (h : r.Placeless) (consumer : κ) (block : Delivery) :
    let left := host.lead [(consumer, block)] r.world n
    (r.ahead past n).deliver host consumer block =
      ((r.deliver host consumer block).1.map (Stop.ahead left),
        (r.deliver host consumer block).2.ahead past left) := by
  intro left
  rw [deliver_eq, deliver_eq, show (r.ahead past n).world = r.world from rfl,
    afterReply_ahead past n h, settle_ahead, ← host.lead_singleton]

/-- A step is made alike. -/
theorem step_ahead (h : r.Placeless) (b : UInt8) :
    let left := host.lead (r.reading host b).call?.toList r.world n
    (r.ahead past n).step host b =
      ((r.step host b).1.map (Stop.ahead left), (r.step host b).2.ahead past left) := by
  have hadvanced : (r.advanced b).Placeless := h
  have hevent := (Decoder.moves_advance r.decoder b).placeless
  rw [step_eq, step_eq, show (r.ahead past n).decoder.advance b = _ from r.decoder.advance_ahead n b,
    Reading.call?, reading]
  change act host _ ((r.advanced b).ahead past n) = _
  cases haction : (r.decoder.advance b).2 with
  | proceed | refuse | overrun => rfl
  | finish event =>
    rw [haction] at hevent
    have hnoted := note_ahead past n (r.advanced b) event
    rw [hevent event rfl n] at hnoted
    exact congrArg (none, ·) hnoted
  | deliver event consumer block =>
    rw [haction] at hevent
    have hdelivered :=
      deliver_ahead host past n (hadvanced.note (hevent event rfl)) consumer block
    rw [← note_ahead, hevent event rfl n, world_note] at hdelivered
    exact hdelivered

/-- Bytes are read alike. -/
theorem readBytes_ahead (h : r.Placeless) (data : List UInt8) :
    let left := host.lead ((readings host data r).filterMap Reading.call?) r.world n
    readBytes host data (r.ahead past n) =
      ((readBytes host data r).1.map (Stop.ahead left), (readBytes host data r).2.ahead past left) := by
  -- any byte can end the lead, so the induction is for every lead at once
  induction data generalizing r n with
  | nil => rfl
  | cons b data ih =>
    by_cases hb : b = terminator
    · subst hb
      rw [readBytes_terminator, readBytes_terminator, readings_terminator]
      rfl
    · have hahead := step_ahead host past n h b
      have hworld := world_step host b r
      have hnext := h.step host b
      rcases hstep : r.step host b with ⟨stop, next⟩
      rw [hstep] at hahead hworld hnext
      cases stop with
      | none =>
        rw [readBytes_cons_of_none hb hahead, readBytes_cons_of_none hb hstep,
          readings_cons_of_none hb hstep, Reading.calls_cons, host.lead_append, ← hworld,
          countByte_ahead]
        exact ih (r := next.countByte) _ hnext
      | some stop =>
        rw [readBytes_cons_of_some hb hahead, readBytes_cons_of_some hb hstep,
          readings_cons_of_some hb hstep, Reading.calls_cons, List.filterMap_nil, List.append_nil]
        rfl

/-- The verdict is as far ahead as the run. -/
theorem conclude_ahead (stop : Option Stop) (r : Run κ σ) :
    conclude (stop.map (Stop.ahead n), r.ahead past n) =
      ((conclude (stop, r)).1.map (Intake.ahead n), (conclude (stop, r)).2.ahead past n) := by
  match stop with
  | none => rfl
  | some (.failed error) =>
    exact congrArg (_, ·) (note_ahead past n (r.setError (some error)) (.failed error))
  | some (.raised message) => rfl
  | some .overrun => rfl

/-- Data are taken in alike, and what is told of a refused byte is as far ahead as the calls of the
feed have left it. -/
theorem feed_ahead (h : r.Placeless) (data : List UInt8) :
    let left := host.lead (r.calls host data) r.world n
    (r.ahead past n).feed host data =
      ((r.feed host data).1.map (Intake.ahead left), (r.feed host data).2.ahead past left) := by
  intro left
  have hforgotten : (r.setError none).Placeless := h
  rw [feed_eq_conclude, feed_eq_conclude, ← conclude_ahead]
  exact congrArg conclude (readBytes_ahead host past n hforgotten data)

end Ahead

end Run

end IntelHex
