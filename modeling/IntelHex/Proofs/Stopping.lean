import IntelHex.Proofs.Chunking
import IntelHex.Proofs.Effects
import IntelHex.Proofs.Renewal

/-!
# What a byte that stops a run leaves behind

A byte may be refused, or a consumer may break off, after the byte has already counted as a digit, has
been added to the checksum or has even named the type of the record. None of this can be read off the
decoder: it shows the same as before the byte, and it tells the place where it stands as the place of
the failure. The only call that such a byte can make is the one that was not taken. The decoding error
that a consumer raises itself is remembered just as it is, wherever it says that it happened.
-/

namespace IntelHex

namespace Decoder

variable {κ : Type} {d after : Decoder κ} {action : Action κ}

/-- A digit that is added to the checksum or kept cannot be read off. -/
theorem view_absorb (d : Decoder κ) (digit : Digit) : (d.absorb digit).view = d.view := by
  rw [absorb_eq]
  rfl

/-- A digit shows only if it is accepted, and then no consumer is asked. -/
theorem Reads.view_eq {digit : Digit} {field : Field} (h : Reads d digit field after action)
    (hproceed : action ≠ .proceed) (hopen : ∀ event, action ≠ .finish event) :
    after.view = d.view := by
  cases h with
  | countDigit | countEnd | addressDigit | addressEnd | typeDigit | typeBeforeChecksum
  | typeBeforeData | dataDigit | dataEnd | checksumDigit => exact absurd rfl hproceed
  | finish => exact absurd rfl (hopen _)
  | typeNotSmall | unsupportedType | countOverflow | overrun | countMismatch | checksumMismatch
  | deliver => rfl

/-- A byte shows only if it is accepted, and then no consumer is asked. -/
theorem Moves.view_eq {b : UInt8} (h : Moves d b after action) (hproceed : action ≠ .proceed)
    (hopen : ∀ event, action ≠ .finish event) : after.view = d.view := by
  cases h with
  | lineFeed | carriageReturn | recordMark => exact absurd rfl hproceed
  | invalidStart => rfl
  | invalidDigit => rfl
  | digit field digit after action hphase hb hreads =>
    exact (hreads.view_eq hproceed hopen).trans (view_absorb d digit)

/-- No data block is rejected before a consumer is asked. -/
theorem Reads.cause_ne_rejected {digit : Digit} {field : Field} {cause : Cause}
    (h : Reads d digit field after (.refuse cause)) (address : Nat) : cause ≠ .rejected address := by
  cases h <;> exact nofun

/-- No data block is rejected before a consumer is asked. -/
theorem Moves.cause_ne_rejected {b : UInt8} {cause : Cause} (h : Moves d b after (.refuse cause))
    (address : Nat) : cause ≠ .rejected address := by
  cases h with
  | invalidStart => exact nofun
  | invalidDigit => exact nofun
  | digit field digit after action hphase hb hreads => exact hreads.cause_ne_rejected address

end Decoder

/-- How a feed ends that is stopped at a byte, and the call that this byte has made: what is reported is
remembered, but nothing is if the consumer broke off with an error that is no decoding error. -/
inductive Run.Halts {κ σ : Type} (host : Host κ σ) (before : Run κ σ)
    (fed : Except Abort Intake × Run κ σ) : Option (κ × Delivery) → Prop
  /-- The byte is refused where the decoder stands. -/
  | refused {failure : Failure} (houtcome : fed.1 = .ok (.refused (.own failure)))
      (hremembered : fed.2.decoder.lastError = some (.own failure))
      (hplace : failure.offset = fed.2.decoder.position.offset ∧
        failure.line = fed.2.decoder.position.line)
      (hcause : ∀ address, failure.cause ≠ .rejected address) : Halts host before fed none
  /-- The consumer does not take the block, and this is told where the decoder stands. -/
  | rejected {consumer : κ} {block : Delivery} {failure : Failure}
      (hverdict : (host consumer block before.world).1.verdict = .reject)
      (houtcome : fed.1 = .ok (.refused (.own failure)))
      (hremembered : fed.2.decoder.lastError = some (.own failure))
      (hplace : failure.offset = fed.2.decoder.position.offset ∧
        failure.line = fed.2.decoder.position.line)
      (hcause : failure.cause = .rejected block.address.toNat) :
    Halts host before fed (some (consumer, block))
  /-- The consumer breaks off with a decoding error, which is taken over as it is. -/
  | failed {consumer : κ} {block : Delivery} {error : ForeignError}
      (hverdict : (host consumer block before.world).1.verdict = .fail error)
      (houtcome : fed.1 = .ok (.refused (.foreign error)))
      (hremembered : fed.2.decoder.lastError = some (.foreign error)) :
    Halts host before fed (some (consumer, block))
  /-- The consumer breaks off with another error. -/
  | raised {consumer : κ} {block : Delivery} {message : String}
      (hverdict : (host consumer block before.world).1.verdict = .raise message)
      (houtcome : fed.1 = .error (.raised message))
      (hforgotten : fed.2.decoder.lastError = none) : Halts host before fed (some (consumer, block))

namespace Run

variable {κ σ : Type} {host : Host κ σ} {r next : Run κ σ} {b : UInt8} {stop : Stop}

/-- Asking consumers that do not reset the decoder leaves it alone. -/
theorem decoder_asked (hsteady : host.Steady) (event : Event) (consumer : κ) (block : Delivery)
    (r : Run κ σ) : (r.asked host event consumer block).decoder = r.decoder := by
  rw [asked, afterReply, hsteady]
  exact decoder_note r event

/-- A byte that stops the run does not show. -/
theorem view_step_of_some (hsteady : host.Steady) (hstep : r.step host b = (some stop, next)) :
    next.decoder.view = r.decoder.view := by
  have hmoves := Decoder.moves_advance r.decoder b
  cases Steps.of_eq hstep with
  | refuse haction => exact hmoves.view_eq (haction ▸ nofun) (haction ▸ nofun)
  | overrun haction => exact hmoves.view_eq (haction ▸ nofun) (haction ▸ nofun)
  | reject haction | fail haction | raise haction =>
    rw [decoder_asked hsteady]
    exact hmoves.view_eq (haction ▸ nofun) (haction ▸ nofun)

/-- A failure that the decoder finds has the place where it stands. -/
theorem step_failed_located {failure : Failure}
    (hstep : r.step host b = (some (.failed (.own failure)), next)) :
    failure = next.decoder.failure failure.cause := by
  cases Steps.of_eq hstep with
  | refuse => rfl
  | reject => rfl

/-- A byte that stops a sound decoder ends the feed in one of these ways. -/
theorem halts_of_step (hsteady : host.Steady) (hs : r.decoder.Sound)
    (hforgotten : r.decoder.lastError = none) (hstep : r.step host b = (some stop, next)) :
    Halts host r (conclude (some stop, next)) (r.reading host b).call? := by
  have hmoves := Decoder.moves_advance r.decoder b
  have hview := congrArg Decoder.View.lastError (view_step_of_some hsteady hstep)
  rw [Reading.call?, reading]
  dsimp only
  cases Steps.of_eq hstep with
  | refuse haction =>
    rw [haction] at hmoves ⊢
    refine .refused rfl ?_ ?_ fun address => hmoves.cause_ne_rejected address
    all_goals rw [conclude, decoder_note]
    · rfl
    · exact ⟨rfl, rfl⟩
  | overrun haction => exact absurd haction (hmoves.consistent hs).1
  | reject haction hverdict =>
    rw [haction]
    refine .rejected hverdict rfl ?_ ?_ rfl
    all_goals rw [conclude, decoder_note]
    · rfl
    · exact ⟨rfl, rfl⟩
  | fail haction hverdict =>
    rw [haction]
    refine .failed hverdict rfl ?_
    rw [conclude, decoder_note]
    rfl
  | raise haction hverdict =>
    rw [haction]
    exact .raised hverdict rfl (hview.trans hforgotten)

/-- What is read stops at a byte that follows bytes that are accepted. -/
theorem exists_stop_of_readBytes {data : List UInt8} {r last : Run κ σ}
    (hread : readBytes host data r = (some stop, last)) :
    ∃ first b rest middle, data = first ++ b :: rest ∧ terminator ∉ first ∧ b ≠ terminator ∧
      readBytes host first r = (none, middle) ∧ middle.step host b = (some stop, last) := by
  induction data generalizing r with
  | nil => cases hread
  | cons b data ih =>
    by_cases hb : b = terminator
    · subst hb
      rw [readBytes_terminator] at hread
      cases hread
    · rcases hstep : r.step host b with ⟨stopped, next⟩
      cases stopped with
      | some stopped =>
        rw [readBytes_cons_of_some hb hstep] at hread
        cases hread
        exact ⟨[], b, data, r, rfl, List.not_mem_nil, hb, rfl, hstep⟩
      | none =>
        rw [readBytes_cons_of_none hb hstep] at hread
        obtain ⟨first, c, rest, middle, rfl, hend, hc, hfirst, hlast⟩ := ih hread
        refine ⟨b :: first, c, rest, middle, rfl, ?_, hc, ?_, hlast⟩
        · exact List.not_mem_cons_of_ne_of_not_mem (Ne.symm hb) hend
        · rw [readBytes_cons_of_none hb hstep, hfirst]

/-- The entries of input in two pieces are those of the two, if the first is read to its end. -/
theorem readings_append {first : List UInt8} {r middle : Run κ σ}
    (hread : readBytes host first r = (none, middle)) (hend : terminator ∉ first)
    (rest : List UInt8) :
    readings host (first ++ rest) r = readings host first r ++ readings host rest middle := by
  induction first generalizing r with
  | nil =>
    cases hread
    rfl
  | cons b first ih =>
    rw [List.mem_cons, not_or] at hend
    obtain ⟨hb, hend⟩ := hend
    rcases hstep : r.step host b with ⟨stopped, next⟩
    cases stopped with
    | some stopped =>
      rw [readBytes_cons_of_some (Ne.symm hb) hstep] at hread
      cases hread
    | none =>
      rw [readBytes_cons_of_none (Ne.symm hb) hstep] at hread
      rw [List.cons_append, readings_cons_of_none (Ne.symm hb) hstep,
        readings_cons_of_none (Ne.symm hb) hstep, ih hread hend, List.cons_append]

/-- The calls that feeding makes. -/
def calls (host : Host κ σ) (data : List UInt8) (r : Run κ σ) : List (κ × Delivery) :=
  (readings host data (r.setError none)).filterMap Reading.call?

/-- The consumers have seen the calls of a feed, and no other. -/
theorem world_feed (host : Host κ σ) (data : List UInt8) (r : Run κ σ) :
    (r.feed host data).2.world = host.served (r.calls host data) r.world := by
  rw [feed_eq_conclude, world_conclude, world_readBytes]
  rfl

/-- The verdict of feeding shows in nothing but the error that is remembered. -/
theorem view_conclude (read : Option Stop × Run κ σ) :
    { (conclude read).2.decoder.view with lastError := none } =
      { read.2.decoder.view with lastError := none } := by
  rcases read with ⟨_ | (error | message | _), r⟩
  · rfl
  · rw [conclude, decoder_note]
    rfl
  · rfl
  · rfl

/-- What a feed that is not accepted comes to, seen from the bytes that it accepts before: the next byte
is the last one to be read, the decoder shows the same as before it but for the error that is remembered,
and the calls are those made before and the one, if any, that the byte has made. -/
structure StoppedAt (host : Host κ σ) (data : List UInt8) (r : Run κ σ) (i : Nat)
    (before : Run κ σ) : Prop where
  inside : i < data.length
  accepted : r.feed host (data.take i) = (.ok .accepted, before)
  last : r.feed host (data.take (i + 1)) = r.feed host data
  view : { (r.feed host data).2.decoder.view with lastError := none } = before.decoder.view
  halts : ∃ asked : Option (κ × Delivery),
    r.calls host data = r.calls host (data.take i) ++ asked.toList ∧
      Halts host before (r.feed host data) asked

/-- A feed that is not accepted is stopped somewhere. -/
theorem exists_stoppedAt (hsteady : host.Steady) (hs : r.decoder.Sound) {data : List UInt8}
    (hstop : (r.feed host data).1 ≠ .ok .accepted) : ∃ i before, StoppedAt host data r i before := by
  rw [feed_eq_conclude] at hstop
  rcases hread : readBytes host data (r.setError none) with ⟨_ | stop, last⟩
  · rw [hread] at hstop
    exact absurd rfl hstop
  obtain ⟨first, b, rest, before, rfl, hend, hb, hfirst, hstep⟩ := exists_stop_of_readBytes hread
  have haccepted : r.feed host first = (.ok .accepted, before) := feed_of_read hfirst
  have hforgotten : before.decoder.lastError = none := lastError_of_accepted haccepted
  have hfed : r.feed host (first ++ b :: rest) = conclude (some stop, last) := by
    rw [feed_eq_conclude, hread]
  have htake : (first ++ b :: rest).take first.length = first := List.take_left' rfl
  have hnext : (first ++ b :: rest).take (first.length + 1) = first ++ [b] := by
    rw [List.take_length_add_append]
    rfl
  have hbefore : before.decoder.Sound := by
    have hkept := stable_feed Decoder.stable_sound host first hs
    rwa [haccepted] at hkept
  refine ⟨first.length, before, ?_, htake.symm ▸ haccepted, ?_, ?_, ?_⟩
  · rw [List.length_append, List.length_cons]
    omega
  · rw [hnext, hfed, feed_eq_conclude, readBytes_append, hfirst]
    simp only [if_neg hend, readBytes_cons_of_some hb hstep]
  · rw [hfed, view_conclude, view_step_of_some hsteady hstep, ← hforgotten]
    rfl
  · refine ⟨(before.reading host b).call?, ?_, ?_⟩
    · rw [htake, calls, readings_append hfirst hend, readings_cons_of_some hb hstep,
        List.filterMap_append, List.filterMap_cons]
      cases (before.reading host b).call? <;> rfl
    · rw [hfed]
      exact halts_of_step hsteady hbefore hforgotten hstep

variable {setting : Setting κ} {s : Standing σ} {offset : Nat} {digits : List Digit}

/-- A sound decoder between two records stands there with the addressing in force. -/
theorem between_of_start (hs : r.decoder.Sound) (hphase : r.decoder.phase = .start) :
    (r.setError none).Between r.decoder.setting ⟨r.decoder.addressing, r.world⟩
      r.decoder.position.offset :=
  ⟨⟨rfl, rfl, rfl, rfl, hs.high_lt⟩, hphase⟩

/-- The text of digits has no terminator. -/
theorem terminator_not_mem_of_spells {body : List UInt8} (hbody : Digit.Spells digits body) :
    terminator ∉ recordMark :: body := by
  refine List.not_mem_cons_of_ne_of_not_mem (by decide) fun hmem => ?_
  obtain ⟨digit, hdigit⟩ := hbody.exists_of_mem hmem
  exact ne_terminator_of_digit hdigit rfl

/-- A byte that asks for nothing makes no call. -/
theorem calls_of_proceed (host : Host κ σ) (hb : b ≠ terminator)
    (hmove : (r.decoder.advance b).2 = .proceed) :
    (readings host [b] r).filterMap Reading.call? = [] := by
  have hstep : r.step host b = (none, { r with decoder := (r.decoder.advance b).1 }) := by
    rw [step_eq, hmove]
    rfl
  rw [readings_cons_of_none hb hstep, readings, List.filterMap_cons, Reading.call?, reading]
  simp only [hmove, List.filterMap_nil]

/-- A byte that is refused makes no call. -/
theorem calls_of_refuse (host : Host κ σ) (hb : b ≠ terminator) {cause : Cause}
    (hmove : (r.decoder.advance b).2 = .refuse cause) (rest : List UInt8) :
    (readings host (b :: rest) r).filterMap Reading.call? = [] := by
  have hstep : r.step host b = (some (.failed (.own ((r.decoder.advance b).1.failure cause))),
      { r with decoder := (r.decoder.advance b).1 }) := by
    rw [step_eq, hmove]
    rfl
  rw [readings_cons_of_some hb hstep, List.filterMap_cons, Reading.call?, reading]
  simp only [hmove, List.filterMap_nil]

/-- Digits that begin a record lead into it, and make no call. -/
theorem Between.calls_digits (h : r.Between setting s offset) (host : Host κ σ)
    (hopen : Unfinished setting digits) {body : List UInt8} (hbody : Digit.Spells digits body) :
    (readings host (recordMark :: body) r).filterMap Reading.call? = [] := by
  induction digits using List.reverseRecOn generalizing body with
  | nil =>
    obtain rfl : body = [] := List.map_eq_nil_iff.1 hbody
    exact calls_of_proceed host (by decide) (Decoder.Midway.of_recordMark h.phase).1
  | append_singleton digits digit ih =>
    obtain ⟨first, last, rfl, hfirst, hlast⟩ := Digit.spells_append_iff.1 hbody
    obtain ⟨b, rfl, hb⟩ := Digit.spells_singleton_iff.1 hlast
    obtain ⟨inside, hinside, hread⟩ := h.read_digits host hopen.of_concat hfirst
    have hall := hread []
    rw [List.append_nil] at hall
    have hmove := (hinside.midway.advance hb (hinside.setting_eq.symm ▸ hopen)).1
    rw [← List.cons_append, readings_append hall (terminator_not_mem_of_spells hfirst),
      List.filterMap_append, ih hopen.of_concat hfirst,
      calls_of_proceed host (ne_terminator_of_digit hb) hmove, List.append_nil]

/-- A feed is refused and has no effect: no consumer is called, and the addressing stays as it is. -/
structure RefusedIdle (host : Host κ σ) (data : List UInt8) (r : Run κ σ) (failure : Failure) :
    Prop where
  outcome : (r.feed host data).1 = .ok (.refused (.own failure))
  calls : r.calls host data = []
  addressing : (r.feed host data).2.decoder.addressing = r.decoder.addressing

/-- A byte that is refused inside a record stops the run there, without effect since the record
began. -/
theorem refusedIdle_inside (hs : r.decoder.Sound) (hphase : r.decoder.phase = .start)
    (host : Host κ σ) (hopen : Unfinished r.decoder.setting digits) {body : List UInt8}
    (hbody : Digit.Spells digits body) (hb : b ≠ terminator) {cause : Cause}
    (hmove : ∀ d : Decoder κ, d.Midway digits → d.setting = r.decoder.setting →
      (d.advance b).2 = .refuse cause) (rest : List UInt8) :
    ∃ line, RefusedIdle host (recordMark :: (body ++ b :: rest)) r
      ⟨cause, r.decoder.position.offset + (1 + body.length), line⟩ := by
  have hbetween := between_of_start hs hphase
  obtain ⟨inside, hinside, hread⟩ := hbetween.read_digits host hopen hbody
  have hall := hread []
  rw [List.append_nil] at hall
  have hrefuse := hmove _ hinside.midway hinside.setting_eq
  have hmoves := Decoder.moves_advance inside.decoder b
  rw [hrefuse] at hmoves
  have hstep : inside.step host b =
      (some (.failed (.own ((inside.decoder.advance b).1.failure cause))),
      { inside with decoder := (inside.decoder.advance b).1 }) := by
    rw [step_eq, hrefuse]
    rfl
  have hfed : r.feed host (recordMark :: (body ++ b :: rest)) =
      conclude (some (.failed (.own ((inside.decoder.advance b).1.failure cause))),
        { inside with decoder := (inside.decoder.advance b).1 }) := by
    rw [feed_eq_conclude, hread, readBytes_cons_of_some hb hstep]
  refine ⟨(inside.decoder.advance b).1.position.line, ⟨?_, ?_, ?_⟩⟩
  · rw [hfed, Decoder.failure, Failure.located, hinside.offset_advance b]
    rfl
  · rw [calls, ← List.cons_append, readings_append hall (terminator_not_mem_of_spells hbody),
      List.filterMap_append, hbetween.calls_digits host hopen hbody,
      calls_of_refuse host hb hrefuse, List.append_nil]
  · have hkept := hmoves.addressing fun event hfinish => by cases hfinish
    rw [hfed, conclude, decoder_note]
    exact hkept.trans hinside.addressing

/-- A record whose bytes do not sum up to zero is refused without effect. -/
theorem refusedIdle_of_residue (hs : r.decoder.Sound) (hphase : r.decoder.phase = .start)
    (host : Host κ σ) {record : Record} (hadmitted : record.Admitted r.decoder.setting)
    (hsum : record.residue ≠ 0) {body : List UInt8} (hbody : Digit.Spells record.digits body)
    (rest : List UInt8) :
    ∃ failure, RefusedIdle host (recordMark :: (body ++ rest)) r failure ∧
      failure.cause = .checksumMismatch record.residue := by
  obtain ⟨digits, digit, hdigits⟩ := record.exists_last
  rw [hdigits] at hbody
  obtain ⟨first, last, rfl, hfirst, hlast⟩ := Digit.spells_append_iff.1 hbody
  obtain ⟨b, rfl, hb⟩ := Digit.spells_singleton_iff.1 hlast
  rw [List.append_assoc]
  obtain ⟨line, hrefused⟩ :=
    refusedIdle_inside hs hphase host (hadmitted.unfinished hdigits) hfirst
      (ne_terminator_of_digit hb)
      (fun d hmidway _ => hmidway.advance_checksumMismatch hb hdigits hsum) rest
  exact ⟨_, hrefused, rfl⟩

/-- A byte that stops a run commits nothing, from any decoder that can be reached and with consumers
that do not reset it: the decoder shows the same as before the byte, but for the error that it remembers,
and the one call that the byte may have made was not taken. In particular a record whose checksum is
wrong makes no call and leaves the addressing as it is, whatever its type. -/
theorem stop_commits_nothing (hsteady : host.Steady) (hreach : r.decoder.Reachable) :
    (∀ data, (r.feed host data).1 ≠ .ok .accepted →
      ∃ i before, StoppedAt host data r i before) ∧
      (∀ data, (r.feed host data).2.world = host.served (r.calls host data) r.world) ∧
      ∀ (record : Record) (body rest : List UInt8), r.decoder.phase = .start →
        record.Admitted r.decoder.setting → record.residue ≠ 0 →
        Digit.Spells record.digits body →
        ∃ failure, RefusedIdle host (recordMark :: (body ++ rest)) r failure ∧
          failure.cause = .checksumMismatch record.residue := by
  have hs := hreach.sound
  refine ⟨fun data hstop => exists_stoppedAt hsteady hs hstop, fun data => world_feed host data r, ?_⟩
  intro record body rest hphase hadmitted hsum hbody
  exact refusedIdle_of_residue hs hphase host hadmitted hsum hbody rest

/-- A consumer that takes nothing, and a decoder that has refused a byte inside a record before: the
last digit of the record is refused where the decoder stands, and made the only call. -/
theorem stop_commits_nothing_rejected :
    let host : Host Unit Nat := fun _ _ count => ({ verdict := .reject }, count + 1)
    let r := ((Run.start (.fresh (some ()) 4 [0, 4]) 0 false).performAll host
      [.feed [0x0A, 0x3A, 0x78] none]).2
    let data : List UInt8 := [0x30, 0x31, 0x30, 0x30, 0x30, 0x30, 0x30, 0x30, 0x34, 0x31, 0x42, 0x45]
    (r.feed host data).1 = .ok (.refused (.own ⟨.rejected 0, 13, 2⟩)) ∧
      (r.feed host data).2.decoder.lastFailure = some ⟨.rejected 0, 13, 2⟩ ∧
      (∃ i before, StoppedAt host data r i before) ∧
      (r.feed host data).2.world = host.served [((), ⟨0, [0x41], 1⟩)] r.world := by
  intro host r data
  have hreach : r.decoder.Reachable := ⟨_, host, some (), 4, [0, 4], 0, false, _, rfl⟩
  have hrefused : (r.feed host data).1 = .ok (.refused (.own ⟨.rejected 0, 13, 2⟩)) := by
    decide +kernel
  have hremembered : (r.feed host data).2.decoder.lastFailure = some ⟨.rejected 0, 13, 2⟩ := by
    decide +kernel
  have hcalls : r.calls host data = [((), ⟨0, [0x41], 1⟩)] := by decide +kernel
  have hsteady : host.Steady := fun _ _ _ => rfl
  obtain ⟨hstop, hworld, -⟩ := stop_commits_nothing hsteady hreach
  exact ⟨hrefused, hremembered, hstop data (by rw [hrefused]; exact nofun), hcalls ▸ hworld data⟩

/-- A consumer that breaks off with a decoding error of its own, which names the beginning of the input:
it does not leave the feed, which is refused with this error at offset 0 in line 1, while the decoder
stands at offset 11 in line 2. -/
theorem foreign_error_misplaced :
    let error : ForeignError := ⟨"ConsumerRejectedError", "x", 0, 1⟩
    let host : Host Unit Unit := fun _ _ world => ({ verdict := .fail error }, world)
    let r := Run.start (.fresh (some ()) 255 Decoder.defaultSupported) () false
    let fed := r.feed host
      [0x0A, 0x3A, 0x30, 0x30, 0x30, 0x30, 0x30, 0x30, 0x30, 0x30, 0x30, 0x30]
    fed.1 = .ok (.refused (.foreign error)) ∧ fed.2.decoder.lastError = some (.foreign error) ∧
      fed.2.decoder.lastFailure = none ∧ (DecodingError.foreign error).offset = 0 ∧
        (DecodingError.foreign error).line = 1 ∧
          fed.2.decoder.position.offset = 11 ∧ fed.2.decoder.position.line = 2 := by
  decide +kernel

end Run

end IntelHex
