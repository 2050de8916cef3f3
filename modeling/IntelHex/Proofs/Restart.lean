import IntelHex.Proofs.Lead
import IntelHex.Proofs.Skipping
import IntelHex.Proofs.Wording

/-!
# A consumer that resets the decoder

A consumer may reset the decoder that asks it, in the middle of a record and of a feed. Nothing of the
record is left then that a later byte could bring to light. If the block is taken, the byte that
completed the record is still counted, by the decoder that has just begun to count anew, so the rest of
the feed is taken in as by a new decoder that is ahead by this byte. If it is not taken, the feed ends
with a failure at the very beginning, and what comes next is read as by a new decoder.
-/

namespace IntelHex

namespace Decoder

variable {κ : Type} {d after : Decoder κ} {action : Action κ} {b : UInt8} {event : Event} {consumer : κ}
  {block : Delivery}

/-- A byte leaves alone what a new decoder takes over. -/
theorem Moves.renew_eq (h : Moves d b after action) : after.renew = d.renew := by
  obtain ⟨hcapacity, hsupported, hconsumer, -⟩ := h.frame
  rw [renew, renew, hcapacity, hsupported, hconsumer]

/-- A data block is delivered at the address of the record. -/
theorem Moves.address_block (h : Moves d b after (.deliver event consumer block)) :
    block.address = d.address := by
  cases h with
  | digit field digit after action hphase hb hreads =>
    cases hreads with
    | deliver =>
      rw [absorb_eq]
      rfl

/-- A byte that completes a record is a digit, and so no terminator. -/
theorem Moves.ne_terminator (h : Moves d b after (.deliver event consumer block)) :
    b ≠ terminator := by
  cases h with
  | digit field digit after action hphase hb hreads =>
    rintro rfl
    cases hb

end Decoder

namespace Run

variable {κ σ : Type} {host : Host κ σ} {r before : Run κ σ} {b : UInt8} {event : Event} {consumer : κ}
  {block : Delivery}

/-- What follows bytes that are accepted is fed to the run that they lead to. -/
theorem feed_append_of_accepted {first : List UInt8} (hend : terminator ∉ first)
    (hfirst : r.feed host first = (.ok .accepted, before)) (rest : List UInt8) :
    r.feed host (first ++ rest) = before.feed host rest := by
  rw [feed_append, hfirst]
  exact if_neg hend

/-- A feed that is accepted has no other outcome. -/
theorem feed_eq_of_accepted {data : List UInt8} (h : (r.feed host data).1 = .ok .accepted) :
    r.feed host data = (.ok .accepted, (r.feed host data).2) :=
  Prod.ext h rfl

/-- A byte that completes a data record asks the consumer, and the run goes on after its verdict. -/
theorem step_of_deliver (host : Host κ σ)
    (hdeliver : (r.decoder.advance b).2 = .deliver event consumer block) :
    r.step host b = ((r.advanced b).asked host event consumer block).settle block
      (host consumer block r.world).1.verdict := by
  rw [step_eq, hdeliver, act, deliver_eq, world_note]
  rfl

/-- The same event is traced behind the same trace, or by neither. -/
theorem trace_note_congr {s : Run κ σ} (htraced : r.traced = s.traced) (htrace : r.trace = s.trace)
    (event : Event) : (r.note event).trace = (s.note event).trace := by
  unfold note
  rw [htraced]
  split
  · exact congrArg (· ++ [event]) htrace
  · exact htrace

/-- A byte traces its event behind the trace before it. -/
theorem trace_note_advanced (r : Run κ σ) (b : UInt8) (event : Event) :
    ((r.advanced b).note event).trace = (r.note event).trace :=
  trace_note_congr (r := r.advanced b) (s := r) rfl rfl event

/-- Tracing an event does not show in what follows. -/
theorem resume_note (r : Run κ σ) (event : Event) : (r.note event).resume = r.resume := by
  rw [resume, decoder_note, world_note, traced_note, resume]

/-- Runs in step stay so if they go on with traces of their own. -/
theorem InStep.resume {R : Decoder κ → Decoder κ → Prop} {s : Run κ σ} (h : InStep R Eq True r s) :
    InStep R Eq True r.resume s.resume :=
  ⟨h.decoder, h.world, fun _ => ⟨(h.trace trivial).1, rfl⟩⟩

section Restart

variable {reply : Reply} {world : σ}
  (hreply : host consumer block before.world = (reply, world)) (hrestart : reply.restart = true)
include hreply hrestart

/-- A consumer that resets the decoder leaves the run in step with a new one. -/
theorem inStep_asked_of_restart (b : UInt8) (event : Event) :
    InStep Decoder.SameButLeftovers Eq True ((before.advanced b).asked host event consumer block)
      ((Run.start before.decoder.renew world before.traced).ahead (before.note event).trace 0) := by
  have hmoves := Decoder.moves_advance before.decoder b
  have hworld : (before.advanced b).world = before.world := rfl
  have hreset : ((before.advanced b).asked host event consumer block).decoder =
      (before.advanced b).decoder.reset := by
    rw [asked, afterReply, hworld, hreply, if_pos hrestart, decoder_note]
  refine ⟨?_, ?_, fun _ => ⟨traced_note _ event, ?_⟩⟩
  · rw [hreset]
    exact hmoves.renew_eq ▸ Decoder.sameButLeftovers_reset _
  · rw [asked, hworld, hreply]
    rfl
  · exact (trace_note_advanced before b event).trans (List.append_nil _).symm

variable (hforgotten : before.decoder.lastError = none)
  (hdeliver : (before.decoder.advance b).2 = .deliver event consumer block)
include hforgotten hdeliver

/-- If the consumer takes the block, the rest is fed to a run in step with a new one that is ahead by
the byte that completed the record. -/
theorem feed_of_restart_accept (haccept : reply.verdict = .accept) (rest : List UInt8) :
    ∃ next : Run κ σ, before.feed host (b :: rest) = next.feed host rest ∧
      InStep Decoder.SameButLeftovers Eq True next
        ((Run.start before.decoder.renew world before.traced).ahead (before.note event).trace 1) := by
  have hR := (Decoder.bisimulation_sameButLeftovers (κ := κ)).unless fun _ => False
  have hmoves := Decoder.moves_advance before.decoder b
  have hstep := step_of_deliver host hdeliver
  rw [hdeliver] at hmoves
  rw [hreply, haccept] at hstep
  have hasked := inStep_asked_of_restart hreply hrestart b event
  have hnext := (hasked.replace (hR.enterStart _ _ hasked.decoder)).countByte hR
  refine ⟨_, ?_, hnext⟩
  -- the reset has forgotten the last failure, so there is nothing left that a feed would forget
  rw [feed_eq_conclude, setError_eq_self hforgotten,
    readBytes_cons_of_none hmoves.ne_terminator hstep, feed_eq_conclude,
    setError_eq_self (show _ = none from hnext.decoder.lastError)]

/-- If the consumer does not take the block, the feed ends with a failure at the beginning. -/
theorem feed_of_restart_reject (hreject : reply.verdict = .reject) (rest : List UInt8) :
    let error : DecodingError := .own ⟨.rejected before.decoder.address, 0, 1⟩
    ∃ next : Run κ σ, before.feed host (b :: rest) = (.ok (.refused error), next) ∧
      next.trace = ((before.note event).note (.failed error)).trace ∧
      InStep Decoder.SameButLeftovers Eq True next.resume
        ((Run.start before.decoder.renew world before.traced).setError (some error)) := by
  intro error
  have hR := (Decoder.bisimulation_sameButLeftovers (κ := κ)).unless fun _ => False
  have hmoves := Decoder.moves_advance before.decoder b
  have hstep := step_of_deliver host hdeliver
  rw [hdeliver] at hmoves
  rw [hreply, hreject] at hstep
  have hasked := inStep_asked_of_restart hreply hrestart b event
  have hfailure := hasked.failure_eq hR (.rejected block.address.toNat)
  refine ⟨_, ?_, ?_, resume_note _ (.failed error) ▸ (hasked.setError hR (some error)).resume⟩
  · rw [feed_eq_conclude, setError_eq_self hforgotten,
      readBytes_cons_of_some hmoves.ne_terminator hstep, hfailure, hmoves.address_block]
    rfl
  · have htraced : ((before.advanced b).note event).traced = (before.note event).traced :=
      (traced_note _ event).trans (traced_note before event).symm
    exact trace_note_congr
      (r := ((before.advanced b).asked host event consumer block).setError (some error)) htraced
      (trace_note_advanced before b event) _

end Restart

/-- After a consumer that resets the decoder and takes the block, the rest of the feed is done as by a new
decoder with the same setting, ahead by the byte that completed the record unless a consumer resets it
again. If the block is not taken, the feed is refused at the very beginning, the address before the reset
is told, and what follows is done as by a new decoder that remembers this failure. -/
theorem reset_by_consumer {first : List UInt8} {reply : Reply} {world : σ} (host : Host κ σ)
    (r : Run κ σ) (hend : terminator ∉ first) (hfirst : r.feed host first = (.ok .accepted, before))
    (hdeliver : (before.decoder.advance b).2 = .deliver event consumer block)
    (hreply : host consumer block before.world = (reply, world)) (hrestart : reply.restart = true)
    (rest : List UInt8) :
    let fed := r.feed host (first ++ b :: rest)
    let noted := before.note event
    let new := Run.start before.decoder.renew world before.traced
    (reply.verdict = .accept →
      let alone := new.feed host rest
      let lead := host.lead (new.calls host rest) world 1
      fed.1 = alone.1.map (Intake.ahead lead) ∧
        fed.2.trace = noted.trace ++ alone.2.trace.map (Event.ahead lead) ∧
        ∀ ops, Alike (fed.2.resume.performAll host ops)
          ((Run.start (alone.2.decoder.ahead lead) alone.2.world alone.2.traced).performAll host ops)) ∧
      (reply.verdict = .reject →
        let failure : Failure := ⟨.rejected before.decoder.address, 0, 1⟩
        fed.1 = .ok (.refused (.own failure)) ∧
          (∃ digits : List Digit, digits.length = 8 ∧
            Digit.number digits = before.decoder.address ∧
              failure.message = "data block rejected at " ++ Digit.shown digits) ∧
          fed.2.trace = (noted.note (.failed (.own failure))).trace ∧
          (∀ ops, Alike (fed.2.resume.performAll host ops)
            ((new.setError (some (.own failure))).performAll host ops)) ∧
          ∀ op ops, op.Forgets → Alike (fed.2.resume.performAll host (op :: ops))
            (new.performAll host (op :: ops))) := by
  intro fed noted new
  have hfed : fed = before.feed host (b :: rest) := feed_append_of_accepted hend hfirst _
  have hforgotten : before.decoder.lastError = none := lastError_of_accepted hfirst
  refine ⟨fun haccept => ?_, fun hreject => ?_⟩
  · intro alone lead
    obtain ⟨next, hnext, hstep⟩ :=
      feed_of_restart_accept hreply hrestart hforgotten hdeliver haccept rest
    obtain ⟨houtcome, hlast⟩ :=
      hstep.feed Decoder.bisimulation_sameButLeftovers (Host.agree_eq host) rest
    have hnew : new.Placeless := List.forall_mem_nil _
    rw [feed_ahead host _ _ hnew, ← hnext, ← hfed] at houtcome hlast
    exact ⟨houtcome, (hlast.trace trivial).2, fun ops => hlast.resume.alike
      Decoder.bisimulation_sameButLeftovers (fun _ _ hd => hd.view_eq) host ops⟩
  · intro failure
    obtain ⟨next, hnext, htrace, hstep⟩ :=
      feed_of_restart_reject hreply hrestart hforgotten hdeliver hreject rest
    rw [hfed, hnext]
    have halike (ops : List (Operation κ)) := hstep.alike Decoder.bisimulation_sameButLeftovers
      (fun _ _ hd => hd.view_eq) host ops
    obtain ⟨digits, hlength, hnumber, -⟩ := Text.Hex.exists_marked_absolute
      before.decoder.addressing before.decoder.frame.addressLow
    refine ⟨rfl, ⟨digits, hlength, hnumber, Cause.message_rejected hlength hnumber⟩, htrace, halike,
      fun op ops hop => ?_⟩
    rw [← performAll_setError hop (some (.own failure)) new]
    exact halike (op :: ops)

/-- A consumer that resets the decoder at its first call, two data records and a byte that belongs to
none: if the block is taken, the byte is refused one byte further on than by a new decoder, and if it
is not taken, the feed ends at the beginning. -/
theorem reset_by_consumer_once :
    let host : Host Verdict Nat := fun verdict _ count =>
      ({ restart := count = 0, verdict := verdict }, count + 1)
    let run (verdict : Verdict) (count : Nat) :=
      Run.start (.fresh (some verdict) 255 [0]) count true
    let first : List UInt8 :=
      [0x3A, 0x30, 0x31, 0x30, 0x30, 0x30, 0x30, 0x30, 0x30, 0x34, 0x31, 0x42]
    let rest : List UInt8 :=
      [0x3A, 0x30, 0x31, 0x30, 0x30, 0x30, 0x30, 0x30, 0x30, 0x34, 0x32, 0x42, 0x44, 0x78]
    ((run .accept 1).feed host rest).1 = .ok (.refused (.own ⟨.invalidStart 0x78, 13, 1⟩)) ∧
      ((run .accept 0).feed host (first ++ 0x45 :: rest)).1 =
        .ok (.refused (.own ⟨.invalidStart 0x78, 14, 1⟩)) ∧
      ((run .reject 0).feed host (first ++ 0x45 :: rest)).1 =
        .ok (.refused (.own ⟨.rejected 0, 0, 1⟩)) ∧
      (Cause.rejected 0).message = "data block rejected at 0x00000000" := by
  intro host run first rest
  have hend : terminator ∉ first := by decide
  have hfirst : ∀ verdict ∈ [.accept, .reject],
      ((run verdict 0).feed host first).1 = .ok .accepted := by decide
  have hdeliver : ∀ verdict ∈ [.accept, .reject],
      (((run verdict 0).feed host first).2.decoder.advance 0x45).2 =
        .deliver (.data 0 [0x41]) verdict ⟨0, [0x41], 1⟩ := by decide
  have hreply : ∀ verdict ∈ [.accept, .reject],
      host verdict ⟨0, [0x41], 1⟩ ((run verdict 0).feed host first).2.world =
        ({ restart := true, verdict := verdict }, 1) := by decide
  have haccept := (reset_by_consumer host (run .accept 0) hend
    (feed_eq_of_accepted (hfirst .accept (by decide))) (hdeliver .accept (by decide))
    (hreply .accept (by decide)) rfl rest).1 rfl
  have hreject := (reset_by_consumer host (run .reject 0) hend
    (feed_eq_of_accepted (hfirst .reject (by decide))) (hdeliver .reject (by decide))
    (hreply .reject (by decide)) rfl rest).2 rfl
  have haddress : ((run .reject 0).feed host first).2.decoder.address = 0 := by decide
  rw [haddress] at hreject
  refine ⟨by decide, ?_, hreject.1, by decide +kernel⟩
  rw [haccept.1]
  decide

end Run

end IntelHex
