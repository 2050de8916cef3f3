import IntelHex.Proofs.Renewal

/-!
# Bytes that can be skipped

A byte that is no digit inside a record, or neither a colon nor a line end between records, is refused
before the record is touched. Inside a record nothing has changed but the failure that is remembered.
Between records the checksum is forgotten and no digit waits for its partner any more; the next byte
would have done the same before anything else, whatever byte it is. So once the failure is forgotten,
which a reset and a feed begin with, nobody can tell that the byte has been there.
-/

namespace IntelHex

namespace Decoder

variable {κ : Type} {d e after : Decoder κ}

/-- Decoders that differ in nothing that the next byte reads: they are the same but for what is left
of the last record, at once or, between records, after they have forgotten the checksum. -/
inductive SameToRead (d e : Decoder κ) : Prop
  /-- They are the same at once. -/
  | same (h : SameButLeftovers d e)
  /-- They are the same between records. -/
  | between (hphase : d.phase = .start) (h : SameButLeftovers d.clearSum e.clearSum)

/-- What is forgotten cannot be read off. -/
theorem SameToRead.view_eq (h : SameToRead d e) : d.view = e.view := by
  cases h with
  | same h => exact h.view_eq
  | between hphase h => exact h.view_eq

/-- Decoders that are to be treated alike can be treated alike before they have forgotten the
checksum, too, as long as this leaves them between records. -/
theorem SameToRead.touch (h : SameToRead d e) {f : Decoder κ → Decoder κ}
    (hf : ∀ d e, SameButLeftovers d e → SameButLeftovers (f d) (f e))
    (hphase : ∀ d, d.phase = .start → (f d).phase = .start)
    (hclear : ∀ d, (f d).clearSum = f d.clearSum) : SameToRead (f d) (f e) := by
  cases h with
  | same h => exact .same (hf _ _ h)
  | between hstart h =>
    refine .between (hphase d hstart) ?_
    rw [hclear, hclear]
    exact hf _ _ h

/-- No byte and no operation brings to light what the next byte does not read. -/
theorem bisimulation_sameToRead : Bisimulation (SameToRead (κ := κ)) where
  advance d e b h := by
    have hR := bisimulation_sameButLeftovers (κ := κ)
    cases h with
    | same h => exact (hR.advance d e b h).imp_right .same
    | between hphase h =>
      have hother : e.phase = .start := h.phase.symm.trans hphase
      rw [advance_of_start hphase, advance_of_start hother]
      exact (h.onStart b).imp_right .same
  position d e h := congrArg View.position h.view_eq
  addressOf d e low h := by
    cases h with
    | same h => exact bisimulation_sameButLeftovers.addressOf d e low h
    | between hphase h => exact bisimulation_sameButLeftovers.addressOf d.clearSum e.clearSum low h
  enterStart d e h :=
    h.touch bisimulation_sameButLeftovers.enterStart (fun _ _ => rfl) fun _ => rfl
  reset d e h := h.touch bisimulation_sameButLeftovers.reset (fun _ _ => rfl) fun _ => rfl
  advanceByte d e h :=
    h.touch bisimulation_sameButLeftovers.advanceByte (fun _ hphase => hphase) fun _ => rfl
  register d e consumer h :=
    h.touch (fun d e => bisimulation_sameButLeftovers.register d e consumer)
      (fun _ hphase => hphase) fun _ => rfl
  setError d e error h :=
    h.touch (fun d e => bisimulation_sameButLeftovers.setError d e error)
      (fun _ hphase => hphase) fun _ => rfl

/-- A byte that is refused for itself leaves the decoder the same to read. -/
theorem Moves.sameToRead {b : UInt8} {cause : Cause} (h : Moves d b after (.refuse cause))
    (hcause : ∃ byte, cause = .invalidStart byte ∨ cause = .invalidDigit byte) :
    SameToRead after d := by
  cases h with
  | invalidStart hphase => exact .between hphase (.refl d.clearSum)
  | invalidDigit => exact .same (.refl d)
  | digit field digit after action hphase hb hreads =>
    obtain ⟨byte, rfl | rfl⟩ := hcause <;> cases hreads

end Decoder

/-- An operation that begins by forgetting the last error: a reset, or a feed with a valid count. -/
def Operation.Forgets {κ : Type} : Operation κ → Prop
  | .reset => True
  | .feed data count => (Run.selected? data count).isSome
  | _ => False

namespace Run

variable {κ σ : Type} {host : Host κ σ} {r : Run κ σ} {b : UInt8} {op : Operation κ}

/-- An operation that forgets the last error does not depend on it. -/
theorem perform_setError (hop : op.Forgets) (error : Option DecodingError) (r : Run κ σ) :
    (r.setError error).perform host op = r.perform host op := by
  cases op with
  | reset => rfl
  | feed data count =>
    obtain ⟨bytes, hbytes⟩ := Option.isSome_iff_exists.1 hop
    rw [perform, perform, feedCounted_of_selected hbytes, feedCounted_of_selected hbytes]
    rfl
  | stream | register | address => exact hop.elim

/-- Operations that begin by forgetting the last error do not depend on it. -/
theorem performAll_setError (hop : op.Forgets) (error : Option DecodingError) (r : Run κ σ)
    (ops : List (Operation κ)) :
    (r.setError error).performAll host (op :: ops) = r.performAll host (op :: ops) := by
  rw [performAll, perform_setError hop, performAll]

/-- A byte that is refused is refused in a step. -/
theorem exists_step_of_refused {error : DecodingError}
    (hrefused : (r.feed host [b]).1 = .ok (.refused error)) :
    ∃ next, (r.setError none).step host b = (some (.failed error), next) ∧
      (r.feed host [b]).2 = (next.setError (some error)).note (.failed error) := by
  rw [feed_eq_conclude] at hrefused ⊢
  by_cases hb : b = terminator
  · subst hb
    cases hrefused
  · rcases hstep : (r.setError none).step host b with ⟨_ | stop, next⟩
    · rw [readBytes_cons_of_none hb hstep] at hrefused
      cases hrefused
    · rw [readBytes_cons_of_some hb hstep] at hrefused ⊢
      match stop with
      | .failed _ =>
        cases hrefused
        exact ⟨next, rfl, rfl⟩
      | .raised _ => cases hrefused
      | .overrun => cases hrefused

/-- A byte that is refused for itself can be skipped, from any state: the operations that follow, the
first of which forgets the failure, give the same results, leave the consumers in the same state,
trace the same events and leave a decoder that shows the same as without the byte. -/
theorem skip_refused_byte {failure : Failure} (host : Host κ σ) (r : Run κ σ)
    (hrefused : (r.feed host [b]).1 = .ok (.refused (.own failure)))
    (hcause : ∃ byte, failure.cause = .invalidStart byte ∨ failure.cause = .invalidDigit byte)
    (hop : op.Forgets) (ops : List (Operation κ)) :
    (r.feed host [b]).2.world = r.world ∧
      Alike ((r.feed host [b]).2.resume.performAll host (op :: ops))
        (r.resume.performAll host (op :: ops)) := by
  obtain ⟨next, hstep, hfed⟩ := exists_step_of_refused hrefused
  have hmoves := Decoder.moves_advance (r.setError none).decoder b
  cases Steps.of_eq hstep with
  | reject =>
    obtain ⟨byte, hcause | hcause⟩ := hcause <;> cases hcause
  | refuse haction =>
    rw [haction] at hmoves
    have hsame := Decoder.bisimulation_sameToRead.setError _ _ none (hmoves.sameToRead hcause)
    have hstart : InStep Decoder.SameToRead Eq True
        ((r.feed host [b]).2.resume.setError none) (r.resume.setError none) := by
      rw [hfed]
      refine ⟨?_, world_note _ _, fun _ => ⟨traced_note _ _, rfl⟩⟩
      rw [setError, resume, start, decoder_note]
      exact hsame
    have halike := hstart.alike Decoder.bisimulation_sameToRead
      (fun _ _ hd => hd.view_eq) host (op :: ops)
    rw [performAll_setError hop, performAll_setError hop] at halike
    have hworld : (r.feed host [b]).2.world = r.world := by
      rw [hfed]
      exact world_note _ _
    exact ⟨hworld, halike⟩

/-- Between a carriage return and its line feed, a byte that is neither a colon nor a line end: when it
has been refused, the line feed still belongs to the carriage return. -/
theorem skip_refused_byte_after_return :
    let host : Host Unit Unit := fun _ _ world => ({ verdict := .accept }, world)
    let r := ((Run.start (.fresh (some ()) 255 [0]) () true).feed host [0x0D]).2
    let ops : List (Operation Unit) := [.feed [0x0A] none, .feed [0x78] none]
    (r.feed host [0x78]).1 = .ok (.refused (.own ⟨.invalidStart 0x78, 1, 2⟩)) ∧
      ((r.feed host [0x78]).2.resume.performAll host ops).2.decoder.position.line = 2 ∧
      Alike ((r.feed host [0x78]).2.resume.performAll host ops) (r.resume.performAll host ops) := by
  intro host r ops
  have hrefused : (r.feed host [0x78]).1 = .ok (.refused (.own ⟨.invalidStart 0x78, 1, 2⟩)) := rfl
  have hforgets : (Operation.feed [0x0A] none : Operation Unit).Forgets := rfl
  obtain ⟨-, halike⟩ :=
    skip_refused_byte host r hrefused ⟨0x78, .inl rfl⟩ hforgets [.feed [0x78] none]
  exact ⟨hrefused, by decide, halike⟩

end Run

end IntelHex
