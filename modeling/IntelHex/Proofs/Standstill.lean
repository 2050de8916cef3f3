import IntelHex.Proofs.Stopping

/-!
# Nothing but a reset leads out of a record that is too large

A run whose decoder is held at a record that is too large turns every input away at its first byte. No
consumer is asked, since no record is ever completed, and the payload buffer is left alone, since no
payload ever begins. So the run stays where it got stuck, whatever is fed and whoever is registered,
until it is reset.
-/

namespace IntelHex

/-- What a feed comes to where a record is too large: its first byte is refused, unless the input ends
there. -/
def Decoder.turnAway {κ : Type} (d : Decoder κ) : List UInt8 → Intake
  | [] => .accepted
  | b :: _ => if b = terminator then .accepted else .refused (.own (d.failure (d.objection b)))

namespace Run

variable {κ σ : Type} {host : Host κ σ} {stuck r : Run κ σ}

/-- A run that is where it got stuck, and no consumer has been asked since. -/
structure Held (stuck r : Run κ σ) : Prop where
  decoder : stuck.decoder.HeldAt r.decoder
  world : r.world = stuck.world

namespace Held

/-- The error that is remembered does not matter. -/
theorem setError (h : Held stuck r) (error : Option DecodingError) :
    Held stuck (r.setError error) :=
  ⟨h.decoder.touch _ _ _ error, h.world⟩

/-- Tracing an event leads nowhere. -/
theorem note (h : Held stuck r) (event : Event) : Held stuck (r.note event) := by
  refine ⟨?_, (world_note r event).trans h.world⟩
  rw [decoder_note]
  exact h.decoder

/-- A byte is refused where the decoder got stuck. -/
theorem step (h : Held stuck r) (host : Host κ σ) (b : UInt8) :
    r.step host b =
        (some (.failed (.own (stuck.decoder.failure (stuck.decoder.objection b)))), r.advanced b) ∧
      Held stuck (r.advanced b) := by
  obtain ⟨hrefuse, hafter⟩ := h.decoder.advance b
  refine ⟨?_, hafter, h.world⟩
  rw [step_eq, hrefuse, Decoder.failure, ← hafter.position]
  rfl

/-- Input is turned away, and makes no call. -/
theorem feed (h : Held stuck r) (host : Host κ σ) (data : List UInt8) :
    (r.feed host data).1 = .ok (stuck.decoder.turnAway data) ∧
      Held stuck (r.feed host data).2 ∧ r.calls host data = [] := by
  have hstart := h.setError none
  rw [feed_eq_conclude, calls]
  cases data with
  | nil => exact ⟨rfl, hstart, rfl⟩
  | cons b rest =>
    by_cases hb : b = terminator
    · subst hb
      rw [readBytes_terminator, readings_terminator]
      exact ⟨rfl, hstart, rfl⟩
    · obtain ⟨hstep, hafter⟩ := hstart.step host b
      rw [readBytes_cons_of_some hb hstep, calls_of_refuse host hb (hstart.decoder.advance b).1,
        Decoder.turnAway, if_neg hb]
      refine ⟨rfl, ?_, rfl⟩
      exact (hafter.setError _).note _

/-- Without a reset, any operations leave the run where it got stuck. -/
theorem performAll (h : Held stuck r) (host : Host κ σ) {ops : List (Operation κ)}
    (hops : ∀ op ∈ ops, op ≠ .reset) : Held stuck (r.performAll host ops).2 :=
  performAll_lasts (fun op hop _ hheld => perform_lasts (fun _ data h => (h.feed host data).2.1)
    (fun _ consumer h => ⟨h.decoder.touch _ _ consumer _, h.world⟩)
    (fun hreset => absurd hreset (hops op hop)) hheld) h

end Held

/-- A feed that was refused for the size of a payload leaves the decoder with a record that is too
large. -/
theorem oversized_of_refused {data : List UInt8} {failure : Failure} {declared capacity : Nat}
    (hrefused : (r.feed host data).1 = .ok (.refused (.own failure)))
    (hcause : failure.cause = .countOverflow declared capacity) :
    (r.feed host data).2.decoder.Oversized := by
  rw [feed_eq_conclude] at hrefused ⊢
  rcases hread : readBytes host data (r.setError none) with ⟨_ | stop, last⟩
  · rw [hread] at hrefused
    cases hrefused
  obtain ⟨first, b, rest, before, -, -, -, -, hstep⟩ := exists_stop_of_readBytes hread
  have hmoves := Decoder.moves_advance before.decoder b
  rw [hread] at hrefused
  cases Steps.of_eq hstep with
  | reject =>
    cases hrefused
    cases hcause
  | overrun => cases hrefused
  | raise => cases hrefused
  | fail => cases hrefused
  | @refuse cause haction =>
    cases hrefused
    obtain rfl : cause = .countOverflow declared capacity := hcause
    rw [haction] at hmoves
    obtain ⟨hphase, hlater, hsome, hlarge⟩ := hmoves.oversized
    rw [conclude, decoder_note]
    exact ⟨hphase, hlater, hsome, hlarge⟩

/-- A record whose payload has been found too large is the end until a reset, from any state. Whatever is
fed and whatever consumers are registered, the decoder stays at the type of the record, and its position,
addressing, address and payload buffer are unchanged. No consumer has been asked nor is going to be, and
the first byte of a feed is refused: it is no digit, no accepted type, or the payload is too large. -/
theorem oversize_is_terminal {data : List UInt8} {failure : Failure} {declared capacity : Nat}
    (host : Host κ σ) (r : Run κ σ) (hrefused : (r.feed host data).1 = .ok (.refused (.own failure)))
    (hcause : failure.cause = .countOverflow declared capacity) {ops : List (Operation κ)}
    (hops : ∀ op ∈ ops, op ≠ .reset) :
    let stuck := (r.feed host data).2
    let later := (stuck.performAll host ops).2
    later.decoder.phase = .within .recordType ∧
      later.decoder.position = stuck.decoder.position ∧
      later.decoder.addressing = stuck.decoder.addressing ∧
      later.decoder.address = stuck.decoder.address ∧
      later.decoder.frame.payload = stuck.decoder.frame.payload ∧
      later.world = stuck.world ∧
      (∀ bytes, later.calls host bytes = []) ∧
      ∀ input count b rest, selected? input count = some (b :: rest) → b ≠ terminator →
        (later.feedCounted host input count).1 =
          .ok (.refused (.own (stuck.decoder.failure (stuck.decoder.objection b)))) := by
  intro stuck later
  have hstuck : Held stuck stuck := ⟨.refl (oversized_of_refused hrefused hcause), rfl⟩
  have hlater : Held stuck later := hstuck.performAll host hops
  refine ⟨hlater.decoder.oversized.phase, hlater.decoder.position, hlater.decoder.addressing,
    hlater.decoder.address_eq, hlater.decoder.payload, hlater.world,
    fun bytes => (hlater.feed host bytes).2.2, ?_⟩
  intro input count b rest hbytes hb
  rw [feedCounted_of_selected hbytes, (hlater.feed host (b :: rest)).1, Decoder.turnAway, if_neg hb]

/-- A record of two payload bytes, in front of a buffer for one: neither the two bytes nor another
consumer make the decoder go on, and a digit that is an accepted type is refused for the size of the
payload once more. -/
theorem oversize_is_terminal_two_bytes :
    let host : Host Unit Nat := fun _ _ count => ({ verdict := .accept }, count + 1)
    let r := Run.start (.fresh (some ()) 1 [0]) 0 false
    let data : List UInt8 := [0x3A, 0x30, 0x32, 0x30, 0x30, 0x30, 0x30, 0x30, 0x30]
    let ops : List (Operation Unit) :=
      [.feed [0x34, 0x31, 0x34, 0x32] none, .register none, .stream 3 (.ofBytes [0x0D, 0x0A])]
    let later := ((r.feed host data).2.performAll host ops).2
    (r.feed host data).1 = .ok (.refused (.own ⟨.countOverflow 2 1, 8, 1⟩)) ∧ later.world = 0 ∧
      (later.feedCounted host [0x30, 0x37, 0x42] (some 2)).1 =
        .ok (.refused (.own ⟨.countOverflow 2 1, 8, 1⟩)) := by
  intro host r data ops later
  have hrefused : (r.feed host data).1 = .ok (.refused (.own ⟨.countOverflow 2 1, 8, 1⟩)) := by decide
  have hops : ∀ op ∈ ops, op ≠ .reset := by simp [ops]
  have hsilent : (r.feed host data).2.world = 0 := by decide
  have hcause : (r.feed host data).2.decoder.failure ((r.feed host data).2.decoder.objection 0x30) =
      ⟨.countOverflow 2 1, 8, 1⟩ := by decide
  obtain ⟨-, -, -, -, -, hworld, -, hfeed⟩ := oversize_is_terminal host r hrefused rfl hops
  have hfed := hfeed [0x30, 0x37, 0x42] (some 2) 0x30 [0x37] rfl (by decide)
  rw [hcause] at hfed
  exact ⟨hrefused, hworld.trans hsilent, hfed⟩

end Run

end IntelHex
